import Mathlib.Data.List.Nodup
import RetroBrowser.Foundation.JsonText
import RetroBrowser.Foundation.Lookup
import RetroBrowser.SessionEntrypoint.Launcher
import RetroBrowser.SessionEntrypoint.Properties.NetplayHost

/-!
Owns that the generated configuration says what the launcher means: read as lines of
keys and quoted texts, it has just the settings of the runtime, in order, and under
distinct keys.
-/

namespace RetroBrowser.SessionEntrypoint

open RetroBrowser.Foundation
open RetroBrowser.Foundation.ConfigText
open RetroBrowser.Foundation.Hostname (AgreesOnAscii)

variable {tables : PythonText.CharacterTables}

/-! ## Quoting -/

/-- The two replacements put a backslash before each backslash and quote. -/
theorem replaceCharacter_eq_escape (value : Text) :
    replaceCharacter '"' ['\\', '"'] (replaceCharacter '\\' ['\\', '\\'] value) = escape value := by
  induction value with
  | nil => rfl
  | cons character rest inductionHypothesis =>
      unfold replaceCharacter escape at inductionHypothesis ⊢
      rw [List.flatMap_cons, List.flatMap_append, inductionHypothesis, List.flatMap_cons]
      congr 1
      by_cases slash : character = '\\'
      · subst slash
        decide
      · by_cases quote : character = '"'
        · subst quote
          decide
        · simp [slash, quote]

/-! ## The settings -/

namespace ResolvedRuntime

variable (runtime : ResolvedRuntime tables)

/-- The intended keys and values, in order. -/
def settings : List (Text × Text) := runtime.values.map fun (key, value) => (key.toList, value)

/-- The lines are those of the settings. -/
theorem managed_eq :
    (runtime.values.map fun (key, value) => key.toList ++ " = ".toList ++ quoteConfig value) =
      runtime.settings.map writeSetting := by
  rw [settings, List.map_map]
  refine List.map_congr_left fun (key, value) _ => ?_
  show _ ++ quoteConfig value = _ ++ _
  rw [quoteConfig, replaceCharacter_eq_escape]

/-- The keys of the fixed settings. -/
def fixedKeys : List String :=
  ["netplay_nickname", "netplay_ip_port", "netplay_mode", "netplay_ip_address",
    "netplay_public_announce", "netplay_use_mitm_server", "netplay_nat_traversal",
    "netplay_spectator_mode_enable", "netplay_client_swap_input", "netplay_delay_frames",
    "netplay_allow_pausing", "netplay_max_connections", "config_save_on_exit",
    "block_sram_overwrite", "core_options_path", "savefile_directory", "savestate_directory",
    "system_directory"]

theorem fixedValues_keys : runtime.fixedValues.map Prod.fst = fixedKeys := rfl

theorem toString_digits (number : ℕ) :
    (toString number).toList = Nat.toDigits 10 number := by simp

theorem deviceKey_text (item : ℕ × ℕ) :
    (deviceValue item).1.toList = "input_libretro_device_p".toList ++ (toString item.1).toList :=
  String.toList_append

/-- Each port has a key of its own, which is no fixed one. -/
theorem deviceKey_injective {left right : ℕ × ℕ}
    (same : (deviceValue left).1 = (deviceValue right).1) : left.1 = right.1 := by
  have texts := congrArg String.toList same
  rw [deviceKey_text, deviceKey_text, List.append_cancel_left_eq, toString_digits,
    toString_digits] at texts
  exact Json.toDigits_injective texts

theorem deviceKey_head (item : ℕ × ℕ) : (deviceValue item).1.toList.head? = some 'i' := by
  have start : "input_libretro_device_p".toList.head? = some 'i' := by decide
  rw [deviceKey_text, List.head?_append, start]
  rfl

theorem keys_nodup : (runtime.settings.map Prod.fst).Nodup := by
  have texts : runtime.settings.map Prod.fst = (runtime.values.map Prod.fst).map String.toList := by
    rw [settings, List.map_map, List.map_map]
    rfl
  rw [texts]
  refine (List.nodup_map_iff fun _ _ same => String.toList_injective same).mpr ?_
  rw [values, List.map_append, fixedValues_keys, List.map_map]
  have ports :
      ((runtime.profile.controllerPortDevices.items.mergeSort inOrder).map Prod.fst).Nodup :=
    ((List.mergeSort_perm _ inOrder).map Prod.fst).nodup_iff.mpr
      runtime.profile.controllerPortDevices.distinct
  refine List.nodup_append.mpr ⟨by decide, ?_, ?_⟩
  · refine List.pairwise_map.mpr ((List.pairwise_map.mp ports).imp ?_)
    intro left right differs same
    exact differs (deviceKey_injective same)
  · intro key fixed other device same
    have heads : ∀ key ∈ fixedKeys, key.toList.head? ≠ some 'i' := by decide
    have ⟨item, _, equal⟩ := List.mem_map.mp device
    refine heads key fixed ?_
    rw [same, ← equal]
    exact deviceKey_head item

end ResolvedRuntime

/-! ## Values without line ends -/

theorem newline_toString (number : ℕ) : '\n' ∉ (toString number).toList := by
  intro member
  rw [ResolvedRuntime.toString_digits] at member
  exact absurd (Json.isDigit_of_mem member) (by decide)

/-- What the accepted specification says of its name and its host. -/
theorem accepted_texts (runtime : ResolvedRuntime tables) :
    RuntimeSpec.validatePlayerName runtime.spec.playerName = .ok () ∧
      runtime.spec.netplay.accepted tables := by
  have accepted := runtime.accepted
  simp only [RuntimeSpec.errors, modelErrors_eq_nil, List.append_eq_nil_iff, fieldErrors_eq_nil,
    nested_eq_nil, and_assoc] at accepted
  obtain ⟨_, _, _, name, _, _, netplay, _, _⟩ := accepted
  exact ⟨name, netplay⟩

theorem newline_playerName (runtime : ResolvedRuntime tables) :
    '\n' ∉ runtime.spec.playerName.toList := by
  intro member
  have ⟨name, _⟩ := accepted_texts runtime
  have control : (runtime.spec.playerName.toList.any fun character =>
      character.toNat < 32 || character.toNat == 127) = true :=
    List.any_eq_true.mpr ⟨'\n', member, by decide⟩
  simp only [RuntimeSpec.validatePlayerName, control, or_true, if_true] at name
  exact absurd name (by simp)

theorem newline_host (agrees : AgreesOnAscii tables.isAlnum) (runtime : ResolvedRuntime tables) :
    '\n' ∉ (runtime.spec.netplay.host.getD "").toList := by
  have ⟨_, netplay⟩ := accepted_texts runtime
  have acceptable := (accepted_iff _).mp netplay
  cases host : runtime.spec.netplay.host with
  | none => simp
  | some name =>
      intro member
      have labels := (hostLabels_iff name).mp (acceptable.host name host).2
      have noDot : '\n' ≠ '.' := by decide
      have inName : '\n' ∈ name.toList := member
      have ⟨label, listed, inside⟩ := mem_piece inName noDot
      have kind := (labels label listed).inner '\n' inside
      rw [agrees '\n' (by decide)] at kind
      exact absurd kind (by decide)

/-- Proper names are joined to a root, and no line end is in any of them. -/
structure SessionPath.Clean (path : SessionPath) : Prop where
  root : '\n' ∉ path.root
  parts : ∀ part ∈ path.parts, PurePath.Proper '/' part ∧ '\n' ∉ part

theorem SessionPath.Clean.child {path : SessionPath} (clean : path.Clean) {name : String}
    (proper : PurePath.Proper '/' name.toList ∧ '\n' ∉ name.toList) :
    (path.child name).Clean where
  root := clean.root
  parts := by
    intro part member
    rcases List.mem_append.mp member with old | new
    · exact clean.parts part old
    · rw [List.mem_singleton.mp new]
      exact proper

theorem SessionPath.Clean.newline {path : SessionPath} (clean : path.Clean) :
    '\n' ∉ path.str := by
  intro member
  rcases PurePath.Posix.mem_joined (fun part listed => (clean.parts part listed).1) member with
    slash | dot | root | ⟨part, listed, inside⟩
  · exact absurd slash (by decide)
  · exact absurd dot (by decide)
  · exact clean.root root
  · exact (clean.parts part listed).2 inside

theorem clean_identifier (id : UUID) :
    PurePath.Proper '/' (UUID.str id).toList ∧ '\n' ∉ (UUID.str id).toList := by
  refine ⟨UUID.proper_str id, fun member => ?_⟩
  rcases UUID.mem_str member with dash | ⟨digit, small, same⟩
  · exact absurd dash (by decide)
  · revert digit
    decide

theorem clean_home {runtime : ResolvedRuntime tables} (plain : '\n' ∉ runtime.sessionRoot) :
    runtime.sessionHome.Clean := by
  have root : SessionPath.Clean ⟨runtime.sessionRoot, []⟩ := ⟨plain, by simp⟩
  exact (root.child (clean_identifier _)).child (clean_identifier _)

/-! ## The configuration -/

/-- The settings a reader finds behind the heading. -/
def readManaged (config : Text) : Option (List (Text × Text)) :=
  readSettings (sectionAfter generatedBy config)

theorem newline_fixedValues (agrees : AgreesOnAscii tables.isAlnum)
    {runtime : ResolvedRuntime tables}
    (plain : '\n' ∉ runtime.sessionRoot) :
    ∀ value ∈ runtime.fixedValues, '\n' ∉ value.2 := by
  have home := clean_home plain
  have inHome : ∀ name ∈ ["saves", "states", "system", "config", "retroarch-core-options.cfg"],
      PurePath.Proper '/' name.toList ∧ '\n' ∉ name.toList := by decide
  have saves : '\n' ∉ runtime.saveDirectory := by
    unfold ResolvedRuntime.saveDirectory
    split
    · decide
    · exact (home.child (inHome "saves" (by simp))).newline
  have mode : '\n' ∉ (if runtime.spec.netplay.role = .client then "true"
      else "false").toList := by
    split <;> decide
  have options := (home.child (inHome "config" (by simp))).child
    (inHome "retroarch-core-options.cfg" (by simp))
  have states := home.child (inHome "states" (by simp))
  have system := home.child (inHome "system" (by simp))
  have true : '\n' ∉ "true".toList := by decide
  have false : '\n' ∉ "false".toList := by decide
  have zero : '\n' ∉ "0".toList := by decide
  unfold ResolvedRuntime.fixedValues
  simp only [List.forall_mem_cons, List.not_mem_nil, false_implies, implies_true, and_true]
  exact ⟨newline_playerName runtime, newline_toString _, mode, newline_host agrees runtime, false,
    false, false, false, false, zero, false, newline_toString _, false, true,
    options.newline, saves, states.newline, system.newline⟩

theorem writable_settings (agrees : AgreesOnAscii tables.isAlnum) {runtime : ResolvedRuntime tables}
    (plain : '\n' ∉ runtime.sessionRoot) :
    ∀ setting ∈ runtime.settings, Writable setting := by
  intro setting member
  have ⟨(key, value), listed, equal⟩ := List.mem_map.mp member
  subst equal
  rcases List.mem_append.mp listed with fixed | device
  · have keys : ∀ key ∈ ResolvedRuntime.fixedKeys, key.toList ≠ [] ∧
        key.toList.all isKeyCharacter = true := by decide
    have own : key ∈ ResolvedRuntime.fixedKeys := by
      rw [← ResolvedRuntime.fixedValues_keys runtime]
      exact List.mem_map_of_mem fixed
    have ⟨nonempty, allowed⟩ := keys key own
    exact ⟨nonempty, List.all_eq_true.mp allowed, newline_fixedValues agrees plain _ fixed⟩
  · have ⟨item, _, same⟩ := List.mem_map.mp device
    have ofItem : (ResolvedRuntime.deviceValue item).1 = key := congrArg Prod.fst same
    have ofDevice : (ResolvedRuntime.deviceValue item).2 = value := congrArg Prod.snd same
    subst ofItem ofDevice
    refine ⟨fun (empty : (ResolvedRuntime.deviceValue item).1.toList = []) => ?_,
      fun character (inside : character ∈ (ResolvedRuntime.deviceValue item).1.toList) => ?_,
      newline_toString _⟩
    · have head := ResolvedRuntime.deviceKey_head item
      rw [empty] at head
      exact absurd head (by simp)
    · have start : ∀ character ∈ "input_libretro_device_p".toList,
          isKeyCharacter character = true := List.all_eq_true.mp (by decide)
      rw [ResolvedRuntime.deviceKey_text] at inside
      rcases List.mem_append.mp inside with front | number
      · exact start character front
      · rw [ResolvedRuntime.toString_digits] at number
        rw [isKeyCharacter, Char.isAlphanum, Json.isDigit_of_mem number, Bool.or_true, Bool.true_or]

theorem readManaged_render (agrees : AgreesOnAscii tables.isAlnum)
    {runtime : ResolvedRuntime tables} (plain : '\n' ∉ runtime.sessionRoot) (baseConfig : Text) :
    readManaged (renderRetroarchConfig baseConfig runtime) = some runtime.settings := by
  have heading : '\n' ∉ generatedBy := by decide
  have start : ∃ character ∈ generatedBy.head?, isKeyCharacter character = false :=
    ⟨'#', rfl, by decide⟩
  have present : runtime.settings ≠ [] := List.cons_ne_nil _ _
  have read :=
    readSettings_section heading start (baseConfig.rdropWhile PythonText.isSpace ++ ['\n'])
    present (writable_settings agrees plain)
  rw [← ResolvedRuntime.managed_eq, List.append_assoc] at read
  exact read

/-- The saves in the home of the session are not the shared ones. -/
theorem saves_ne_shared (runtime : ResolvedRuntime tables) :
    (runtime.sessionHome.child "saves").str ≠ ResolvedRuntime.persistentSaveRoot := by
  have session := UUID.proper_str runtime.spec.sessionId
  have participant := UUID.proper_str runtime.spec.participantId
  have proper : ∀ part ∈ [(UUID.str runtime.spec.sessionId).toList,
      (UUID.str runtime.spec.participantId).toList] ++ ["saves".toList],
      PurePath.Proper '/' part := by
    simp only [List.cons_append, List.nil_append, List.forall_mem_cons]
    exact ⟨session, participant, by decide, by simp⟩
  have ⟨front, ends⟩ := PurePath.Posix.joined_concat runtime.sessionRoot
    (List.cons_ne_nil _ _) proper
  intro same
  have suffix : ('/' :: "saves".toList) <:+ ResolvedRuntime.persistentSaveRoot :=
    ⟨front, ends.symm.trans same⟩
  exact absurd suffix (by decide)

/-- Saves go to the shared mount just for a host that asks for it. -/
theorem saveDirectory_shared (runtime : ResolvedRuntime tables) :
    runtime.saveDirectory = ResolvedRuntime.persistentSaveRoot ↔
      runtime.spec.netplay.role = .host ∧ runtime.spec.persistence.saveMode =
        .hostAuthoritative := by
  have ⟨_, belongs⟩ := modelErrors_eq_nil.mp runtime.accepted
  unfold RuntimeSpec.persistentSaveBelongsToHost at belongs
  unfold ResolvedRuntime.saveDirectory
  by_cases shared : runtime.spec.persistence.saveMode = .hostAuthoritative
  · rw [if_pos shared]
    refine iff_of_true rfl ⟨?_, shared⟩
    by_contra other
    rw [if_pos ⟨shared, other⟩] at belongs
    exact absurd belongs (by simp)
  · rw [if_neg shared]
    exact iff_of_false (saves_ne_shared runtime) fun ⟨_, mode⟩ => shared mode

/-- Whatever stands in the base configuration, behind the heading a reader finds just the
settings of the runtime, in order and under distinct keys, and saves go to the shared
mount just for a host that asks for it. -/
theorem configuration_injection_free (agrees : AgreesOnAscii tables.isAlnum)
    (runtime : ResolvedRuntime tables) (plain : '\n' ∉ runtime.sessionRoot) (baseConfig : Text) :
    readManaged (renderRetroarchConfig baseConfig runtime) = some runtime.settings ∧
    (runtime.settings.map Prod.fst).Nodup ∧
    (("savefile_directory".toList, ResolvedRuntime.persistentSaveRoot) ∈ runtime.settings ↔
      runtime.spec.netplay.role = .host ∧
        runtime.spec.persistence.saveMode = .hostAuthoritative) := by
  refine ⟨readManaged_render agrees plain baseConfig, runtime.keys_nodup, ?_⟩
  rw [← saveDirectory_shared]
  have own : ("savefile_directory".toList, runtime.saveDirectory) ∈ runtime.settings := by
    have fixed : ("savefile_directory", runtime.saveDirectory) ∈ runtime.fixedValues := by
      simp [ResolvedRuntime.fixedValues]
    exact List.mem_map.mpr ⟨_, List.mem_append_left _ fixed, rfl⟩
  constructor
  · intro member
    exact (congrArg Prod.snd (eq_of_key runtime.keys_nodup member own rfl)).symm
  · intro same
    exact same ▸ own

private def exampleArtifact : ManifestArtifact where
  name := "Mesen"
  version := "0.9.9"
  artifactPath := "/opt/cores/mesen_libretro.so"
  artifactSha256 := "aaaaaaaaaaaaaaaaaaaaaaaaaaaaaaaaaaaaaaaaaaaaaaaaaaaaaaaaaaaaaaaa"

/-- A host whose name has quotes and a backslash, with a device on its second port. -/
private def exampleRuntime : ResolvedRuntime latin1Tables where
  spec :=
    { sessionId := 0x11111111111141118111111111111111
      participantId := 0x22222222222242228222222222222222
      userId := "authentik:player-one"
      playerName := "Player \"One\" \\"
      game := ⟨"/run/roms/game.nes",
        "aaaaaaaaaaaaaaaaaaaaaaaaaaaaaaaaaaaaaaaaaaaaaaaaaaaaaaaaaaaaaaaa"⟩
      emulator := ⟨"nes-mesen"⟩
      netplay := ⟨.host, none, 55435⟩
      stream := ⟨"/stream/22222222", .hd720p60⟩
      persistence := ⟨.hostAuthoritative⟩ }
  accepted := by decide +kernel
  profile :=
    { maxPlayers := 4
      controllerTopology := "standard-retropad"
      controllerPortDevices := ⟨[(2, 257)], by decide⟩
      netplayStatus := .notTested
      frontend := exampleArtifact
      core := exampleArtifact }
  approved := by decide +kernel
  sessionRoot := "/run/retro-session".toList

/-- The name is read back as it is, and the saves are shared. -/
theorem configuration_quotes :
    readManaged (renderRetroarchConfig "video_driver = \"gl\"\n".toList exampleRuntime) =
      some exampleRuntime.settings ∧
    (exampleRuntime.settings.map Prod.fst).Nodup ∧
    (("savefile_directory".toList, ResolvedRuntime.persistentSaveRoot) ∈
      exampleRuntime.settings ↔
      exampleRuntime.spec.netplay.role = .host ∧
        exampleRuntime.spec.persistence.saveMode = .hostAuthoritative) :=
  configuration_injection_free latin1Tables_agrees exampleRuntime (by decide) _

end RetroBrowser.SessionEntrypoint
