import RetroBrowser.RuntimeAgent.Run
import RetroBrowser.SessionEntrypoint.Properties.NetplayHost
import RetroBrowser.SessionEntrypoint.Specification

/-!
Owns the handover of a runtime specification: what the agent writes for a request
it accepts, and what the launcher reads from that file.

Contract: both sides have models of their own. The launcher takes shorter player
names than the agent, and bounds the path in the container where the agent bounds
the path that was requested.
-/

namespace RetroBrowser.SessionEntrypoint

open RetroBrowser.Foundation Validation
open RetroBrowser.RuntimeAgent (RuntimeService CreateRuntimeRequest exampleAgent exampleRequest
  exampleTables)

/-- The launcher's value for a role. -/
def NetplayRole.specified : RuntimeAgent.NetplayRole → NetplayRole
  | .standalone => .standalone
  | .host => .host
  | .client => .client

/-- The ROM in the container, as the specification names it. -/
def canonicalPath (self : RuntimeService) (request : CreateRuntimeRequest) : String :=
  self.containerRom (PurePath.Posix.suffix request.romPath.toList)

/-- What a request asks the launcher for. -/
def specified (self : RuntimeService) (request : CreateRuntimeRequest) : RuntimeSpec where
  sessionId := request.sessionId
  participantId := request.participantId
  userId := request.userId
  playerName := request.playerName
  game := ⟨canonicalPath self request, request.romSha256⟩
  emulator := ⟨request.coreProfile⟩
  netplay := ⟨NetplayRole.specified request.netplay.role, request.netplay.host,
    request.netplay.port⟩
  stream := ⟨request.streamSubfolder, .hd720p60⟩
  persistence := ⟨if self.config.saveDataRoot.isSome ∧ request.netplay.role = .host then
    .hostAuthoritative else .ephemeral⟩

section Document

variable (self : RuntimeService) (request : CreateRuntimeRequest)

def gameDocument : Json := .object [
  ("canonical_path", .string (canonicalPath self request)),
  ("expected_sha256", .string request.romSha256)]

def netplayDocument : Json := .object [
  ("host", optionalDocument request.netplay.host),
  ("port", .number request.netplay.port),
  ("role", .string request.netplay.role.text)]

def streamDocument : Json := .object [
  ("display_profile", .string "hd-720p60"),
  ("subfolder", .string request.streamSubfolder)]

def persistenceDocument : Json := .object [
  ("save_mode", .string (if self.config.saveDataRoot.isSome ∧ request.netplay.role = .host then
    "host-authoritative" else "ephemeral"))]

/-- The members of the document, sorted by their keys. -/
def sortedMembers : List (String × Json) := [
  ("emulator", .object [("core_profile", .string request.coreProfile)]),
  ("game", gameDocument self request),
  ("netplay", netplayDocument request),
  ("participant_id", .string (UUID.str request.participantId)),
  ("persistence", persistenceDocument self request),
  ("player_name", .string request.playerName),
  ("schema_version", .number 1),
  ("session_id", .string (UUID.str request.sessionId)),
  ("stream", streamDocument request),
  ("user_id", .string request.userId)]

theorem sortKeys_netplayDump :
    Json.sortKeys (RuntimeService.netplayDump request.netplay) = netplayDocument request := by
  unfold RuntimeService.netplayDump netplayDocument
  cases request.netplay.host <;>
    simp [Json.sortKeys, Json.sortMembers, List.insertionSort, List.orderedInsert, optionalDocument]

theorem sortKeys_specification :
    Json.sortKeys (self.specification request) = .object (sortedMembers self request) := by
  simp [RuntimeService.specification, sortKeys_netplayDump, Json.sortKeys, Json.sortMembers,
    List.insertionSort, List.orderedInsert, sortedMembers, gameDocument, streamDocument,
    persistenceDocument, canonicalPath]

theorem exact_optionalDocument (value : Option String) : (optionalDocument value).exact = true := by
  cases value <;> rfl

theorem exact_sortedMembers : (Json.object (sortedMembers self request)).exact = true := by
  simp [sortedMembers, gameDocument, netplayDocument, streamDocument, persistenceDocument,
    Json.exact, Json.exactMembers, exact_optionalDocument]

theorem tidy_optionalDocument (value : Option String) : (optionalDocument value).tidy = true := by
  cases value <;> rfl

/-- The keys are distinct, and the port is no long number. -/
theorem tidy_sortedMembers (port : request.netplay.port ≤ 65535) :
    (Json.object (sortedMembers self request)).tidy = true := by
  have short : (Nat.toDigits 10 request.netplay.port).length ≤ Json.maxDigits := by
    have bound := (Nat.length_toDigits_le_iff (by decide : 1 < 10) (by decide : 0 < 5)).mpr
      (show request.netplay.port < 10 ^ 5 by omega)
    exact bound.trans (by decide)
  have one : (Nat.toDigits 10 1).length ≤ Json.maxDigits := by decide
  simp [sortedMembers, gameDocument, netplayDocument, streamDocument, persistenceDocument,
    Json.tidy, Json.tidyMembers, tidy_optionalDocument, short, one]

end Document

/-! ## The file is small enough -/

section Size

variable {self : RuntimeService} {request : CreateRuntimeRequest}

theorem length_of_lengthBetween {low high : ℕ} {value : String}
    (between : Pattern.lengthBetween low high value = true) : value.length ≤ high := by
  rw [Pattern.lengthBetween, Bool.and_eq_true, decide_eq_true_eq, decide_eq_true_eq] at between
  exact between.2

/-- What bounds the lengths of the texts in a specification. -/
structure Short (spec : RuntimeSpec) : Prop where
  userId : spec.userId.length ≤ 128
  playerName : spec.playerName.length ≤ 31
  canonicalPath : spec.game.canonicalPath.length ≤ 4096
  digest : spec.game.expectedSha256.length ≤ 64
  coreProfile : spec.emulator.coreProfile.length ≤ 64
  host : ∀ host ∈ spec.netplay.host, host.length ≤ 253
  port : spec.netplay.port ≤ 65535
  subfolder : spec.stream.subfolder.length ≤ 96

/-- An accepted specification has short texts. -/
theorem short_of_accepted {tables : PythonText.CharacterTables} {spec : RuntimeSpec}
    (accepted : spec.errors tables = []) : Short spec := by
  simp only [RuntimeSpec.errors, modelErrors_eq_nil, List.append_eq_nil_iff, fieldErrors_eq_nil,
    nested_eq_nil, and_assoc] at accepted
  obtain ⟨user, _, player, _, game, emulator, netplay, stream, _⟩ := accepted
  simp only [GameSpec.errors, EmulatorSpec.errors, NetplaySpec.errors, StreamSpec.errors,
    modelErrors_eq_nil, List.append_eq_nil_iff, fieldErrors_eq_nil, Bool.and_eq_true,
    decide_eq_true_eq, and_true, and_assoc] at game emulator netplay stream
  obtain ⟨host, _, _, high, _⟩ := netplay
  rw [safeId, Bool.and_eq_true] at user
  rw [coreProfileId, Bool.and_eq_true] at emulator
  have digest := game.2
  rw [Pattern.sha256, Bool.and_eq_true, beq_iff_eq] at digest
  exact {
    userId := length_of_lengthBetween user.1
    playerName := length_of_lengthBetween player
    canonicalPath := length_of_lengthBetween game.1
    digest := digest.1.le
    coreProfile := length_of_lengthBetween emulator.1
    host := fun text there => length_of_lengthBetween (Option.all_eq_true _ _ |>.mp host text there)
    port := high
    subfolder := length_of_lengthBetween stream.1 }

/-- With the bounds of the launcher's models, the file is not longer than it may be. -/
theorem specText_length_le (short : Short (specified self request)) :
    (self.specText request).length ≤ maxSpecBytes := by
  have sums : ∀ {lengths : List ℕ} {bounds : List ℕ}, List.Forall₂
    (· ≤ ·) lengths bounds →
      lengths.sum ≤ bounds.sum := fun each => List.Forall₂.sum_le_sum each
  -- With its quotes no key has more than seventeen characters.
  have emulator : (Json.dumps (.object [("core_profile", .string request.coreProfile)])).length ≤
      [770].sum + 1 * (17 + 2) + 2 := by
    apply Json.dumps_object_length_le 1 17 _ rfl
    · simp
      decide
    · exact sums (.cons (Json.dumps_string_length_le short.coreProfile) .nil)
  have game : (Json.dumps (gameDocument self request)).length ≤
      [49154, 770].sum + 2 * (17 + 2) + 2 := by
    apply Json.dumps_object_length_le 2 17 _ rfl
    · simp
      decide
    · exact sums (.cons (Json.dumps_string_length_le short.canonicalPath)
        (.cons (Json.dumps_string_length_le short.digest) .nil))
  have netplay : (Json.dumps (netplayDocument request)).length ≤
      [3038, 5, 122].sum + 3 * (17 + 2) + 2 := by
    apply Json.dumps_object_length_le 3 17 _ rfl
    · simp
      decide
    · have role : request.netplay.role.text.length ≤ 10 := by
        cases request.netplay.role <;> decide
      have host : (Json.dumps (optionalDocument request.netplay.host)).length ≤ 3038 := by
        have bounded := short.host
        cases host : request.netplay.host with
        | none => decide
        | some text =>
            have there : (specified self request).netplay.host = some text := host
            exact Json.dumps_string_length_le (bounded text there)
      exact sums (.cons host (.cons (Json.dumps_number_length_le _ short.port)
        (.cons (Json.dumps_string_length_le role) .nil)))
  have stream : (Json.dumps (streamDocument request)).length ≤
      [110, 1154].sum + 2 * (17 + 2) + 2 := by
    apply Json.dumps_object_length_le 2 17 _ rfl
    · simp
      decide
    · have profile : "hd-720p60".length ≤ 9 := by decide
      exact sums (.cons (Json.dumps_string_length_le profile)
        (.cons (Json.dumps_string_length_le short.subfolder) .nil))
  have persistence : (Json.dumps (persistenceDocument self request)).length ≤
      [218].sum + 1 * (17 + 2) + 2 := by
    apply Json.dumps_object_length_le 1 17 _ rfl
    · simp
      decide
    · have mode : (if self.config.saveDataRoot.isSome ∧ request.netplay.role = .host then
          "host-authoritative" else "ephemeral").length ≤ 18 := by
        split <;> decide
      exact sums (.cons (Json.dumps_string_length_le mode) .nil)
  have whole : (Json.dumps (.object (sortedMembers self request))).length ≤
      [791, 49964, 3224, 434, 239, 374, 5, 434, 1304, 1538].sum + 10 * (17 + 2) + 2 := by
    apply Json.dumps_object_length_le 10 17 _ rfl
    · simp [sortedMembers]
      decide
    · exact sums (.cons emulator (.cons game (.cons netplay
        (.cons (Json.dumps_string_length_le (UUID.str_length _).le) (.cons persistence
        (.cons (Json.dumps_string_length_le short.playerName)
          (.cons (Json.dumps_number_length_le 1 (by decide))
        (.cons (Json.dumps_string_length_le (UUID.str_length _).le) (.cons stream
        (.cons (Json.dumps_string_length_le short.userId) .nil))))))))))
  rw [RuntimeService.specText, Json.dumpsSorted, sortKeys_specification, List.length_append,
    List.length_singleton]
  exact (Nat.add_le_add_right whole 1).trans (by decide)

end Size

/-! ## The document is read as the request says -/

section Reading

variable {self : RuntimeService} {request : CreateRuntimeRequest}

/-- The document is accepted just where the record that the request asks for has no errors. -/
theorem modelValidate_specification (tables : PythonText.CharacterTables) (spec : RuntimeSpec) :
    RuntimeSpec.modelValidate tables (.object (sortedMembers self request)) = .ok spec ↔
      spec = specified self request ∧ spec.errors tables = [] := by
  apply RuntimeSpec.modelValidate_object
  · simp [sortedMembers, RuntimeSpec.fieldNames]
  · rfl
  · rfl
  · exact readUUID_str _
  · rfl
  · exact readUUID_str _
  · rfl
  · rfl
  · rfl
  · exact fun part => GameSpec.modelValidate_object (by simp) rfl rfl
  · rfl
  · exact fun part => EmulatorSpec.modelValidate_object (by simp) rfl
  · rfl
  · intro part
    have literal : NetplayRole.literals.lookup request.netplay.role.text =
        some (NetplayRole.specified request.netplay.role) := by
      cases request.netplay.role <;> rfl
    exact NetplaySpec.modelValidate_object (by simp) rfl literal rfl rfl
  · rfl
  · exact fun part => StreamSpec.modelValidate_object (by simp) rfl rfl rfl
  · rfl
  · intro part
    have literal : SaveMode.literals.lookup
        (if self.config.saveDataRoot.isSome ∧ request.netplay.role = .host then
          "host-authoritative" else "ephemeral") =
        some (specified self request).persistence.saveMode := by
      unfold specified
      split <;> rfl
    exact PersistenceSpec.modelValidate_object (by simp) rfl literal

/-- Names that the agent takes are refused by the launcher just for their length. -/
theorem validatePlayerName_of_plain {name : String} (plain : RuntimeAgent.plainName name = true) :
    RuntimeSpec.validatePlayerName name = .ok () := by
  rw [RuntimeAgent.plainName, Bool.and_eq_true, beq_iff_eq, List.all_eq_true] at plain
  obtain ⟨stripped, printable⟩ := plain
  unfold RuntimeSpec.validatePlayerName
  apply if_neg
  intro bad
  cases bad with
  | inl space => exact space stripped.symm
  | inr control =>
      obtain ⟨character, member, unprintable⟩ := List.any_eq_true.mp control
      have fine := printable character member
      simp only [Bool.or_eq_true, decide_eq_true_eq, beq_iff_eq, Bool.and_eq_true, bne_iff_ne]
        at unprintable fine
      omega

theorem canonicalPath_nonempty : 1 ≤ (canonicalPath self request).length := by
  rw [canonicalPath, RuntimeService.containerRom, String.length_append]
  exact Nat.le_add_right_of_le (by decide)

/-- For a request that the agent accepts, the launcher's models ask for two bounds more. -/
theorem errors_specified (valid : request.valid self.library.tables = true) :
    (specified self request).errors self.library.tables = [] ↔
      request.playerName.length ≤ 31 ∧ (canonicalPath self request).length ≤ 4096 := by
  simp only [CreateRuntimeRequest.valid, Bool.and_eq_true, and_assoc] at valid
  obtain ⟨user, player, plain, _, _, digest, profile, netplay, folder, _⟩ := valid
  have roles : (NetplayRole.specified request.netplay.role).asRequested = request.netplay.role := by
    cases request.netplay.role <;> rfl
  have requested : NetplaySpec.requested self.library.tables (specified self request).netplay := by
    unfold NetplaySpec.requested specified
    dsimp only
    rwa [roles]
  have netplays : (specified self request).netplay.errors self.library.tables = [] :=
    (accepted_iff _).mpr ((requested_iff _).mp requested)
  have names : Pattern.lengthBetween 1 31 request.playerName = true ↔
      request.playerName.length ≤ 31 := by
    rw [Pattern.lengthBetween, Bool.and_eq_true, decide_eq_true_eq, decide_eq_true_eq] at player ⊢
    exact and_iff_right player.1
  have paths : Pattern.lengthBetween 1 4096 (canonicalPath self request) = true ↔
      (canonicalPath self request).length ≤ 4096 := by
    rw [Pattern.lengthBetween, Bool.and_eq_true, decide_eq_true_eq, decide_eq_true_eq]
    exact and_iff_right canonicalPath_nonempty
  have saves : (specified self request).persistentSaveBelongsToHost = .ok () := by
    apply if_neg
    rintro ⟨mode, role⟩
    apply role
    have hosting : self.config.saveDataRoot.isSome ∧ request.netplay.role = .host := by
      by_contra other
      have ephemeral : (specified self request).persistence.saveMode = .ephemeral := if_neg other
      rw [ephemeral] at mode
      cases mode
    show NetplayRole.specified request.netplay.role = .host
    rw [hosting.2]
    rfl
  have safe : safeId request.userId = true := user
  have core : coreProfileId request.coreProfile = true := profile
  have stream : (specified self request).stream.errors = [] :=
    fieldErrors_eq_nil.mpr ⟨folder, rfl⟩
  rw [RuntimeSpec.errors, modelErrors_eq_nil, netplays, stream]
  simp only [specified, GameSpec.errors, EmulatorSpec.errors, List.append_eq_nil_iff,
    fieldErrors_eq_nil, nested_eq_nil, safe, core, digest, names, paths,
    validatePlayerName_of_plain plain, and_true, true_and]
  exact and_iff_left saves

end Reading

/-- A valid request names a port. -/
theorem port_le (tables : PythonText.CharacterTables) {request : CreateRuntimeRequest}
    (valid : request.valid tables = true) : request.netplay.port ≤ 65535 := by
  simp only [CreateRuntimeRequest.valid, RuntimeAgent.NetplayRequest.valid, Bool.and_eq_true,
    decide_eq_true_eq, and_assoc] at valid
  exact valid.2.2.2.2.2.2.2.2.1

/-- The launcher reads the file just where the record that the request asks for has no errors. -/
theorem loadRuntimeSpec_specText (self : RuntimeService) (request : CreateRuntimeRequest)
    (spec : RuntimeSpec) (port : request.netplay.port ≤ 65535) :
    loadRuntimeSpec self.library.tables (.written (self.specText request)) = .ok spec ↔
      spec = specified self request ∧
        (specified self request).errors self.library.tables = [] := by
  have own := exact_sortedMembers self request
  have text : self.specText request =
      Json.dumps (.object (sortedMembers self request)) ++ ['\n'] := by
    rw [RuntimeService.specText, Json.dumpsSorted, sortKeys_specification]
  have read : Json.loads Json.rejectDuplicateKeys (self.specText request) =
      .ok (.object (sortedMembers self request)) := by
    rw [text]
    exact Json.loads_dumps Json.keeps_rejectDuplicateKeys own
      (tidy_sortedMembers self request port) rfl
  have ascii : (self.specText request).all Json.isAscii = true := by
    rw [text, List.all_append, Json.isAscii_dumps _ own]
    rfl
  have size : (SpecFile.written (self.specText request)).size = (self.specText request).length :=
    Json.utf8Size_ascii ascii
  have validated : ∀ spec, RuntimeSpec.modelValidate self.library.tables
        (.object (sortedMembers self request)) = .ok spec ↔
      spec = specified self request ∧ spec.errors self.library.tables = [] :=
    modelValidate_specification self.library.tables
  unfold loadRuntimeSpec
  rw [size]
  simp only [SpecFile.written, Bool.true_eq_false, if_false, Bool.false_eq_true, or_self, read]
  constructor
  · intro loaded
    split at loaded
    · cases loaded
    · cases made : RuntimeSpec.modelValidate self.library.tables
          (.object (sortedMembers self request)) with
      | error errors =>
          rw [made] at loaded
          cases loaded
      | ok other =>
          rw [made] at loaded
          cases loaded
          obtain ⟨same, accepted⟩ := (validated spec).mp made
          exact ⟨same, same ▸ accepted⟩
  · rintro ⟨same, accepted⟩
    have small := specText_length_le (short_of_accepted accepted)
    rw [if_neg (Nat.not_lt.mpr small), (validated spec).mpr ⟨same, same ▸ accepted⟩]
    rfl

/-- The launcher accepts the file that the agent writes for a request it has accepted if and only
if the player name has at most 31 characters and the path in the container at most 4096, and then
it reads what the request says. -/
theorem specification_accepted_iff (self : RuntimeService) (request : CreateRuntimeRequest)
    (spec : RuntimeSpec) (valid : request.valid self.library.tables = true) :
    loadRuntimeSpec self.library.tables (.written (self.specText request)) = .ok spec ↔
      spec = specified self request ∧ request.playerName.length ≤ 31 ∧
        (canonicalPath self request).length ≤ 4096 := by
  rw [loadRuntimeSpec_specText self request spec (port_le _ valid), errors_specified valid]

theorem example_specification_accepted :
    loadRuntimeSpec exampleTables
      (.written ((exampleAgent.service .working).specText exampleRequest)) =
        .ok (specified (exampleAgent.service .working) exampleRequest) :=
  (specification_accepted_iff (exampleAgent.service .working) exampleRequest _
    (by decide +kernel)).mpr
    ⟨rfl, by decide, by decide⟩

end RetroBrowser.SessionEntrypoint
