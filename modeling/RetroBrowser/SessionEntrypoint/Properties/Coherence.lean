import RetroBrowser.RuntimeAgent.Properties.BindSources
import RetroBrowser.RuntimeAgent.Properties.Saves
import RetroBrowser.SessionEntrypoint.Properties.Handover
import RetroBrowser.SessionEntrypoint.Startup

/-!
Owns the agreement of a container with its specification: the environment, the mounts and the
label that the agent gives a container, against what the launcher checks there.

Contract: the agent derives the ROM's place from the requested path for the specification and
from the resolved path for the mount.
-/

namespace RetroBrowser.SessionEntrypoint

open RetroBrowser.Foundation
open RetroBrowser.Foundation.ConfigText (Text)
open RetroBrowser.RuntimeAgent (RuntimeService CreateRuntimeRequest Payload Mount Host
  exampleAgent exampleRequest exampleRomPath exampleDirectory
  exampleGame saveKeyLabel)

/-! ## Variables of an environment -/

/-- The name of the variable that an entry sets. -/
def variableName (entry : String) : List Char :=
  entry.toList.takeWhile fun character => character ≠ '='

/-- One entry sets the variable, to this value. -/
def SetsOnce (env : List String) (name value : String) : Prop :=
  env.filter (fun entry => variableName entry = name.toList) = [name ++ "=" ++ value]

theorem takeWhile_append_of_mem {text rest : List Char} (inside : '=' ∈ text) :
    (text ++ rest).takeWhile (fun character => character ≠ '=') =
      text.takeWhile fun character => character ≠ '=' := by
  induction text with
  | nil => cases inside
  | cons first text inductionHypothesis =>
      by_cases equal : first = '='
      · simp [equal]
      · have later : '=' ∈ text := by simpa [Ne.symm equal] using inside
        simp only [List.cons_append, List.takeWhile_cons, ne_eq, equal, not_false_eq_true,
          decide_true, if_true, List.cons.injEq, true_and]
        simpa using inductionHypothesis later

theorem variableName_append {literal rest : String} (inside : '=' ∈ literal.toList) :
    variableName (literal ++ rest) = variableName literal := by
  unfold variableName
  rw [String.toList_append, takeWhile_append_of_mem inside]

/-- An entry among entries with distinct names sets its variable once. -/
theorem setsOnce_of_mem {env : List String} {name value : String}
    (distinct : (env.map variableName).Nodup) (member : name ++ "=" ++ value ∈ env)
    (named : variableName (name ++ "=" ++ value) = name.toList) : SetsOnce env name value := by
  unfold SetsOnce
  induction env with
  | nil => cases member
  | cons entry env inductionHypothesis =>
      rw [List.map_cons, List.nodup_cons] at distinct
      rcases List.mem_cons.mp member with same | later
      · subst same
        rw [List.filter_cons_of_pos (by simpa using named)]
        have others : env.filter (fun entry => variableName entry = name.toList) = [] := by
          rw [List.filter_eq_nil_iff]
          intro other inside same
          apply distinct.1
          rw [named, ← of_decide_eq_true same]
          exact List.mem_map_of_mem inside
        rw [others]
      · have differs : ¬variableName entry = name.toList := by
          intro same
          apply distinct.1
          rw [same, ← named]
          exact List.mem_map_of_mem later
        rw [List.filter_cons_of_neg (by simpa using differs)]
        exact inductionHypothesis distinct.2 later

/-! ## The agent's environment -/

/-- The variables that the agent always sets, in their order. -/
def fixedVariables : List String := [
  "START_LXQT", "SELKIES_ALLOWED_ORIGINS", "SELKIES_ENABLE_HTTPS", "SELKIES_ENABLE_BASIC_AUTH",
  "SELKIES_MODE", "SELKIES_ENABLE_DUAL_MODE", "SELKIES_ENCODER", "SELKIES_USE_CPU",
  "SELKIES_AUTO_GPU", "SELKIES_FRAMERATE", "SELKIES_MANUAL_RESOLUTION", "SELKIES_MANUAL_WIDTH",
  "SELKIES_MANUAL_HEIGHT", "SELKIES_ENABLE_RESIZE", "SELKIES_USE_CSS_SCALING",
  "SELKIES_SECOND_SCREEN", "SELKIES_AUDIO_ENABLED", "SELKIES_MICROPHONE_ENABLED",
  "SELKIES_GAMEPAD_ENABLED", "SELKIES_UINPUT_GAMEPAD", "SELKIES_WEBCAM_ENABLED",
  "SELKIES_WEBCAM_DEVICE", "SELKIES_WEBCAM_PIPEWIRE", "SELKIES_ENABLE_CLIPBOARD",
  "SELKIES_ENABLE_BINARY_CLIPBOARD", "SELKIES_COMMAND_ENABLED", "SELKIES_FILE_TRANSFERS",
  "SELKIES_ENABLE_SHARING", "SELKIES_ENABLE_COLLAB", "SELKIES_UI_SIDEBAR_SHOW_CLIPBOARD",
  "SELKIES_UI_SIDEBAR_SHOW_FILES", "SELKIES_UI_SIDEBAR_SHOW_SHARING",
  "SELKIES_UI_SIDEBAR_SHOW_WEBCAM", "SELKIES_ENABLE_INTERNAL_TURN", "SELKIES_MASTER_TOKEN",
  "SELKIES_SUBFOLDER"]

def metricsVariables : List String := ["SELKIES_ENABLE_METRICS_HTTP", "RETROBROWSER_METRICS_TOKEN"]

def webrtcVariables : List String := [
  "SELKIES_TURN_REST_URI", "SELKIES_TURN_REST_API_KEY", "SELKIES_TURN_REST_USERNAME",
  "SELKIES_TURN_PROTOCOL", "SELKIES_TURN_TLS", "SELKIES_STUN_HOST", "SELKIES_STUN_PORT",
  "SELKIES_ENABLE_WEBRTC_STATISTICS", "SELKIES_WEBRTC_STATISTICS_DIR"]

/-- All the variables that the agent may set. -/
def agentVariables : List (List Char) :=
  fixedVariables.map String.toList ++ metricsVariables.map String.toList ++
    webrtcVariables.map String.toList

theorem agentVariables_nodup : agentVariables.Nodup := by decide +kernel

section Environment

variable {self : RuntimeService} {request : CreateRuntimeRequest} {env settings : List String}

theorem sublist_of_eq {α : Type} {left right : List α} (same : left = right) :
    left.Sublist right := same ▸ List.Sublist.refl left

theorem webrtc_variables (made : self.webrtcEnvironment request = .ok settings) :
    (settings.map variableName).Sublist (webrtcVariables.map String.toList) := by
  unfold RuntimeService.webrtcEnvironment at made
  split at made
  · cases made
    exact List.nil_sublist _
  · split at made
    · cases made
      apply sublist_of_eq
      simp (disch := decide) only [List.map_cons, List.map_nil, toString, String.append_assoc,
        variableName_append]
      decide +kernel
    · cases made

/-- The agent's environment: what it always sets, the metrics and the connection. -/
theorem environment_variables (made : self.environment request = .ok env) :
    (env.map variableName).Sublist agentVariables ∧
      ∀ entry ∈ ["SELKIES_SUBFOLDER" ++ "=" ++ request.streamSubfolder,
        "SELKIES_MANUAL_WIDTH=1280", "SELKIES_MANUAL_HEIGHT=720", "SELKIES_FRAMERATE=60-60"],
        entry ∈ env := by
  unfold RuntimeService.environment at made
  cases webrtc : self.webrtcEnvironment request with
  | error error =>
      rw [webrtc] at made
      cases made
  | ok settings =>
      rw [webrtc] at made
      have whole := Except.ok.inj made
      subst whole
      constructor
      · rw [List.map_append, List.map_append]
        apply List.Sublist.append (List.Sublist.append ?_ ?_) (webrtc_variables webrtc)
        · apply sublist_of_eq
          simp (disch := decide) only [List.map_cons, List.map_nil, toString, variableName_append]
          decide +kernel
        · split
          · apply sublist_of_eq
            simp (disch := decide) only [List.map_cons, List.map_nil, toString, variableName_append]
            decide +kernel
          · exact List.nil_sublist _
      · intro entry member
        apply List.mem_append_left
        apply List.mem_append_left
        simp only [List.mem_cons, List.not_mem_nil, or_false] at member
        rcases member with same | same | same | same
        · subst same
          simp [toString]
        · subst same
          simp [toString]
        · subst same
          simp [toString]
        · subst same
          simp [toString]

end Environment

/-! ## The container -/

/-- The text of a resolved path names that path. -/
theorem parse_str (path : PurePath.Resolved) :
    PurePath.Posix.parse path.str = ⟨[], ['/'], path.parts⟩ := by
  have plain := PurePath.head_joinNames path.proper
  have parsed := PurePath.Posix.parse_append ['/'] plain
  rw [PurePath.Resolved.str]
  refine parsed.trans ?_
  show (⟨[], ['/'], PurePath.names '/' (PurePath.joinNames '/' path.parts)⟩ :
    PurePath.Parsed) = _
  rw [PurePath.names_joinNames path.proper]

theorem str_injective : Function.Injective PurePath.Resolved.str := by
  intro left right same
  have parsed := (parse_str left).symm.trans ((congrArg _ same).trans (parse_str right))
  cases left
  cases right
  cases congrArg PurePath.Parsed.tail parsed
  rfl

/-- What the launcher finds in a container of this payload: each variable that is set once, each
mount with its mode, and at the place of the ROM a regular file with this content, the only
`game` with whatever suffix in its directory. -/
structure Surroundings.Shows (surroundings : Surroundings) (service : RuntimeService)
    (romPath : PurePath.Resolved) (payload : Payload) (content : List UInt8) : Prop where
  environ : ∀ name value, SetsOnce payload.env name value →
    surroundings.environ name = some value
  mounts : ∀ mount ∈ payload.hostConfig.mounts, ∃ options,
    surroundings.findmnt mount.target.toList = some ⟨mount.target.toList, options⟩ ∧
      Surroundings.mountOptionsAreReadOnly options = mount.readOnly ∧
      (options.splitOn ',').contains "rw".toList = !mount.readOnly
  rom : ∃ root path, surroundings.resolve "/run/roms".toList = some root ∧
    surroundings.resolve (service.containerRom romPath.suffix).toList = some path ∧
    path.str = (service.containerRom romPath.suffix).toList ∧ path.isRelativeTo root = true ∧
    ['.', '.'] ∉ path.parts ∧ surroundings.isFile path = true ∧
    surroundings.read path = some content
  alone : ∀ suffix, '/' ∉ suffix →
    service.containerRom suffix ≠ service.containerRom romPath.suffix →
    surroundings.resolve (service.containerRom suffix).toList = none

/-- The image has the artifacts of the profile. -/
def Surroundings.Provides (surroundings : Surroundings) (profiles : List (String × CoreProfile))
    (coreProfile : String) : Prop :=
  ∃ profile core frontend, profiles.lookup coreProfile = some profile ∧
    surroundings.approvedFile profile.core.artifactPath.toList "/opt/libretro".toList "core"
      profile.core.artifactSha256 "core SHA-256 mismatch" = .ok core ∧
    surroundings.approvedFrontend profile.frontend "/usr/local/bin/retroarch".toList = .ok frontend

section Checks

variable {surroundings : Surroundings} {self : RuntimeService} {request : CreateRuntimeRequest}
  {romPath : PurePath.Resolved} {payload : Payload} {content : List UInt8}

theorem validateStreamEnvironment_ok {spec : RuntimeSpec}
    (set : ∀ expected ∈ Surroundings.expectedEnvironment spec,
      surroundings.environ expected.1 = some expected.2) :
    surroundings.validateStreamEnvironment spec = .ok () := by
  unfold Surroundings.validateStreamEnvironment
  have none : (Surroundings.expectedEnvironment spec).filter (fun expected =>
      surroundings.environ expected.1 ≠ some expected.2) = [] := by
    rw [List.filter_eq_nil_iff]
    intro expected member
    simp [set expected member]
  rw [if_pos none]

/-- The environment that the agent gives a container is the one of its specification. -/
theorem stream_ok {env : List String} (environment : self.environment request = .ok env)
    (environ : ∀ name value, SetsOnce env name value → surroundings.environ name = some value) :
    surroundings.validateStreamEnvironment (specified self request) = .ok () := by
  obtain ⟨named, members⟩ := environment_variables environment
  have distinct := agentVariables_nodup.sublist named
  have given : ∀ {name value : String}, name ++ "=" ++ value ∈ env →
      variableName (name ++ "=" ++ value) = name.toList →
      surroundings.environ name = some value :=
    fun member own => environ _ _ (setsOnce_of_mem distinct member own)
  apply validateStreamEnvironment_ok
  intro expected member
  simp only [Surroundings.expectedEnvironment, List.mem_cons, List.not_mem_nil, or_false] at member
  rcases member with same | same | same | same
  · subst same
    apply given (members _ (by simp [specified]))
    show variableName ("SELKIES_SUBFOLDER" ++ "=" ++ request.streamSubfolder) = _
    rw [variableName_append (by decide)]
    show variableName ("SELKIES_SUBFOLDER" ++ "=") = "SELKIES_SUBFOLDER".toList
    decide +kernel
  · subst same
    exact given (members _ (by simp)) (by decide +kernel)
  · subst same
    exact given (members _ (by simp)) (by decide +kernel)
  · subst same
    exact given (members _ (by simp)) (by decide +kernel)

theorem resolveApprovedFile_ok {candidate root : Text} {label : String}
    {resolvedRoot path : PurePath.Resolved} (rooted : surroundings.resolve root = some resolvedRoot)
    (resolves : surroundings.resolve candidate = some path)
    (beneath : path.isRelativeTo resolvedRoot = true) (regular : surroundings.isFile path = true)
    (own : PurePath.Posix.parse candidate = ⟨[], ['/'], path.parts⟩)
    (plain : ['.', '.'] ∉ path.parts) :
    surroundings.resolveApprovedFile candidate root label = .ok path := by
  have absolute : surroundings.absolute candidate = ⟨[], ['/'], path.parts⟩ := by
    unfold Surroundings.absolute
    rw [own]
    rfl
  have up : path.parts.contains ['.', '.'] = false := by
    simpa using plain
  rw [Surroundings.resolveApprovedFile, rooted, resolves]
  simp only [beneath, regular, own, up, absolute, ne_eq, not_true_eq_false, or_false, if_false,
    Bool.true_eq_false, Bool.false_eq_true]

theorem approvedFile_ok {candidate root : Text} {label expected mismatch : String}
    {path : PurePath.Resolved}
    (resolved : surroundings.resolveApprovedFile candidate root label = .ok path)
    (hashed : surroundings.fileSha256 path = .ok expected) :
    surroundings.approvedFile candidate root label expected mismatch = .ok (path, expected) := by
  unfold Surroundings.approvedFile
  rw [resolved]
  show (surroundings.fileSha256 path >>= _) = _
  rw [hashed]
  show (if expected ≠ expected then _ else _) = _
  rw [if_neg (not_not.mpr rfl)]
  rfl

theorem approvedFrontend_ok {frontend : ManifestArtifact} {path : Text}
    {found : PurePath.Resolved} (resolves : surroundings.resolve path = some found)
    (same : surroundings.resolve frontend.artifactPath.toList = some found)
    (regular : surroundings.isFile found = true)
    (hashed : surroundings.fileSha256 found = .ok frontend.artifactSha256) :
    surroundings.approvedFrontend frontend path = .ok (found, frontend.artifactSha256) := by
  unfold Surroundings.approvedFrontend
  rw [resolves, same]
  show (if found ≠ found ∨ surroundings.isFile found = false then _ else _) = _
  rw [if_neg (by simp [regular])]
  show (surroundings.fileSha256 found >>= _) = _
  rw [hashed]
  show (if frontend.artifactSha256 ≠ frontend.artifactSha256 then _ else _) = _
  rw [if_neg (not_not.mpr rfl)]
  rfl

/-- The ROM that the specification names passes just where it is the mounted one and has the
digest. -/
theorem approvedRom_ok (shows : surroundings.Shows self romPath payload content)
    {suffix : PurePath.Text} (plain : '/' ∉ suffix) (expected : String)
    (found : PurePath.Resolved × String) :
    surroundings.approvedFile (self.containerRom suffix).toList "/run/roms".toList "ROM" expected
        "ROM SHA-256 mismatch" = .ok found ↔
      self.containerRom suffix = self.containerRom romPath.suffix ∧
        found.1.str = (self.containerRom romPath.suffix).toList ∧
        found.2 = expected ∧ (surroundings.sha256 content).hexdigest = expected := by
  obtain ⟨root, path, rootResolves, resolves, text, beneath, direct, regular, reads⟩ :=
    shows.rom
  by_cases same : self.containerRom suffix = self.containerRom romPath.suffix
  · have resolved : surroundings.resolveApprovedFile (self.containerRom suffix).toList
        "/run/roms".toList "ROM" = .ok path := by
      rw [same]
      apply resolveApprovedFile_ok rootResolves resolves beneath regular _ direct
      rw [← text]
      exact parse_str path
    have digest : surroundings.fileSha256 path = .ok (surroundings.sha256 content).hexdigest := by
      rw [Surroundings.fileSha256, reads]
    unfold Surroundings.approvedFile
    rw [resolved]
    show (surroundings.fileSha256 path >>= _) = _ ↔ _
    rw [digest]
    by_cases matching : (surroundings.sha256 content).hexdigest = expected
    · constructor
      · intro accepted
        simp only [bind, Except.bind, pure, Except.pure, matching, ne_eq, not_true_eq_false,
          if_false, Except.ok.injEq] at accepted
        subst accepted
        exact ⟨same, text, rfl, matching⟩
      · rintro ⟨_, place, own, _⟩
        simp only [bind, Except.bind, pure, Except.pure, matching, ne_eq, not_true_eq_false,
          if_false, Except.ok.injEq]
        have one : found.1 = path := str_injective (place.trans text.symm)
        rw [← one, ← own]
    · constructor
      · intro accepted
        simp [bind, Except.bind, matching, throw, throwThe, MonadExceptOf.throw] at accepted
      · rintro ⟨_, _, _, matching'⟩
        exact absurd matching' matching
  · have missing := shows.alone suffix plain same
    have unresolved : surroundings.resolveApprovedFile (self.containerRom suffix).toList
        "/run/roms".toList "ROM" = .error "ROM does not exist" := by
      rw [Surroundings.resolveApprovedFile, missing]
      cases surroundings.resolve "/run/roms".toList <;> rfl
    unfold Surroundings.approvedFile
    rw [unresolved]
    constructor
    · intro refused
      cases refused
    · rintro ⟨same', _⟩
      exact absurd same' same

theorem saveMode_iff : (specified self request).persistence.saveMode = .hostAuthoritative ↔
    (self.saveKey request).isSome = true := by
  unfold specified RuntimeService.saveKey RuntimeService.persistenceKey
  by_cases configured : self.config.saveDataRoot.isSome = true
  · by_cases host : request.netplay.role = .host
    · simp [configured, host]
    · simp [configured, host]
  · simp [configured]

/-- A payload has a mount for saves, a writable one, just when there is a save key. -/
theorem saveMount_iff {directory : Option PurePath.Resolved}
    (claimed : self.Claimed (self.saveKey request) directory)
    (made : self.PayloadOf request romPath (self.fingerprint request) directory
      (self.saveKey request) payload) :
    (∃ mount ∈ payload.hostConfig.mounts, mount.target = "/run/retro-saves" ∧
      mount.readOnly = false) ↔ (self.saveKey request).isSome = true := by
  obtain ⟨romRoot, dockerRomRoot, dockerUserDataRoot, userDataRelative, saves, env, _, _, _,
    mounted, _, same⟩ := made
  subst same
  have own : ∀ mount ∈ [self.romMount romPath dockerRomRoot (romPath.relativeTo romRoot),
      RuntimeService.userDataMount dockerUserDataRoot userDataRelative],
      mount.target ≠ "/run/retro-saves" := by
    intro mount member
    cases List.mem_cons.mp member with
    | inl rom =>
        rw [rom]
        exact RuntimeService.containerRom_ne romPath.suffix
    | inr userData =>
        rw [List.mem_singleton.mp userData]
        show "/run/retro-session" ≠ "/run/retro-saves"
        decide
  unfold RuntimeService.Claimed at claimed
  cases key : self.saveKey request with
  | none =>
      rw [key] at claimed
      have none : saves = [] := by
        rw [claimed] at mounted
        exact mounted
      subst none
      constructor
      · rintro ⟨mount, member, target, _⟩
        exact absurd target (own mount (by simpa [RuntimeService.payloadDocument] using member))
      · intro some
        cases some
  | some digest =>
      rw [key] at claimed
      obtain ⟨saved, same, _⟩ := claimed
      subst same
      obtain ⟨saveDataRoot, root, dockerRoot, _, _, equal, _⟩ := mounted
      subst equal
      exact ⟨fun _ => rfl, fun _ =>
        ⟨_, List.mem_append_right _ List.mem_cons_self, rfl, rfl⟩⟩

/-- With the artifacts of the image in place, only the ROM decides. -/
theorem resolveRuntime_eq {profiles : List (String × CoreProfile)} {spec : RuntimeSpec}
    (provides : surroundings.Provides profiles spec.emulator.coreProfile) :
    ∃ core frontend : PurePath.Resolved × String,
      surroundings.resolveRuntime spec profiles {} =
        (surroundings.approvedFile spec.game.canonicalPath.toList "/run/roms".toList "ROM"
          spec.game.expectedSha256 "ROM SHA-256 mismatch").map fun rom =>
            ⟨rom.1, rom.2, core.1, core.2, frontend.1, frontend.2⟩ := by
  obtain ⟨profile, core, frontend, found, approved, selected⟩ := provides
  refine ⟨core, frontend, ?_⟩
  unfold Surroundings.resolveRuntime
  rw [found]
  show (surroundings.approvedFile _ _ _ _ _ >>= _) = _
  cases surroundings.approvedFile spec.game.canonicalPath.toList "/run/roms".toList "ROM"
      spec.game.expectedSha256 "ROM SHA-256 mismatch" with
  | error message => rfl
  | ok rom =>
      show (surroundings.approvedFile _ _ _ _ _ >>= _) = _
      rw [approved]
      show (surroundings.approvedFrontend _ _ >>= _) = _
      rw [selected]
      rfl

theorem validateReadOnlyMount_ok {path options : Text}
    (readOnly : Surroundings.mountOptionsAreReadOnly options = true)
    (found : surroundings.findmnt path = some ⟨path, options⟩) :
    surroundings.validateReadOnlyMount path = .ok () := by
  unfold Surroundings.validateReadOnlyMount
  simp [found, readOnly]

theorem validatePersistentSaveMount_ok {path options : Text}
    (writable : (options.splitOn ',').contains "rw".toList = true)
    (found : surroundings.findmnt path = some ⟨path, options⟩) :
    surroundings.validatePersistentSaveMount path = .ok () := by
  unfold Surroundings.validatePersistentSaveMount
  rw [found]
  exact if_neg fun refused => refused.elim (fun other => other rfl) fun closed => by
    rw [writable] at closed
    cases closed

end Checks

/-- A container passes the launcher's checks for the specification that the agent wrote if and
only if the requested and the resolved path give the ROM one place and the mounted file has the
digest of the request; and saves are the host's just where the container has a writable mount for
them, which is where it has the label of a save. -/
theorem container_passes_checks_iff (surroundings : Surroundings) (self : RuntimeService)
    (request : CreateRuntimeRequest) (profiles : List (String × CoreProfile))
    (content : List UInt8) (first second : Host) (romPath runtimeDirectory : PurePath.Resolved)
    (directory : Option PurePath.Resolved) (payload : Payload)
    (claimed : (self.claimPersistence (self.saveKey request) first).1 = .returned directory)
    (computed : (self.payload request romPath runtimeDirectory (self.fingerprint request) directory
      (self.saveKey request) second).1 = .returned payload)
    (shows : surroundings.Shows self romPath payload content)
    (provides : surroundings.Provides profiles request.coreProfile) :
    ((∃ artifacts, surroundings.validated (specified self request) profiles
      {} = .ok artifacts) ↔
      canonicalPath self request = self.containerRom romPath.suffix ∧
        (surroundings.sha256 content).hexdigest = request.romSha256) ∧
    ((specified self request).persistence.saveMode = .hostAuthoritative ↔
      ∃ mount ∈ payload.hostConfig.mounts, mount.target = "/run/retro-saves" ∧
        mount.readOnly = false) ∧
    ((specified self request).persistence.saveMode = .hostAuthoritative ↔
      (payload.labels.lookup saveKeyLabel).isSome = true) := by
  obtain ⟨_, claims⟩ := self.quiet_claimPersistence (self.saveKey request) first
  rw [claimed] at claims
  obtain ⟨_, made⟩ := self.quiet_payload request romPath runtimeDirectory
    (self.fingerprint request) directory (self.saveKey request) second
  rw [computed] at made
  have saves := saveMount_iff claims made
  obtain ⟨romRoot, dockerRomRoot, dockerUserDataRoot, userDataRelative, saveMounts, env,
    _, _, _, _, environment, whole⟩ := made
  subst whole
  have writable := saveMode_iff.trans saves.symm
  refine ⟨?_, writable, ?_⟩
  · have stream : surroundings.validateStreamEnvironment (specified self request) = .ok () :=
      stream_ok environment shows.environ
    have provided : surroundings.Provides profiles (specified self request).emulator.coreProfile :=
      provides
    obtain ⟨core, frontend, resolved⟩ := resolveRuntime_eq provided
    have rom := approvedRom_ok shows (PurePath.Posix.slash_suffix request.romPath.toList)
      request.romSha256
    unfold Surroundings.validated
    rw [stream, resolved]
    show (∃ artifacts, ((surroundings.approvedFile (canonicalPath self request).toList _ _
      request.romSha256 _).map _ >>= _) = .ok artifacts) ↔ _
    cases approved : surroundings.approvedFile (canonicalPath self request).toList
        "/run/roms".toList "ROM" request.romSha256 "ROM SHA-256 mismatch" with
    | error message =>
        constructor
        · rintro ⟨artifacts, refused⟩
          cases refused
        · rintro ⟨same, matching⟩
          obtain ⟨_, path, _, _, text, _⟩ := shows.rom
          have found := (rom ⟨path, request.romSha256⟩).mpr ⟨same, text, rfl, matching⟩
          cases approved.symm.trans found
    | ok found =>
        obtain ⟨same, place, _, matching⟩ := (rom found).mp approved
        refine iff_of_true ⟨⟨found.1, found.2, core.1, core.2, frontend.1, frontend.2⟩, ?_⟩
          ⟨same, matching⟩
        have readOnly : surroundings.validateReadOnlyMount found.1.str = .ok () := by
          obtain ⟨options, there, mode, _⟩ := shows.mounts _
            (List.mem_append_left _ (List.mem_cons_self ))
          rw [place]
          exact validateReadOnlyMount_ok mode there
        show (surroundings.validateReadOnlyMount found.1.str >>= _) = _
        rw [readOnly]
        by_cases host : (specified self request).persistence.saveMode = .hostAuthoritative
        · obtain ⟨mount, member, target, unlocked⟩ := writable.mp host
          obtain ⟨options, there, _, mode⟩ := shows.mounts mount member
          rw [target] at there
          rw [unlocked] at mode
          have saved : surroundings.validatePersistentSaveMount "/run/retro-saves".toList =
              .ok () := validatePersistentSaveMount_ok mode there
          show (if _ then _ else _) = _
          rw [if_pos host]
          show (surroundings.validatePersistentSaveMount "/run/retro-saves".toList >>= _) = _
          rw [saved]
          rfl
        · show (if _ then _ else _) = _
          rw [if_neg host]
          rfl
  · rw [saveMode_iff]
    show _ ↔ ((RuntimeAgent.RuntimeService.payloadLabels _ _ _).lookup saveKeyLabel).isSome = true
    rw [RuntimeAgent.RuntimeService.lookup_saveKeyLabel, Option.isSome_map]

section Example

/-- The example's request from a single player. -/
def exampleGuestRequest : CreateRuntimeRequest :=
  { exampleRequest with netplay := ⟨.standalone, none, 55435⟩ }

/-- A profile whose artifacts the image has. -/
def exampleProfile : CoreProfile where
  maxPlayers := 2
  controllerTopology := "two-pads"
  controllerPortDevices := ⟨[], List.nodup_nil⟩
  netplayStatus := .validated
  frontend := ⟨"RetroArch", "1.21.0", "/usr/local/bin/retroarch", exampleRequest.romSha256⟩
  core := ⟨"nes", "1.0", "/opt/libretro/nes_libretro.so", exampleRequest.romSha256⟩

/-- The paths of the container, none of them a link. -/
def exampleResolve (text : Text) : Option PurePath.Resolved :=
  let parts := PurePath.names '/' text
  if proper : ["/run/roms".toList, "/opt/libretro".toList, "/run/roms/game.nes".toList,
      "/opt/libretro/nes_libretro.so".toList, "/usr/local/bin/retroarch".toList].contains text =
        true ∧
      ∀ part ∈ parts, PurePath.Proper '/' part
  then some ⟨parts, proper.2⟩ else none

/-- A container of a payload, in which each file is the example's game. -/
def exampleSurroundings (payload : Payload) : Surroundings where
  environ name := (payload.env.find? fun entry => variableName entry = name.toList).map fun entry =>
    String.ofList (entry.toList.drop (name.toList.length + 1))
  resolve := exampleResolve
  isFile _ := true
  read _ := some exampleGame
  findmnt text := (payload.hostConfig.mounts.find? fun mount => mount.target.toList = text).map
    fun mount => ⟨text, if mount.readOnly then "ro,nosuid".toList else "rw,nosuid".toList⟩
  workingDirectory := ⟨[], by simp⟩
  sha256 := Sha2.sha256

variable {payload : Payload}

theorem environ_of_setsOnce {name value : String} (sets : SetsOnce payload.env name value) :
    (exampleSurroundings payload).environ name = some value := by
  have head := congrArg List.head? sets
  rw [List.head?_filter] at head
  show ((payload.env.find? fun entry => variableName entry = name.toList).map _) = _
  rw [head]
  simp

theorem example_digest : (Sha2.sha256 exampleGame).hexdigest = exampleRequest.romSha256 := by
  decide +kernel

theorem example_hashed (path : PurePath.Resolved) :
    (exampleSurroundings payload).fileSha256 path = .ok exampleRequest.romSha256 :=
  congrArg Except.ok example_digest

theorem example_provides :
    (exampleSurroundings payload).Provides [("nes", exampleProfile)] "nes" := by
  have coreRoot : exampleResolve "/opt/libretro".toList =
      some ⟨["opt".toList, "libretro".toList], by decide⟩ := by decide +kernel
  have core : exampleResolve "/opt/libretro/nes_libretro.so".toList =
      some ⟨["opt".toList, "libretro".toList, "nes_libretro.so".toList], by decide⟩ := by
    decide +kernel
  have frontend : exampleResolve "/usr/local/bin/retroarch".toList =
      some ⟨["usr".toList, "local".toList, "bin".toList, "retroarch".toList], by decide⟩ := by
    decide +kernel
  have resolved : (exampleSurroundings payload).resolveApprovedFile
      "/opt/libretro/nes_libretro.so".toList "/opt/libretro".toList "core" =
        .ok ⟨["opt".toList, "libretro".toList, "nes_libretro.so".toList], by decide⟩ :=
    resolveApprovedFile_ok coreRoot core (by decide) rfl (by decide +kernel) (by decide)
  exact ⟨exampleProfile, _, _, rfl, approvedFile_ok resolved (example_hashed _),
    approvedFrontend_ok frontend frontend rfl (example_hashed _)⟩

theorem example_target : (exampleAgent.service .working).containerRom exampleRomPath.suffix =
    "/run/roms/game.nes" := by decide +kernel

theorem example_shows {rom userData : Mount}
    (mounted : payload.hostConfig.mounts = [rom, userData])
    (romTarget : rom.target = "/run/roms/game.nes")
    (dataTarget : userData.target = "/run/retro-session") :
    (exampleSurroundings payload).Shows (exampleAgent.service .working) exampleRomPath payload
      exampleGame := by
  have target := example_target
  constructor
  · intro name value sets
    exact environ_of_setsOnce sets
  · intro mount member
    have there : (exampleSurroundings payload).findmnt mount.target.toList =
        some ⟨mount.target.toList, if mount.readOnly then "ro,nosuid".toList else
          "rw,nosuid".toList⟩ := by
      show ((payload.hostConfig.mounts.find? fun other =>
        other.target.toList = mount.target.toList).map _) = _
      rw [mounted] at member ⊢
      have differ : rom.target.toList ≠ userData.target.toList := by
        rw [romTarget, dataTarget]
        decide
      rcases List.mem_cons.mp member with same | later
      · have found : [rom, userData].find?
            (fun other => decide (other.target.toList = rom.target.toList)) = some rom :=
          List.find?_cons_of_pos (decide_eq_true rfl)
        rw [same, found]
        rfl
      · have found : [userData].find?
            (fun other => decide (other.target.toList = userData.target.toList)) = some userData :=
          List.find?_cons_of_pos (decide_eq_true rfl)
        rw [List.mem_singleton.mp later, List.find?_cons_of_neg (by simpa using differ), found]
        rfl
    refine ⟨_, there, ?_⟩
    cases mount.readOnly with
    | true => exact ⟨by decide, by decide⟩
    | false => exact ⟨by decide, by decide⟩
  · rw [target]
    have romRoot : exampleResolve "/run/roms".toList =
        some ⟨["run".toList, "roms".toList], by decide⟩ := by decide +kernel
    have place : exampleResolve "/run/roms/game.nes".toList =
        some ⟨["run".toList, "roms".toList, "game.nes".toList], by decide⟩ := by decide +kernel
    exact ⟨_, _, romRoot, place, by decide, by decide, by decide, rfl, rfl⟩
  · intro suffix _ other
    rw [target] at other
    show exampleResolve _ = _
    unfold exampleResolve
    rw [dif_neg]
    rintro ⟨member, _⟩
    simp only [List.contains_iff_mem, List.mem_cons, List.not_mem_nil, or_false] at member
    rcases member with same | same | same | same | same
    · have tenth := congrArg (fun text : Text => text[9]?) same
      simp [RuntimeService.containerRom] at tenth
    · have second := congrArg (fun text : Text => text[1]?) same
      simp [RuntimeService.containerRom] at second
    · exact other (String.toList_inj.mp same)
    · have second := congrArg (fun text : Text => text[1]?) same
      simp [RuntimeService.containerRom] at second
    · have second := congrArg (fun text : Text => text[1]?) same
      simp [RuntimeService.containerRom] at second

theorem example_container_passes_checks :
    ∃ payload, ((exampleAgent.service .working).payload exampleGuestRequest exampleRomPath
        exampleDirectory ((exampleAgent.service .working).fingerprint exampleGuestRequest) none
        ((exampleAgent.service .working).saveKey exampleGuestRequest) Host.empty).1 =
          .returned payload ∧
      ∃ artifacts, (exampleSurroundings payload).validated
        (specified (exampleAgent.service .working) exampleGuestRequest) [("nes", exampleProfile)]
        {} = .ok artifacts := by
  obtain ⟨payload, computed⟩ : ∃ payload, ((exampleAgent.service .working).payload
      exampleGuestRequest exampleRomPath exampleDirectory
      ((exampleAgent.service .working).fingerprint exampleGuestRequest) none
      ((exampleAgent.service .working).saveKey exampleGuestRequest) Host.empty).1 =
        .returned payload := ⟨_, rfl⟩
  obtain ⟨_, made⟩ := (exampleAgent.service .working).quiet_payload exampleGuestRequest
    exampleRomPath exampleDirectory
    ((exampleAgent.service .working).fingerprint exampleGuestRequest) none
    ((exampleAgent.service .working).saveKey exampleGuestRequest) Host.empty
  rw [computed] at made
  obtain ⟨_, _, _, _, saves, _, _, _, _, mounted, _, whole⟩ := made
  have empty : saves = [] := mounted
  have mounts := congrArg (fun payload : Payload => payload.hostConfig.mounts) whole
  rw [empty] at mounts
  have shows := example_shows mounts example_target rfl
  exact ⟨payload, computed, (container_passes_checks_iff (exampleSurroundings payload)
    (exampleAgent.service .working) exampleGuestRequest [("nes", exampleProfile)] exampleGame
    Host.empty Host.empty exampleRomPath exampleDirectory none payload rfl computed shows
    example_provides).1.mpr ⟨by decide +kernel, example_digest⟩⟩

end Example

end RetroBrowser.SessionEntrypoint
