import RetroBrowser.Foundation.Validation
import RetroBrowser.SessionEntrypoint.Models

/-!
Owns how the launcher reads its runtime specification: the file, the JSON document, and the
models that accept it or report where they do not.
-/

namespace RetroBrowser.SessionEntrypoint

open RetroBrowser.Foundation Validation

/-! ## The models -/

def GameSpec.modelValidate : Json → Validated GameSpec :=
  model ["canonical_path", "expected_sha256"]
    (fun members =>
      Validated.apply (Validated.apply (.ok GameSpec.mk)
        (field members "canonical_path" none (readText (Pattern.lengthBetween 1 4096))))
        (field members "expected_sha256" none (readText Pattern.sha256)))
    unchecked

def EmulatorSpec.modelValidate : Json → Validated EmulatorSpec :=
  model ["core_profile"]
    (fun members =>
      Validated.apply (.ok EmulatorSpec.mk)
        (field members "core_profile" none (readText coreProfileId)))
    unchecked

def NetplayRole.literals : List (String × NetplayRole) :=
  [("standalone", .standalone), ("host", .host), ("client", .client)]

def NetplaySpec.modelValidate (tables : PythonText.CharacterTables) :
    Json → Validated NetplaySpec :=
  model ["role", "host", "port"]
    (fun members =>
      Validated.apply (Validated.apply (Validated.apply (.ok NetplaySpec.mk)
        (field members "role" none (readLiteral NetplayRole.literals)))
        (field members "host" (some none)
          (readOptionalText (Pattern.lengthBetween 1 253) (NetplaySpec.validateHost tables))))
        (field members "port" none (readBounded 1024 65535)))
    NetplaySpec.validateRoleHost

def DisplayProfile.literals : List (String × DisplayProfile) := [("hd-720p60", .hd720p60)]

def StreamSpec.modelValidate : Json → Validated StreamSpec :=
  model ["subfolder", "display_profile"]
    (fun members =>
      Validated.apply (Validated.apply (.ok StreamSpec.mk)
        (field members "subfolder" none (readText fun value => Pattern.lengthBetween 9 96 value &&
          Pattern.after "/stream/" (Pattern.edged Pattern.isLowerAlnum Pattern.isSlug) value)))
        (field members "display_profile" none (readLiteral DisplayProfile.literals)))
    unchecked

def SaveMode.literals : List (String × SaveMode) :=
  [("ephemeral", .ephemeral), ("host-authoritative", .hostAuthoritative)]

def PersistenceSpec.modelValidate : Json → Validated PersistenceSpec :=
  model ["save_mode"]
    (fun members =>
      Validated.apply (.ok PersistenceSpec.mk)
        (field members "save_mode" (some .ephemeral) (readLiteral SaveMode.literals)))
    unchecked

namespace RuntimeSpec

def fieldNames : List String :=
  ["schema_version", "session_id", "participant_id", "user_id", "player_name", "game", "emulator",
    "netplay", "stream", "persistence"]

/-- `RuntimeSpec.model_validate`. -/
def modelValidate (tables : PythonText.CharacterTables) : Json → Validated RuntimeSpec :=
  model fieldNames
    (fun members =>
      let made := Validated.apply (.ok fun _ => RuntimeSpec.mk)
        (field members "schema_version" none readOne)
      let made := made.apply (field members "session_id" none readUUID)
      let made := made.apply (field members "participant_id" none readUUID)
      let made := made.apply (field members "user_id" none (readText safeId))
      let made := made.apply (field members "player_name" none fun document =>
        readStr document >>= Validated.check (Pattern.lengthBetween 1 31) validatePlayerName)
      let made := made.apply (field members "game" none GameSpec.modelValidate)
      let made := made.apply (field members "emulator" none EmulatorSpec.modelValidate)
      let made := made.apply (field members "netplay" none (NetplaySpec.modelValidate tables))
      let made := made.apply (field members "stream" none StreamSpec.modelValidate)
      made.apply (field members "persistence" (some {}) PersistenceSpec.modelValidate))
    persistentSaveBelongsToHost

end RuntimeSpec

/-! ## The file -/

/-- `MAX_SPEC_BYTES`. -/
def maxSpecBytes : ℕ := 65536

/-- What the launcher finds at the path: whether there is something, what it is, how many
bytes it has and the text they encode, if they encode one. -/
structure SpecFile where
  available : Bool
  symlink : Bool
  regularFile : Bool
  size : ℕ
  text : Option (List Char)
deriving DecidableEq, Repr

/-- A regular file with this text in UTF-8. -/
def SpecFile.written (text : List Char) : SpecFile where
  available := true
  symlink := false
  regularFile := true
  size := (text.map Char.utf8Size).sum
  text := some text

/-- `_validation_locations`. -/
def validationLocations (errors : List Issue) : String :=
  let locations := errors.map fun error =>
    let location := ".".intercalate error.loc
    if location = "" then "document" else location
  ", ".intercalate (locations.dedup.mergeSort fun left right => left ≤ right)

/-- The text of a `RuntimeValidationError`, or the built-in exception that `json.loads`
lets through. -/
inductive LoadFailure where
  | invalid (message : String)
  | value (message : String)
deriving DecidableEq, Repr

/-- The errors of `json.loads` under their handlers. -/
def LoadFailure.ofLoadError : Json.LoadError → LoadFailure
  | .malformed => .invalid "RuntimeSpec is not valid UTF-8 JSON"
  | .duplicate key => .invalid s!"duplicate JSON key: {key}"
  | .digits => .value "Exceeds the limit (4300 digits) for integer string conversion"

/-- `load_runtime_spec`. -/
def loadRuntimeSpec (tables : PythonText.CharacterTables) (file : SpecFile) :
    Except LoadFailure RuntimeSpec :=
  if file.available = false then .error (.invalid "RuntimeSpec file is unavailable")
  else if file.symlink = true ∨ file.regularFile = false then
    .error (.invalid "RuntimeSpec must be a regular non-symlink file")
  else if maxSpecBytes < file.size then .error (.invalid "RuntimeSpec exceeds maximum size")
  else
    match file.text with
    | none => .error (.invalid "RuntimeSpec is not valid UTF-8 JSON")
    | some text =>
      match Json.loads Json.rejectDuplicateKeys text with
      | .error error => .error (.ofLoadError error)
      | .ok document =>
        (RuntimeSpec.modelValidate tables document).mapError fun errors =>
          .invalid s!"RuntimeSpec validation failed at: {validationLocations errors}"

/-! ## Documents with all their fields

Each model accepts a document whose fields have their types just where the record made of
them has no errors. -/

section Documents

variable {members : List (String × Json)}

theorem GameSpec.modelValidate_object {spec : GameSpec} {canonicalPath expectedSha256 : String}
    (known : ∀ member ∈ members, member.1 ∈ ["canonical_path", "expected_sha256"])
    (path : members.lookup "canonical_path" = some (.string canonicalPath))
    (digest : members.lookup "expected_sha256" = some (.string expectedSha256)) :
    GameSpec.modelValidate (.object members) = .ok spec ↔
      spec = ⟨canonicalPath, expectedSha256⟩ ∧ spec.errors = [] := by
  simp only [GameSpec.modelValidate, model_eq_ok, Json.object.injEq, exists_eq_left',
    Validated.apply_eq_ok, field_there path, field_there digest, readText_eq_ok, readStr,
    Except.ok.injEq, and_assoc, exists_and_left, unchecked_eq, and_true, GameSpec.errors,
    List.append_eq_nil_iff, fieldErrors_eq_nil]
  constructor
  · rintro ⟨_, bounded, hexadecimal, same⟩
    subst same
    exact ⟨rfl, bounded, hexadecimal⟩
  · rintro ⟨same, bounded, hexadecimal⟩
    subst same
    exact ⟨known, bounded, hexadecimal, rfl⟩

theorem EmulatorSpec.modelValidate_object {spec : EmulatorSpec} {coreProfile : String}
    (known : ∀ member ∈ members, member.1 ∈ ["core_profile"])
    (profile : members.lookup "core_profile" = some (.string coreProfile)) :
    EmulatorSpec.modelValidate (.object members) = .ok spec ↔
      spec = ⟨coreProfile⟩ ∧ spec.errors = [] := by
  simp only [EmulatorSpec.modelValidate, model_eq_ok, Json.object.injEq, exists_eq_left',
    Validated.apply_eq_ok, field_there profile, readText_eq_ok, readStr, Except.ok.injEq,
    and_assoc, exists_and_left, unchecked_eq, and_true, EmulatorSpec.errors, fieldErrors_eq_nil]
  constructor
  · rintro ⟨_, valid, same⟩
    subst same
    exact ⟨rfl, valid⟩
  · rintro ⟨same, valid⟩
    subst same
    exact ⟨known, valid, rfl⟩

theorem NetplaySpec.modelValidate_object {tables : PythonText.CharacterTables}
    {spec made : NetplaySpec} {text : String}
    (known : ∀ member ∈ members, member.1 ∈ ["role", "host", "port"])
    (role : members.lookup "role" = some (.string text))
    (literal : NetplayRole.literals.lookup text = some made.role)
    (host : members.lookup "host" = some (optionalDocument made.host))
    (port : members.lookup "port" = some (.number made.port)) :
    NetplaySpec.modelValidate tables (.object members) = .ok spec ↔
      spec = made ∧ spec.errors tables = [] := by
  simp only [NetplaySpec.modelValidate, model_eq_ok, Json.object.injEq, exists_eq_left',
    Validated.apply_eq_ok, field_there role, field_there host, field_there port, readLiteral,
    literal, readOptionalText, readOptional_document, readBounded_eq_ok, bind_eq_ok,
    Json.number.injEq, Nat.cast_inj, Except.ok.injEq, and_assoc,
    exists_and_left, Validated.check_eq_ok, NetplaySpec.errors, modelErrors_eq_nil,
    List.append_eq_nil_iff, fieldErrors_eq_nil, and_true]
  constructor
  · rintro ⟨_, long, labels, bounds, same, roleHost⟩
    subst same
    exact ⟨rfl, long, labels, bounds, roleHost⟩
  · rintro ⟨same, long, labels, bounds, roleHost⟩
    subst same
    exact ⟨known, long, labels, bounds, rfl, roleHost⟩

theorem StreamSpec.modelValidate_object {spec made : StreamSpec} {text : String}
    (known : ∀ member ∈ members, member.1 ∈ ["subfolder", "display_profile"])
    (path : members.lookup "subfolder" = some (.string made.subfolder))
    (profile : members.lookup "display_profile" = some (.string text))
    (literal : DisplayProfile.literals.lookup text = some made.displayProfile) :
    StreamSpec.modelValidate (.object members) = .ok spec ↔ spec = made ∧ spec.errors = [] := by
  simp only [StreamSpec.modelValidate, model_eq_ok, Json.object.injEq, exists_eq_left',
    Validated.apply_eq_ok, field_there path, field_there profile, readText_eq_ok, readStr,
    readLiteral, literal, Except.ok.injEq, and_assoc, exists_and_left, unchecked_eq, and_true,
    StreamSpec.errors, fieldErrors_eq_nil]
  constructor
  · rintro ⟨_, valid, _, profile, same⟩
    cases profile
    subst same
    exact ⟨rfl, valid⟩
  · rintro ⟨same, valid⟩
    subst same
    exact ⟨known, valid, trivial, _, rfl⟩

theorem PersistenceSpec.modelValidate_object {spec made : PersistenceSpec} {text : String}
    (known : ∀ member ∈ members, member.1 ∈ ["save_mode"])
    (mode : members.lookup "save_mode" = some (.string text))
    (literal : SaveMode.literals.lookup text = some made.saveMode) :
    PersistenceSpec.modelValidate (.object members) = .ok spec ↔ spec = made := by
  simp only [PersistenceSpec.modelValidate, model_eq_ok, Json.object.injEq, exists_eq_left',
    Validated.apply_eq_ok, field_there mode, readLiteral, literal, Except.ok.injEq, unchecked_eq,
    exists_and_left, and_true]
  constructor
  · rintro ⟨_, same⟩
    exact same.symm
  · intro same
    exact ⟨known, same.symm⟩

/-- The whole specification: it is accepted just where its record has no errors. -/
theorem RuntimeSpec.modelValidate_object {tables : PythonText.CharacterTables}
    {spec made : RuntimeSpec} {sessionId participantId game emulator netplay stream
      persistence : Json}
    (known : ∀ member ∈ members, member.1 ∈ fieldNames)
    (schemaVersion : members.lookup "schema_version" = some (.number 1))
    (session : members.lookup "session_id" = some sessionId)
    (readSession : readUUID sessionId = .ok made.sessionId)
    (participant : members.lookup "participant_id" = some participantId)
    (readParticipant : readUUID participantId = .ok made.participantId)
    (user : members.lookup "user_id" = some (.string made.userId))
    (player : members.lookup "player_name" = some (.string made.playerName))
    (gameThere : members.lookup "game" = some game)
    (readGame : ∀ part, GameSpec.modelValidate game = .ok part ↔
      part = made.game ∧ part.errors = [])
    (emulatorThere : members.lookup "emulator" = some emulator)
    (readEmulator : ∀ part, EmulatorSpec.modelValidate emulator = .ok part ↔
      part = made.emulator ∧ part.errors = [])
    (netplayThere : members.lookup "netplay" = some netplay)
    (readNetplay : ∀ part, NetplaySpec.modelValidate tables netplay = .ok part ↔
      part = made.netplay ∧ part.errors tables = [])
    (streamThere : members.lookup "stream" = some stream)
    (readStream : ∀ part, StreamSpec.modelValidate stream = .ok part ↔
      part = made.stream ∧ part.errors = [])
    (persistenceThere : members.lookup "persistence" = some persistence)
    (readPersistence : ∀ part, PersistenceSpec.modelValidate persistence = .ok part ↔
      part = made.persistence) :
    RuntimeSpec.modelValidate tables (.object members) = .ok spec ↔
      spec = made ∧ spec.errors tables = [] := by
  simp only [RuntimeSpec.modelValidate, model_eq_ok, Json.object.injEq, exists_eq_left',
    Validated.apply_eq_ok, field_there schemaVersion, readOne_eq_ok, equalsOne_number,
    field_there session, readSession,
    field_there participant, readParticipant, field_there user, field_there player,
    field_there gameThere, readGame, field_there emulatorThere, readEmulator,
    field_there netplayThere, readNetplay, field_there streamThere, readStream,
    field_there persistenceThere, readPersistence, readText_eq_ok, readStr, bind_eq_ok,
    Validated.check_eq_ok, Except.ok.injEq, and_assoc, exists_and_left, exists_eq_left,
    exists_const, RuntimeSpec.errors, modelErrors_eq_nil, List.append_eq_nil_iff,
    fieldErrors_eq_nil, nested_eq_nil, and_true, true_and]
  constructor
  · rintro ⟨_, safe, short, plain, game, emulator, netplay, stream, same, saves⟩
    subst same
    exact ⟨rfl, safe, short, plain, game, emulator, netplay, stream, saves⟩
  · rintro ⟨same, safe, short, plain, game, emulator, netplay, stream, saves⟩
    subst same
    exact ⟨known, safe, short, plain, game, emulator, netplay, stream, rfl, saves⟩

end Documents

end RetroBrowser.SessionEntrypoint
