import RetroBrowser.Foundation.Pattern
import RetroBrowser.Foundation.PythonText
import RetroBrowser.Foundation.UUID

/-!
Owns the records of the launcher: the runtime specification with its validators, and
the profile of a core.
-/

namespace RetroBrowser.SessionEntrypoint

open RetroBrowser.Foundation

/-- An item of a `ValidationError`: its place, and the text of the validator that raised;
a constraint of the field has no text in the models. -/
structure ErrorDetails where
  loc : List String
  message : Option String
deriving DecidableEq, Repr

/-- A field: first its constraints, then its validator. -/
def fieldErrors (loc : String) (constraints : Bool) (validator : Except String Unit) :
    List ErrorDetails :=
  if constraints = false then [⟨[loc], none⟩]
  else
    match validator with
    | .ok () => []
    | .error message => [⟨[loc], some message⟩]

/-- A model: the errors of its fields, and without one its validator. -/
def modelErrors (fields : List ErrorDetails) (validator : Except String Unit) : List ErrorDetails :=
  if fields ≠ [] then fields
  else
    match validator with
    | .ok () => []
    | .error message => [⟨[], some message⟩]

/-- The errors of a model in a field. -/
def nested (loc : String) (errors : List ErrorDetails) : List ErrorDetails :=
  errors.map fun error => { error with loc := loc :: error.loc }

/-- `^[A-Za-z0-9][A-Za-z0-9_.:@-]*$` with length 1 to 128. -/
def safeId (value : String) : Bool :=
  Pattern.lengthBetween 1 128 value &&
    Pattern.leads Char.isAlphanum
      (fun character => character.isAlphanum || "_.:@-".toList.contains character) value.toList

/-- `^[a-z0-9][a-z0-9-]*$` with length 1 to 64. -/
def coreProfileId (value : String) : Bool :=
  Pattern.lengthBetween 1 64 value &&
    Pattern.leads Pattern.isLowerAlnum Pattern.isSlug value.toList

structure GameSpec where
  canonicalPath : String
  expectedSha256 : String
deriving DecidableEq, Repr

def GameSpec.errors (spec : GameSpec) : List ErrorDetails :=
  fieldErrors "canonical_path" (Pattern.lengthBetween 1 4096 spec.canonicalPath) (.ok ()) ++
    fieldErrors "expected_sha256" (Pattern.sha256 spec.expectedSha256) (.ok ())

structure EmulatorSpec where
  coreProfile : String
deriving DecidableEq, Repr

def EmulatorSpec.errors (spec : EmulatorSpec) : List ErrorDetails :=
  fieldErrors "core_profile" (coreProfileId spec.coreProfile) (.ok ())

inductive NetplayRole where
  | standalone | host | client
deriving DecidableEq, Repr

structure NetplaySpec where
  role : NetplayRole
  host : Option String
  port : ℕ
deriving DecidableEq, Repr

namespace NetplaySpec

variable (tables : PythonText.CharacterTables)

/-- What `validate_host` refuses in a label. -/
def refusedLabel (label : List Char) : Bool :=
  label.isEmpty || 63 < label.length || !label.head?.any tables.isAlnum ||
    !label.getLast?.any tables.isAlnum ||
    label.any fun character => !(tables.isAlnum character || character == '-')

def validateHost (value : Option String) : Except String Unit :=
  match value with
  | none => .ok ()
  | some host =>
    if (host.toList.splitOn '.').any (refusedLabel tables) then
      .error "host must be an IPv4 address or DNS hostname"
    else .ok ()

def validateRoleHost (spec : NetplaySpec) : Except String Unit :=
  if spec.role = .client ∧ spec.host = none then .error "client Netplay role requires host"
  else if spec.role ≠ .client ∧ spec.host ≠ none then
    .error "host is allowed only for client Netplay role"
  else .ok ()

def errors (spec : NetplaySpec) : List ErrorDetails :=
  modelErrors
    (fieldErrors "host" (spec.host.all (Pattern.lengthBetween 1 253))
      (validateHost tables spec.host) ++
      fieldErrors "port" (1024 ≤ spec.port && spec.port ≤ 65535) (.ok ()))
    (validateRoleHost spec)

end NetplaySpec

inductive DisplayProfile where
  | hd720p60
deriving DecidableEq, Repr

structure StreamSpec where
  subfolder : String
  displayProfile : DisplayProfile
deriving DecidableEq, Repr

/-- `^/stream/[a-z0-9](?:[a-z0-9-]*[a-z0-9])?$` with length 9 to 96. -/
def StreamSpec.errors (spec : StreamSpec) : List ErrorDetails :=
  fieldErrors "subfolder" (Pattern.lengthBetween 9 96 spec.subfolder &&
    Pattern.after "/stream/" (Pattern.edged Pattern.isLowerAlnum Pattern.isSlug) spec.subfolder)
      (.ok ())

inductive SaveMode where
  | ephemeral | hostAuthoritative
deriving DecidableEq, Repr

structure PersistenceSpec where
  saveMode : SaveMode := .ephemeral
deriving DecidableEq, Repr

structure RuntimeSpec where
  sessionId : UUID
  participantId : UUID
  userId : String
  playerName : String
  game : GameSpec
  emulator : EmulatorSpec
  netplay : NetplaySpec
  stream : StreamSpec
  persistence : PersistenceSpec := {}
deriving DecidableEq, Repr

namespace RuntimeSpec

def validatePlayerName (value : String) : Except String Unit :=
  let hasControl := value.toList.any fun character => character.toNat < 32 || character.toNat == 127
  if value.toList ≠ PythonText.strip PythonText.isSpace value.toList ∨ hasControl then
    .error "player_name must not contain surrounding whitespace or control characters"
  else .ok ()

def persistentSaveBelongsToHost (spec : RuntimeSpec) : Except String Unit :=
  if spec.persistence.saveMode = .hostAuthoritative ∧ spec.netplay.role ≠ .host then
    .error "host-authoritative persistence is allowed only for the Netplay host"
  else .ok ()

def errors (tables : PythonText.CharacterTables) (spec : RuntimeSpec) : List ErrorDetails :=
  modelErrors
    (fieldErrors "user_id" (safeId spec.userId) (.ok ()) ++
      fieldErrors "player_name" (Pattern.lengthBetween 1 31 spec.playerName)
        (validatePlayerName spec.playerName) ++
      nested "game" spec.game.errors ++ nested "emulator" spec.emulator.errors ++
      nested "netplay" (spec.netplay.errors tables) ++ nested "stream" spec.stream.errors)
    spec.persistentSaveBelongsToHost

end RuntimeSpec

structure ManifestArtifact where
  name : String
  version : String
  artifactPath : String
  artifactSha256 : String
deriving DecidableEq, Repr

def ManifestArtifact.errors (artifact : ManifestArtifact) : List ErrorDetails :=
  fieldErrors "name" (Pattern.lengthBetween 1 128 artifact.name) (.ok ()) ++
    fieldErrors "version" (Pattern.lengthBetween 1 64 artifact.version) (.ok ()) ++
    fieldErrors "artifact_sha256" (Pattern.sha256 artifact.artifactSha256) (.ok ())

inductive NetplayStatus where
  | notTested | validated
deriving DecidableEq, Repr

/-- The device of each controller port, as pairs with distinct ports. -/
structure PortDevices where
  items : List (ℕ × ℕ)
  distinct : (items.map Prod.fst).Nodup
deriving DecidableEq

structure CoreProfile where
  maxPlayers : ℕ
  controllerTopology : String
  controllerPortDevices : PortDevices
  netplayStatus : NetplayStatus
  frontend : ManifestArtifact
  core : ManifestArtifact
deriving DecidableEq

/-- Each port is 1 to 16 and each device below 65536; then the entries are counted. -/
def PortDevices.errors (devices : PortDevices) : List ErrorDetails :=
  let entries := devices.items.flatMap fun (port, device) => nested (toString port)
    ((if 1 ≤ port ∧ port ≤ 16 then [] else [⟨["[key]"], none⟩]) ++
      if device ≤ 65535 then [] else [⟨[], none⟩])
  if entries ≠ [] then entries else if devices.items.length ≤ 16 then [] else [⟨[], none⟩]

def CoreProfile.errors (profile : CoreProfile) : List ErrorDetails :=
  fieldErrors "max_players" (1 ≤ profile.maxPlayers && profile.maxPlayers ≤ 16) (.ok ()) ++
    fieldErrors "controller_topology" (coreProfileId profile.controllerTopology) (.ok ()) ++
    nested "controller_port_devices" profile.controllerPortDevices.errors ++
    nested "frontend" profile.frontend.errors ++ nested "core" profile.core.errors

/-! ## What accepted records are -/

@[simp] theorem fieldErrors_eq_nil {loc : String} {constraints : Bool}
    {validator : Except String Unit} :
    fieldErrors loc constraints validator = [] ↔ constraints = true ∧ validator = .ok () := by
  unfold fieldErrors
  cases constraints with
  | false => simp
  | true => cases validator <;> simp

@[simp] theorem modelErrors_eq_nil {fields : List ErrorDetails} {validator : Except String Unit} :
    modelErrors fields validator = [] ↔ fields = [] ∧ validator = .ok () := by
  unfold modelErrors
  by_cases none : fields = []
  · cases validator <;> simp [none]
  · simp [none]

@[simp] theorem nested_eq_nil {loc : String} {errors : List ErrorDetails} :
    nested loc errors = [] ↔ errors = [] :=
  List.map_eq_nil_iff

theorem NetplaySpec.validateRoleHost_ok {spec : NetplaySpec} :
    validateRoleHost spec = .ok () ↔ (spec.host.isSome = true ↔ spec.role = .client) := by
  unfold validateRoleHost
  cases spec.host <;> cases spec.role <;> simp

end RetroBrowser.SessionEntrypoint
