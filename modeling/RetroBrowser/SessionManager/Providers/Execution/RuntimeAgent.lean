import RetroBrowser.Foundation.Json
import RetroBrowser.SessionManager.Providers.Interfaces
import RetroBrowser.SessionManager.Providers.Romm.Http
import RetroBrowser.SessionManager.Security.Tokens

/-!
Owns the adapter of Runtime Agent: the documents it sends, how it reads the bytes of an
answer, and what it makes of it.

Contract: an answer is a status with the bytes of its body, or an `OSError` or `HTTPException`;
`loads` stands for `json.loads`.
-/

namespace RetroBrowser.SessionManager

open RetroBrowser.Foundation

inductive GpuProfile where
  | cpu | nvidia
deriving DecidableEq, Repr

def GpuProfile.text : GpuProfile → String
  | .cpu => "cpu"
  | .nvidia => "nvidia"

structure RuntimeAgentProviderConfig where
  image : String
  streamNetwork : String
  netplayNetwork : String
  gpuProfile : GpuProfile
  netplayPort : Nat
  orchestrationSecret : String
deriving DecidableEq, Repr

/-- Method, path and document of a request to the agent, and the status and document that are
answered, or an error. -/
abbrev AgentRequester := String → String → Option Json → Except Error (ℤ × PythonValue)

structure LocalRuntimeAgentProvider where
  config : RuntimeAgentProviderConfig
  hmac : Hmac
  repr : PythonValue → Option String

namespace LocalRuntimeAgentProvider

variable (provider : LocalRuntimeAgentProvider) (requester : AgentRequester)

/-- `MAX_RESPONSE_BYTES`. -/
def maxResponseBytes : ℕ := 1024 * 1024

def unavailable : Error := .orchestration "Runtime Agent is unavailable"

/-- What `_request` makes of the bytes of an answer. -/
def received (loads : Loads) (status : ℤ) (raw : List UInt8) :
    Except Error (ℤ × PythonValue) :=
  if maxResponseBytes < raw.length then
    .error (.orchestration "Runtime Agent response is too large")
  else do
    let document ← readDocument loads (.orchestration "Runtime Agent returned invalid JSON") raw
    pure (status, document)

/-- What the socket answers, nothing where the call ends in an `OSError` or `HTTPException`. -/
abbrev Answers := String → String → Option Json → Option (ℤ × List UInt8)

/-- `_request`. -/
def request (loads : Loads) (answers : Answers) : AgentRequester := fun method path payload =>
  match answers method path payload with
  | none => .error unavailable
  | some (status, raw) => received loads status raw

def containerName (participantId : UUID) : String :=
  "retrobrowser-runtime-" ++ UUID.hex participantId

def masterToken (participantId : UUID) : String :=
  deriveMasterToken provider.hmac provider.config.orchestrationSecret participantId

/-- The strict literal of `RuntimeHandle.health_status`. -/
def healthStatus : PythonValue → Except Error HealthStatus
  | .str (.text "none") => .ok .none
  | .str (.text "starting") => .ok .starting
  | .str (.text "healthy") => .ok .healthy
  | .str (.text "unhealthy") => .ok .unhealthy
  | _ => .error (.value "runtime handle validation failed")

/-- `UUID(text)`. -/
def toUUID : PythonStr → Except Error UUID
  | .text value =>
    match UUID.parse value with
    | some id => .ok id
    | none => .error (.value "badly formed hexadecimal UUID string")
  | .surrogates _ => .error (.value "badly formed hexadecimal UUID string")

/-- The text of `RuntimeHandle.state`. -/
def stateText : PythonStr → Except Error String
  | .text value => .ok value
  | .surrogates _ => .error (.value "runtime handle validation failed")

/-- `str(value)`. -/
def toStr (value : PythonValue) : Except Error PythonStr :=
  (value.toStr provider.repr).mapError Error.ofRead

/-- What the `try` block of `_handle` reads. -/
def record (members : List (PythonStr × PythonValue)) : Except Error RuntimeHandle := do
  let participantId ← HttpRomMProvider.item members "participant_id" >>= provider.toStr
  let runtimeId ← toUUID participantId
  let state ← HttpRomMProvider.item members "state" >>= provider.toStr
  let status ← HttpRomMProvider.item members "health_status"
  let text ← stateText state
  let healthStatus ← healthStatus status
  pure { runtimeId, state := text, healthStatus }

/-- `except (KeyError, ValueError)`. -/
def handlesRecord (error : Error) : Bool := error == .key || error.isValueError

/-- `_handle`. -/
def handle (status : ℤ) (document : PythonValue) : Except Error RuntimeHandle :=
  if status < 200 ∨ 300 ≤ status then
    .error (.orchestration s!"Runtime Agent rejected the operation with HTTP {status}")
  else
    match document with
    | .dict members =>
      translating handlesRecord (.orchestration "Runtime Agent returned an invalid runtime record")
        (provider.record members)
    | _ => .error (.orchestration "Runtime Agent returned an invalid runtime record")

def Role.text : Role → String
  | .host => "host"
  | .client => "client"

/-- The document of `create`. -/
def payload (request : RuntimeRequest) : Json :=
  .object [("schema_version", .number 1),
    ("session_id", .string (UUID.str request.sessionId)),
    ("participant_id", .string (UUID.str request.participantId)),
    ("user_id", .string request.userId),
    ("player_name", .string request.playerName),
    ("image", .string provider.config.image),
    ("rom_path", .string request.romPath),
    ("rom_sha256", .string request.romSha256),
    ("core_profile", .string request.coreProfile),
    ("netplay", .object [
      ("role", .string (Role.text request.role)),
      ("host", match request.hostParticipantId with
        | some participantId => .string (containerName participantId)
        | none => .null),
      ("port", .number provider.config.netplayPort)]),
    ("stream_subfolder", .string ("/stream/" ++ UUID.hex request.participantId)),
    ("stream_network", .string provider.config.streamNetwork),
    ("netplay_network", .string provider.config.netplayNetwork),
    ("gpu_profile", .string provider.config.gpuProfile.text),
    ("selkies_master_token", .string (provider.masterToken request.participantId))]

def create (request : RuntimeRequest) : Except Error RuntimeHandle := do
  if request.role = .host ∧ request.hostParticipantId ≠ none then
    .error (.value "host runtime cannot select a Netplay host")
  else if request.role = .client ∧ request.hostParticipantId = none then
    .error (.value "client runtime requires a Netplay host participant")
  else
    let (status, document) ← requester "POST" "/v1/runtimes" (some (provider.payload request))
    provider.handle status document

def inspect (participantId : UUID) : Except Error RuntimeHandle := do
  let (status, document) ← requester "GET" ("/v1/runtimes/" ++ UUID.str participantId) none
  provider.handle status document

def list : Except Error (List RuntimeHandle) := do
  let (status, document) ← requester "GET" "/v1/runtimes" none
  let invalid := Error.orchestration "Runtime Agent returned an invalid runtime list"
  if status ≠ 200 then
    .error (.orchestration s!"Runtime Agent rejected the operation with HTTP {status}")
  else
    match document with
    | .dict members =>
      match members.lookup (.text "items") with
      | some (.list items) => items.mapM (provider.handle 200)
      | _ => .error invalid
    | _ => .error invalid

def remove (participantId : UUID) : Except Error Unit := do
  let (status, _) ← requester "DELETE" ("/v1/runtimes/" ++ UUID.str participantId) none
  if status ≠ 200 ∧ status ≠ 404 then
    .error (.orchestration s!"Runtime Agent rejected removal with HTTP {status}")
  else .ok ()

end LocalRuntimeAgentProvider

end RetroBrowser.SessionManager
