import RetroBrowser.RuntimeAgent.Models.Validation
import RetroBrowser.RuntimeAgent.Service

/-!
Owns the HTTP interface: what a request brings, the checks of its body, the endpoints, the
documents that answer them, and the status that each error of the service becomes.

Contract: every request is answered, whatever the service raises. An item of the details of an
invalid request keeps its place and leaves the texts of the validation library out.
-/

namespace RetroBrowser.RuntimeAgent

open RetroBrowser.Foundation Validation

/-! ## Errors -/

namespace Error

/-- The status of `_handle`. `ValidationError` is a `ValueError`, and both are bad requests. -/
def status : Error → ℤ
  | .value _ => 400
  | .ownership _ => 403
  | .notFound _ => 404
  | .conflict _ => 409
  | .engine _ => 502
  | .os _ | .other _ => 500

/-- The text under `error`; the texts of the engine's and of internal errors stay inside. -/
def shown : Error → String
  | .value message | .ownership message | .notFound message | .conflict message => message
  | .engine _ => "container engine operation failed"
  | .os _ | .other _ => "internal server error"

end Error

/-! ## Documents -/

def ContainerState.text : ContainerState → String
  | .created => "created"
  | .running => "running"
  | .paused => "paused"
  | .restarting => "restarting"
  | .removing => "removing"
  | .exited => "exited"
  | .dead => "dead"
  | .unknown => "unknown"

def HealthStatus.text : HealthStatus → String
  | .none => "none"
  | .starting => "starting"
  | .healthy => "healthy"
  | .unhealthy => "unhealthy"

/-- `record.model_dump(mode="json")`. -/
def RuntimeRecord.dump (record : RuntimeRecord) : Json :=
  .object [("participant_id", .string (UUID.str record.participantId)),
    ("container_id", .string record.containerId),
    ("container_name", .string record.containerName),
    ("state", .string record.state.text),
    ("health_status", .string record.healthStatus.text),
    ("stream_subfolder", .string record.streamSubfolder),
    ("orphaned", .bool record.orphaned)]

def RuntimeCapacity.dump (capacity : RuntimeCapacity) : Json :=
  .object [("maximum", .number capacity.maximum), ("used", .number capacity.used),
    ("available", .number capacity.available)]

/-! ## Requests -/

/-- The request line, two of the headers, and the bytes behind them. -/
structure HttpRequest where
  command : String
  path : String
  contentType : Option String
  contentLength : Option String
  body : List UInt8
deriving DecidableEq, Repr

namespace HttpRequest

/-- `get_content_type()`: the header up to its parameters. -/
def getContentType (tables : PythonText.CharacterTables) (request : HttpRequest) : List Char :=
  match request.contentType with
  | none => "text/plain".toList
  | some value =>
    let main := tables.lower
      (PythonText.strip PythonText.isSpace (value.toList.takeWhile (· ≠ ';')))
    if main.count '/' = 1 then main else "text/plain".toList

/-- `isdigit()`, for the characters that a header can have. -/
def isDigit (character : Char) : Bool :=
  character.isDigit || "²³¹".toList.contains character

/-- `int(length_value)`. -/
def toLength (value : String) : Except Error ℕ :=
  if value.toList.all Char.isDigit = false then
    .error (.value s!"invalid literal for int() with base 10: '{value}'")
  else if Json.maxDigits < value.length then
    .error (.value "Exceeds the limit (4300 digits) for integer string conversion")
  else .ok (Nat.ofDigitChars 10 value.toList 0)

end HttpRequest

namespace RuntimeRequestHandler

/-- Status and document of an answer, as they are sent. -/
abbrev Sent := ℤ × Json

/-- `MAX_REQUEST_BYTES`. -/
def maxRequestBytes : ℕ := 64 * 1024

/-- The errors of `json.loads` under their handler. -/
def loadError : Json.LoadError → Error
  | .malformed => .value "request body is not valid JSON"
  | .duplicate key => .value s!"duplicate JSON key: {key}"
  | .digits => .value "Exceeds the limit (4300 digits) for integer string conversion"

/-- `_body`. -/
def body (tables : PythonText.CharacterTables) (request : HttpRequest) :
    Except Error (List (String × Json)) :=
  if request.getContentType tables ≠ "application/json".toList then
    .error (.value "Content-Type must be application/json")
  else
    match request.contentLength with
    | none => .error (.value "a valid Content-Length is required")
    | some text =>
      if text.isEmpty ∨ text.toList.all HttpRequest.isDigit = false then
        .error (.value "a valid Content-Length is required")
      else do
        let length ← HttpRequest.toLength text
        if length < 2 ∨ maxRequestBytes < length then
          throw (.value "request body size is invalid")
        match Json.loadsBytes Json.rejectDuplicateKeys (request.body.take length) with
        | .error error => throw (loadError error)
        | .ok (.object members) => pure members
        | .ok _ => throw (.value "request body must be a JSON object")

/-- `_runtime_id()`. -/
def runtimeId (path : String) : Option UUID :=
  let start := "/v1/runtimes/".toList
  if start.isPrefixOf path.toList then
    let value := path.toList.drop start.length
    if '/' ∈ value then none else UUID.parse (String.ofList value)
  else none

/-- `_runtime_id(suffix=suffix)`. -/
def runtimeIdBefore (suffix path : String) : Option UUID :=
  if suffix.toList.isSuffixOf path.toList then
    runtimeId (String.ofList (path.toList.take (path.length - suffix.length)))
  else none

def sentError (text : String) : Json := .object [("error", .string text)]

/-- The document of a `ValidationError`. -/
def invalidRequest (issues : List Issue) : Json :=
  .object [("error", .string "invalid request"),
    ("details", .array (issues.map fun issue =>
      .object [("loc", .array (issue.loc.map .string))]))]

/-- `POST /v1/runtimes`. -/
def dispatchCreate (service : RuntimeService) (request : HttpRequest) : AgentProgram Sent := do
  let members ← Program.ofExcept (body service.library.tables request)
  match CreateRuntimeRequest.modelValidate service.library.tables (.object members) with
  | .error issues => pure (400, invalidRequest issues)
  | .ok request => do
    let record ← service.createRuntime request
    pure (201, record.dump)

/-- The endpoints below `/v1/runtimes/`. -/
def dispatchRuntime (service : RuntimeService) (request : HttpRequest) : AgentProgram Sent := do
  let stopped := if request.command = "POST" then runtimeIdBefore "/stop" request.path else none
  let named := runtimeId request.path
  match stopped, named with
  | some participantId, _ => do
    let record ← service.stopRuntime participantId
    pure (200, record.dump)
  | none, some participantId =>
    if request.command = "GET" then do
      let record ← service.inspectRuntime participantId
      pure (200, record.dump)
    else if request.command = "DELETE" then do
      service.removeRuntime participantId
      pure (200, .object [("removed", .bool true)])
    else pure (404, sentError "endpoint not found")
  | none, none => pure (404, sentError "endpoint not found")

/-- `_dispatch`; `health` pings the engine. -/
def dispatch (service : RuntimeService) (health : AgentProgram Bool) (request : HttpRequest) :
    AgentProgram Sent :=
  if request.command = "GET" ∧ request.path = "/v1/health" then do
    let healthy ← health
    pure (if healthy then 200 else 503, .object [("ok", .bool healthy)])
  else if request.command = "GET" ∧ request.path = "/v1/runtimes" then do
    let records ← service.listManagedRuntimes
    pure (200, .object [("items", .array (records.map RuntimeRecord.dump))])
  else if request.command = "GET" ∧ request.path = "/v1/capacity" then do
    let capacity ← service.capacity
    pure (200, capacity.dump)
  else if request.command = "POST" ∧ request.path = "/v1/runtimes" then
    dispatchCreate service request
  else dispatchRuntime service request

/-- `_handle`, for the three commands that have a method. -/
def serve (service : RuntimeService) (health : AgentProgram Bool) (request : HttpRequest) :
    AgentProgram Sent :=
  tryCatch (dispatch service health request) fun error =>
    pure (error.status, sentError error.shown)

/-- The path of a participant's runtime is read back. -/
theorem runtimeId_path (participantId : UUID) :
    runtimeId ("/v1/runtimes/" ++ UUID.str participantId) = some participantId := by
  have plain : '/' ∉ (UUID.str participantId).toList := fun member =>
    (UUID.proper_str participantId).2.2 member
  unfold runtimeId
  simp only [String.toList_append]
  rw [if_pos (by simp), List.drop_left, if_neg plain, String.ofList_toList, UUID.parse_str]

end RuntimeRequestHandler

end RetroBrowser.RuntimeAgent
