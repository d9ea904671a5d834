import RetroBrowser.Foundation.JsonReader
import RetroBrowser.Foundation.Program
import RetroBrowser.RuntimeAgent.Api.Server
import RetroBrowser.SessionManager.Providers.Execution.RuntimeAgent

/-!
Owns the adapter of Runtime Agent at work: what `_request` sends over the socket, what the agent
at the other end does, and what the adapter reads in its answer.

Contract: a connection works, or it fails before the agent hears of the request, or it fails when
the agent has served it, or the adapter gives up after 30 seconds and the agent serves the request
all the same. An agent that stops while it serves a request does not answer. The host after a call
is the one that the agent leaves when it is done with it, which for a late call is after the
adapter has raised.
-/

namespace RetroBrowser.SessionManager

open RetroBrowser.Foundation
open RuntimeAgent (AgentProgram Host HttpRequest RuntimeRequestHandler.serve RuntimeService)

/-- What becomes of a connection: the agent answers, or never hears of the request, or its answer
is lost, or it answers when the adapter has given up. -/
inductive Link where
  | works | unreachable | silent | late
deriving DecidableEq, Repr

/-! ## Operations through any requester -/

section Through

variable {σ α : Type}

/-- A requester that does something. -/
abbrev Requester (σ : Type) := String → String → Option Json →
    Program σ Error (ℤ × PythonValue)

/-- An operation of the adapter that makes this one request. -/
def asking (requester : Requester σ) (method path : String) (payload : Option Json)
    (operation : AgentRequester → Except Error α) : Program σ Error α := do
  let answer ← requester method path payload
  Program.ofExcept (operation fun _ _ _ => .ok answer)

variable (requester : Requester σ) (provider : LocalRuntimeAgentProvider)

namespace LocalRuntimeAgentProvider

/-- `create`, which asks for nothing where the role and the host do not fit. -/
def createThrough (request : RuntimeRequest) : Program σ Error RuntimeHandle := do
  Program.raiseIf (request.role = .host ∧ request.hostParticipantId ≠ none)
    (.value "host runtime cannot select a Netplay host")
  Program.raiseIf (request.role = .client ∧ request.hostParticipantId = none)
    (.value "client runtime requires a Netplay host participant")
  asking requester "POST" "/v1/runtimes" (some (provider.payload request)) fun requester =>
    provider.create requester request

def inspectThrough (participantId : UUID) : Program σ Error RuntimeHandle :=
  asking requester "GET" ("/v1/runtimes/" ++ UUID.str participantId) none fun requester =>
    provider.inspect requester participantId

def listThrough : Program σ Error (List RuntimeHandle) :=
  asking requester "GET" "/v1/runtimes" none fun requester => provider.list requester

def removeThrough (participantId : UUID) : Program σ Error Unit :=
  asking requester "DELETE" ("/v1/runtimes/" ++ UUID.str participantId) none fun requester =>
    remove requester participantId

end LocalRuntimeAgentProvider

end Through

/-! ## The socket -/

/-- Both ends: the adapter, the agent with its `ping` of the engine, what becomes of the
connection, and the value of a real number's text. -/
structure AgentSocket where
  provider : LocalRuntimeAgentProvider
  service : RuntimeService
  health : AgentProgram Bool
  link : Link
  float : List Char → PythonFloat

namespace AgentSocket

open LocalRuntimeAgentProvider (received unavailable)

variable (socket : AgentSocket)

/-- `connection.request(method, path, body=body, headers=headers)`. -/
def sent (method path : String) (payload : Option Json) : HttpRequest where
  command := method
  path := path
  contentType := payload.map fun _ => "application/json"
  contentLength := payload.map fun document => toString (Json.encodeUtf8 document.dumps).length
  body := match payload with
    | some document => Json.encodeUtf8 document.dumps
    | none => []

/-- `json.loads`. -/
def loads : Loads := Json.loadsPython socket.float

/-- `_request`. -/
def request : Requester Host := fun method path payload host =>
  match socket.link, RuntimeRequestHandler.serve socket.service socket.health
      (sent method path payload) host with
  | .unreachable, _ => (.raised unavailable, host)
  | .works, (.returned (status, document), after) =>
    Program.ofExcept (received socket.loads status (Json.encodeUtf8 document.dumps)) after
  | _, (_, after) => (.raised unavailable, after)

def create (request : RuntimeRequest) : Program Host Error RuntimeHandle :=
  LocalRuntimeAgentProvider.createThrough socket.request socket.provider request

def inspect (participantId : UUID) : Program Host Error RuntimeHandle :=
  LocalRuntimeAgentProvider.inspectThrough socket.request socket.provider participantId

def list : Program Host Error (List RuntimeHandle) :=
  LocalRuntimeAgentProvider.listThrough socket.request socket.provider

def remove (participantId : UUID) : Program Host Error Unit :=
  LocalRuntimeAgentProvider.removeThrough socket.request participantId

end AgentSocket

end RetroBrowser.SessionManager
