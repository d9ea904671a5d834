import RetroBrowser.Foundation.Pattern
import RetroBrowser.Foundation.PythonText
import RetroBrowser.Foundation.UUID
import RetroBrowser.RuntimeAgent.Models.Config

/-!
Owns the records of the agent's interface: the request to create a runtime with
its validators, the engine's container record and the runtime record.
-/

namespace RetroBrowser.RuntimeAgent

open RetroBrowser.Foundation

inductive NetplayRole where
  | standalone | host | client
deriving DecidableEq, Repr

def NetplayRole.text : NetplayRole → String
  | .standalone => "standalone"
  | .host => "host"
  | .client => "client"

structure NetplayRequest where
  role : NetplayRole
  host : Option String
  port : Nat
deriving DecidableEq, Repr

namespace NetplayRequest

/-- One label of a host name. -/
def hostLabel (tables : PythonText.CharacterTables) (label : List Char) : Bool :=
  label.length ≤ 63 && label.head?.any tables.isAlnum && label.getLast?.any tables.isAlnum &&
    label.all fun character => tables.isAlnum character || character == '-'

/-- The labels between the dots. -/
def hostLabels (tables : PythonText.CharacterTables) (host : String) : Bool :=
  (host.toList.splitOn '.').all (hostLabel tables)

/-- The field constraints and `validate_host`. -/
def valid (tables : PythonText.CharacterTables) (request : NetplayRequest) : Bool :=
  1024 ≤ request.port && request.port ≤ 65535 &&
    request.host.all (fun host => Pattern.lengthBetween 1 253 host && hostLabels tables host) &&
    (request.host.isSome == (request.role == .client))

end NetplayRequest

/-- `^[A-Za-z0-9][A-Za-z0-9_.:@-]*$` with length 1 to 128. -/
def safeId (value : String) : Bool :=
  Pattern.lengthBetween 1 128 value &&
    Pattern.leads Char.isAlphanum
      (fun character => character.isAlphanum || "_.:@-".toList.contains character) value.toList

/-- `^[a-zA-Z0-9][a-zA-Z0-9_.-]*$` with length 1 to 63. -/
def networkName (value : String) : Bool :=
  Pattern.lengthBetween 1 63 value &&
    Pattern.leads Char.isAlphanum
      (fun character => character.isAlphanum || "_.-".toList.contains character) value.toList

/-- `^[a-z0-9][a-z0-9-]*$` with length 1 to 64. -/
def coreProfileId (value : String) : Bool :=
  Pattern.lengthBetween 1 64 value &&
    Pattern.leads Pattern.isLowerAlnum Pattern.isSlug value.toList

/-- `^/stream/[a-z0-9](?:[a-z0-9-]*[a-z0-9])?$` with length 9 to 96. -/
def streamSubfolder (value : String) : Bool :=
  Pattern.lengthBetween 9 96 value &&
    Pattern.after "/stream/" (Pattern.edged Pattern.isLowerAlnum Pattern.isSlug) value

/-- `validate_player_name`: no surrounding whitespace and no control characters. -/
def plainName (value : String) : Bool :=
  PythonText.strip PythonText.isSpace value.toList == value.toList &&
    value.toList.all fun character => 32 ≤ character.toNat && character.toNat != 127

structure CreateRuntimeRequest where
  sessionId : UUID
  participantId : UUID
  userId : String
  playerName : String
  image : String
  romPath : String
  romSha256 : String
  coreProfile : String
  netplay : NetplayRequest
  streamSubfolder : String
  streamNetwork : String
  netplayNetwork : String
  gpuProfile : GpuProfile
  selkiesMasterToken : String
deriving DecidableEq, Repr

/-- The field constraints and validators of the request model. -/
def CreateRuntimeRequest.valid (tables : PythonText.CharacterTables)
    (request : CreateRuntimeRequest) : Bool :=
  safeId request.userId &&
    Pattern.lengthBetween 1 64 request.playerName && plainName request.playerName &&
    Pattern.lengthBetween 1 512 request.image && Pattern.lengthBetween 1 4096 request.romPath &&
    Pattern.sha256 request.romSha256 && coreProfileId request.coreProfile &&
    request.netplay.valid tables && RuntimeAgent.streamSubfolder request.streamSubfolder &&
    networkName request.streamNetwork && networkName request.netplayNetwork &&
    Pattern.lengthBetween 32 512 request.selkiesMasterToken &&
    request.streamNetwork != request.netplayNetwork

/-- The engine's states of a container. -/
inductive ContainerState where
  | created | running | paused | restarting | removing | exited | dead | unknown
deriving DecidableEq, Repr

inductive HealthStatus where
  | none | starting | healthy | unhealthy
deriving DecidableEq, Repr

/-- A dictionary of texts, as pairs with distinct keys. -/
abbrev Labels := List (String × String)

structure ContainerRecord where
  containerId : String
  name : String
  state : ContainerState
  healthStatus : HealthStatus
  labels : Labels
  image : String
deriving DecidableEq, Repr

structure RuntimeRecord where
  participantId : UUID
  containerId : String
  containerName : String
  state : ContainerState
  healthStatus : HealthStatus
  streamSubfolder : String
  orphaned : Bool
deriving DecidableEq, Repr

structure RuntimeCapacity where
  maximum : Nat
  used : Nat
  available : Nat
deriving DecidableEq, Repr

end RetroBrowser.RuntimeAgent
