import Mathlib.Algebra.Group.Nat.Defs
import RetroBrowser.Foundation.Pattern

/-!
Owns the configuration of the Runtime Agent: the fields its service reads, with
the checks of the configuration model. Paths are texts.
-/

namespace RetroBrowser.RuntimeAgent

open RetroBrowser.Foundation

inductive GpuProfile where
  | cpu | nvidia
deriving DecidableEq, Repr

inductive SelkiesMode where
  | websockets | webrtc
deriving DecidableEq, Repr

inductive TurnProtocol where
  | udp | tcp
deriving DecidableEq, Repr

/-- The texts of the literals. -/
def SelkiesMode.text : SelkiesMode → String
  | .websockets => "websockets"
  | .webrtc => "webrtc"

def TurnProtocol.text : TurnProtocol → String
  | .udp => "udp"
  | .tcp => "tcp"

def GpuProfile.text : GpuProfile → String
  | .cpu => "cpu"
  | .nvidia => "nvidia"

/-- The fields of the configuration model that the service reads, with their defaults. -/
structure AgentFields where
  approvedImage : String
  approvedNetworks : List String
  romRoot : String
  userDataRoot : String
  saveDataRoot : Option String := none
  dockerRomRoot : Option String := none
  dockerUserDataRoot : Option String := none
  dockerSaveDataRoot : Option String := none
  preprovisionedUserData : Bool := false
  manageUserDataPermissions : Bool := true
  metricsTargetRoot : Option String := none
  allowedOrigins : String
  routeHost : Option String := none
  selkiesMode : SelkiesMode := .websockets
  turnRestUri : Option String := none
  turnRestApiKey : Option String := none
  turnRestUsername : String := "retrobrowser"
  turnProtocol : TurnProtocol := .udp
  turnTls : Bool := false
  stunHost : Option String := none
  stunPort : Nat := 3478
  memoryBytes : Nat := 4 * 1024 ^ 3
  nanoCpus : Nat := 2000000000
  pidsLimit : Nat := 1024
  maxRuntimes : Nat := 8
  gpuProfiles : List GpuProfile := [.cpu]
deriving DecidableEq, Repr

namespace AgentFields

/-- `^(?:[^\s@]+@)?sha256:[0-9a-f]{64}$`. -/
def imagePattern (value : String) : Bool :=
  let digest := (value.toList.splitOn '@').getLastD []
  let named := (value.toList.splitOn '@').dropLast
  Pattern.after "sha256:" (fun hex => Pattern.sha256 (String.ofList hex)) (String.ofList digest) &&
    (match named with
      | [] => true
      | [name] => !name.isEmpty && name.all Pattern.isNonSpace
      | _ => false)

/-- `^[a-z0-9](?:[a-z0-9.-]{0,251}[a-z0-9])?$` and `max_length=253`. -/
def hostPattern (value : String) : Bool :=
  value.length ≤ 253 && Pattern.edged Pattern.isLowerAlnum
    (fun character => Pattern.isSlug character || character == '.') value.toList

/-- `^https?://[^\s]+/$`. -/
def uriPattern (value : String) : Bool :=
  let rest (text : List Char) := 1 < text.length && text.getLast? == some '/' &&
    text.all Pattern.isNonSpace
  Pattern.after "http://" rest value || Pattern.after "https://" rest value

/-- `^[A-Za-z0-9_.-]+$` with length 1 to 64. -/
def usernamePattern (value : String) : Bool :=
  Pattern.lengthBetween 1 64 value &&
    value.toList.all fun character => character.isAlphanum || "_.-".toList.contains character

/-- `reject_unsafe_networks`. -/
def forbiddenNetworks : List String := ["host", "none", "bridge", "default"]

/-- `Path(value).is_absolute()`. -/
def isAbsolute (value : String) : Bool := value.toList.head? == some '/'

/-- The checks of the configuration model. -/
def valid (fields : AgentFields) : Bool :=
  imagePattern fields.approvedImage &&
    !fields.approvedNetworks.isEmpty &&
    fields.approvedNetworks.all (fun network => !forbiddenNetworks.contains network) &&
    [fields.romRoot, fields.userDataRoot].all isAbsolute &&
    fields.saveDataRoot.all isAbsolute && fields.metricsTargetRoot.all isAbsolute &&
    (fields.dockerSaveDataRoot.isNone || fields.saveDataRoot.isSome) &&
    fields.routeHost.all hostPattern && fields.stunHost.all hostPattern &&
    fields.turnRestUri.all uriPattern &&
    fields.turnRestApiKey.all (Pattern.lengthBetween 32 512) &&
    usernamePattern fields.turnRestUsername &&
    1 ≤ fields.stunPort && fields.stunPort ≤ 65535 &&
    512 * 1024 ^ 2 ≤ fields.memoryBytes && fields.memoryBytes ≤ 16 * 1024 ^ 3 &&
    500000000 ≤ fields.nanoCpus && fields.nanoCpus ≤ 8000000000 &&
    128 ≤ fields.pidsLimit && fields.pidsLimit ≤ 4096 &&
    1 ≤ fields.maxRuntimes && fields.maxRuntimes ≤ 256 &&
    !fields.gpuProfiles.isEmpty &&
    (let configured := [fields.turnRestUri, fields.turnRestApiKey, fields.stunHost]
     match fields.selkiesMode with
     | .webrtc => configured.all Option.isSome
     | .websockets => configured.all Option.isNone)

end AgentFields

/-- A configuration that the model accepts. -/
structure AgentConfig extends AgentFields where
  accepted : toAgentFields.valid = true

end RetroBrowser.RuntimeAgent
