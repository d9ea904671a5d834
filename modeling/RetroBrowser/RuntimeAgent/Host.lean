import Mathlib.Data.List.AList
import RetroBrowser.Foundation.PurePath
import RetroBrowser.Foundation.WeakestPre
import RetroBrowser.RuntimeAgent.Docker.Engine
import RetroBrowser.RuntimeAgent.Errors

/-!
Owns everything outside the agent that its operations read and change: the
container engine, the directories of routes and of metrics targets, the files
of the user-data directories and the history of all external calls, most recent
first.

`Dependencies` says how the outside behaves during one operation, call by call:
whether the process stops before the call, what containers do on their own
before it, whether the call raises and with or without having taken effect, and
what the engine and the file system answer. Calls are numbered by the length of
the history. A `stop_runtime` served by another thread meanwhile is a container
that changes its state on its own.
-/

namespace RetroBrowser.RuntimeAgent

open RetroBrowser.Foundation

/-! ## Registries -/

/-- The two directories with one file for each participant. -/
inductive Registry where
  | routes | targets
deriving DecidableEq, Repr

namespace Registry

def suffix : Registry → String
  | .routes => ".yml"
  | .targets => ".json"

/-- `_path(participant_id)`, beneath the root. -/
def fileName (registry : Registry) (participantId : UUID) : String :=
  "runtime-" ++ UUID.str participantId ++ registry.suffix

/-- `_path(participant_id).with_suffix(".tmp")`. -/
def temporaryName (participantId : UUID) : String := "runtime-" ++ UUID.str participantId ++ ".tmp"

/-- `glob("runtime-*" + suffix)`: the name between the two, which is the stem
without its prefix. -/
def globbed (registry : Registry) (name : String) : Option String :=
  let start := "runtime-".toList
  let finish := registry.suffix.toList
  let rest := name.toList.drop start.length
  if start.isPrefixOf name.toList ∧ finish.isSuffixOf rest then
    some (String.ofList (rest.take (rest.length - finish.length)))
  else none

end Registry

/-- A directory of documents by file name. -/
abbrev Directory := AList fun _ : String => Document

/-! ## Calls -/

/-- One call to the engine or the file system, with its arguments. -/
inductive Call where
  | createContainer (name : String) (payload : Payload)
  | startContainer (containerId : String)
  | inspectContainer (reference : Reference)
  | stopContainer (containerId : String)
  | removeContainer (containerId : String)
  | listManagedContainers
  | write (registry : Registry) (participantId : UUID) (document : Document)
  | replace (registry : Registry) (participantId : UUID)
  | unlink (registry : Registry) (participantId : UUID)
  | isPublished (registry : Registry) (participantId : UUID)
  | glob (registry : Registry)
  | resolve (path : PurePath.Text)
  | isFile (path : PurePath.Text)
  | isDirectory (path : PurePath.Text)
  | read (path : PurePath.Text)
  | makeDirectory (path : PurePath.Text) (mode : Nat)
  | changeMode (path : PurePath.Text) (mode : Nat)
  | changeOwner (path : PurePath.Text)
  | writeText (path : PurePath.Text) (content : PurePath.Text)
  | replaceText (source destination : PurePath.Text)
deriving DecidableEq, Repr

namespace Call

/-- What the call returns. -/
abbrev Answer : Call → Type
  | .createContainer _ _ => String
  | .inspectContainer _ => ContainerRecord
  | .listManagedContainers => List ContainerRecord
  | .isPublished _ _ | .isFile _ | .isDirectory _ => Bool
  | .glob _ => List String
  | .resolve _ => PurePath.Resolved
  | .read _ => List UInt8
  | _ => Unit

/-- The errors a failing call may raise. The engine's client never raises
`OwnershipError`, and `NotFoundError` while the container exists only where the
engine misses something else (an image, a network); file calls raise no error
of the agent, and `is_file` and `is_dir` raise none at all. -/
def mayRaise : Call → Error → Bool
  | .isPublished _ _, _ | .isFile _, _ | .isDirectory _, _ => false
  | .createContainer _ _, error | .startContainer _, error =>
    match error with
    | .ownership _ => false
    | _ => true
  | .inspectContainer _, error | .stopContainer _, error | .removeContainer _, error
  | .listManagedContainers, error =>
    match error with
    | .ownership _ | .notFound _ => false
    | _ => true
  | _, error => !error.isRuntimeAgentError

end Call

/-! ## The host -/

/-- A completed call: what containers did on their own just before it, whether
its effect took place, and its answer if it returned. -/
structure Event where
  call : Call
  drifts : List Drift
  applied : Bool
  answer : Option call.Answer

structure Host where
  engine : Engine
  files : Registry → Directory
  userFiles : AList fun _ : PurePath.Text => PurePath.Text
  history : List Event

namespace Host

variable (host : Host)

/-- No containers, no files, nothing called yet. -/
def empty : Host := ⟨Engine.empty, fun _ => ∅, ∅, []⟩

def record (event : Event) : Host := { host with history := event :: host.history }

/-- Containers do something on their own. -/
def drifted (drifts : List Drift) : Host := { host with engine := host.engine.drifted drifts }

def withEngine (engine : Engine) : Host := { host with engine }

def withFiles (registry : Registry) (directory : Directory) : Host :=
  { host with files := Function.update host.files registry directory }

/-- The file of a participant in a registry. -/
def published (registry : Registry) (participantId : UUID) : Option Document :=
  (host.files registry).lookup (registry.fileName participantId)

section Fields

variable (event : Event) (drifts : List Drift) (engine : Engine) (registry : Registry)
  (directory : Directory)

@[simp] theorem record_engine : (host.record event).engine = host.engine := rfl
@[simp] theorem record_files : (host.record event).files = host.files := rfl
@[simp] theorem record_userFiles : (host.record event).userFiles = host.userFiles := rfl
@[simp] theorem record_history : (host.record event).history = event :: host.history := rfl
@[simp] theorem drifted_engine : (host.drifted drifts).engine = host.engine.drifted drifts := rfl
@[simp] theorem drifted_files : (host.drifted drifts).files = host.files := rfl
@[simp] theorem drifted_history : (host.drifted drifts).history = host.history := rfl
@[simp] theorem withEngine_engine : (host.withEngine engine).engine = engine := rfl
@[simp] theorem withEngine_files : (host.withEngine engine).files = host.files := rfl
@[simp] theorem withEngine_history : (host.withEngine engine).history = host.history := rfl
@[simp] theorem withFiles_engine : (host.withFiles registry directory).engine = host.engine := rfl
@[simp] theorem withFiles_history :
    (host.withFiles registry directory).history = host.history := rfl

@[simp] theorem withFiles_files_self :
    (host.withFiles registry directory).files registry = directory := Function.update_self ..

theorem withFiles_files_other {other : Registry} (differs : other ≠ registry) :
    (host.withFiles registry directory).files other = host.files other :=
  Function.update_of_ne differs ..

end Fields

end Host

/-- A call that raises, possibly after it took effect. -/
structure Fault where
  error : Error
  applied : Bool
deriving DecidableEq, Repr

/-- What the file system answers outside the registries. -/
structure FileSystem where
  resolve : PurePath.Text → Option PurePath.Resolved
  isFile : PurePath.Text → Bool
  isDirectory : PurePath.Text → Bool
  read : PurePath.Text → Option (List UInt8)

/-- How the outside behaves during one operation. -/
structure Dependencies where
  stops : Nat → Call → Bool
  drifts : Nat → List Drift
  fault : Nat → Call → Option Fault
  containerId : Nat → String
  fileSystem : Nat → FileSystem
  lawful : ∀ index call fault', fault index call = some fault' →
    call.mayRaise fault'.error = true

namespace Call

/-- The engine's answer about an existing container. -/
def onContainer {α : Type} (host : Host) (reference : Reference) (answer : Container → α) :
    Except Error α :=
  match host.engine.find? reference with
  | some container => .ok (answer container)
  | none => .error (.notFound "Docker object was not found")

/-- The content of a file that may be missing. -/
def onFile {α : Type} (content : Option α) : Except Error α :=
  match content with
  | some content => .ok content
  | none => .error (.os "No such file or directory")

/-- What a call answers, or the error that the state of the host makes it raise.
An identifier that the engine has handed out before counts as its failure. -/
def answer (dependencies : Dependencies) (index : Nat) :
    (call : Call) → Host → Except Error call.Answer
  | .createContainer name _, host =>
    if name ∈ host.engine.containers.map fun container => container.name then
      .error (.conflict "Docker object conflicts with existing state")
    else if dependencies.containerId index ∈ host.engine.issued then
      .error (.engine "Docker Engine did not return a container ID")
    else .ok (dependencies.containerId index)
  | .startContainer containerId, host => onContainer host (.byId containerId) fun _ => ()
  | .inspectContainer reference, host =>
    onContainer host reference fun container => container.toContainerRecord
  | .stopContainer containerId, host => onContainer host (.byId containerId) fun _ => ()
  | .removeContainer containerId, host => onContainer host (.byId containerId) fun _ => ()
  | .listManagedContainers, host =>
    .ok (host.engine.managed.map fun container =>
      { container.toContainerRecord with healthStatus := .none })
  | .replace registry participantId, host =>
    (onFile ((host.files registry).lookup (Registry.temporaryName participantId))).map fun _ => ()
  | .isPublished registry participantId, host => .ok (host.published registry participantId).isSome
  | .glob registry, host => .ok ((host.files registry).keys.filterMap registry.globbed)
  | .resolve path, _ => onFile ((dependencies.fileSystem index).resolve path)
  | .isFile path, _ => .ok ((dependencies.fileSystem index).isFile path)
  | .isDirectory path, _ => .ok ((dependencies.fileSystem index).isDirectory path)
  | .read path, _ => onFile ((dependencies.fileSystem index).read path)
  | .replaceText source _, host => (onFile (host.userFiles.lookup source)).map fun _ => ()
  | .write _ _ _, _ | .unlink _ _, _ | .makeDirectory _ _, _ | .changeMode _ _, _
  | .changeOwner _, _ | .writeText _ _, _ => .ok ()

/-- What a call that answers does to the host. -/
def effect (dependencies : Dependencies) (index : Nat) (host : Host) : Call → Host
  | .createContainer name payload =>
    if fresh : dependencies.containerId index ∉ host.engine.issued ∧
        name ∉ host.engine.containers.map fun container => container.name then
      host.withEngine (host.engine.insert
        (Engine.created (dependencies.containerId index) name payload) fresh.1 fresh.2)
    else host
  | .startContainer containerId =>
    host.withEngine (host.engine.adjust containerId Engine.started id)
  | .stopContainer containerId =>
    host.withEngine (host.engine.adjust containerId Engine.halted id)
  | .removeContainer containerId => host.withEngine (host.engine.discard containerId)
  | .write registry participantId document =>
    host.withFiles registry
      ((host.files registry).insert (Registry.temporaryName participantId) document)
  | .replace registry participantId =>
    match (host.files registry).lookup (Registry.temporaryName participantId) with
    | none => host
    | some document =>
      host.withFiles registry
        (((host.files registry).erase (Registry.temporaryName participantId)).insert
          (registry.fileName participantId) document)
  | .unlink registry participantId =>
    host.withFiles registry ((host.files registry).erase (registry.fileName participantId))
  | .writeText path content => { host with userFiles := host.userFiles.insert path content }
  | .replaceText source destination =>
    match host.userFiles.lookup source with
    | none => host
    | some content =>
      { host with userFiles := (host.userFiles.erase source).insert destination content }
  | .inspectContainer _ | .listManagedContainers | .isPublished _ _ | .glob _ | .resolve _
  | .isFile _ | .isDirectory _ | .read _ | .makeDirectory _ _ | .changeMode _ _
  | .changeOwner _ => host

end Call

abbrev AgentProgram (α : Type) := Program Host Error α

namespace Dependencies

variable (dependencies : Dependencies)

/-- One call: its answer and effect when it works, and the same effect before
the error where the fault says so. -/
def invoke (call : Call) : AgentProgram call.Answer := fun host =>
  let index := host.history.length
  if dependencies.stops index call then (.stopped, host)
  else
    let drifts := dependencies.drifts index
    let before := host.drifted drifts
    let after := call.effect dependencies index before
    match call.answer dependencies index before, dependencies.fault index call with
    | .ok value, none => (.returned value, after.record ⟨call, drifts, true, some value⟩)
    | .error error, none => (.raised error, before.record ⟨call, drifts, false, none⟩)
    | .ok _, some ⟨error, true⟩ => (.raised error, after.record ⟨call, drifts, true, none⟩)
    | _, some ⟨error, _⟩ => (.raised error, before.record ⟨call, drifts, false, none⟩)

end Dependencies

end RetroBrowser.RuntimeAgent
