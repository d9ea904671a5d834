import RetroBrowser.Foundation.Program
import RetroBrowser.SessionManager.Providers.Interfaces
import RetroBrowser.SessionManager.Repositories.Memory

/-!
Owns everything outside the service that its operations read and change: the
repository contents, the existing runtimes, the identifiers drawn so far and
the history of all external calls, most recent first.

`Dependencies` says how the outside behaves during one operation, call by call:
whether the process stops before the call, whether the call raises and with or
without having taken effect, and what it answers. Calls are numbered by the
length of the history, so one operation's behaviour can be any pattern at all.
`uuid4` never draws an identifier twice: where the proposed one is already in
use the run is observed no further.
-/

namespace RetroBrowser.SessionManager

open RetroBrowser.Foundation

/-- One call to a dependency, with its arguments. -/
inductive Call where
  | clock
  | monotonic
  | sleep (seconds : Rat)
  | uuid4
  | resolveGame (rommRomId : Int)
  | resolveCore (platform : String)
  | repositoryAdd (session : Session)
  | repositoryGet (sessionId : UUID)
  | repositoryList
  | repositorySave (session : Session) (expectedRevision : Nat)
  | executionCreate (request : RuntimeRequest)
  | executionInspect (participantId : UUID)
  | executionList
  | executionRemove (participantId : UUID)
  | streamProvision (participantId : UUID) (gamepadSlot : Nat)
  | streamRevoke (participantId : UUID)
deriving DecidableEq, Repr

/-- A completed call: whether its effect took place and whether it returned normally. -/
structure Event where
  call : Call
  applied : Bool
  returned : Bool
deriving DecidableEq, Repr

structure World where
  sessions : InMemorySessionRepository
  runtimes : List UUID
  issued : List UUID
  history : List Event
deriving DecidableEq, Repr

namespace World

/-- No sessions, no runtimes, nothing called yet. -/
def empty : World := ⟨[], [], [], []⟩

variable (world : World)

def get (sessionId : UUID) : Option Session :=
  InMemorySessionRepository.get world.sessions sessionId

/-- Append a completed call to the history. -/
def record (event : Event) : World := { world with history := event :: world.history }

def issue (id : UUID) : World := { world with issued := id :: world.issued }

def insert (session : Session) : World := { world with sessions := world.sessions ++ [session] }

def overwrite (session : Session) : World :=
  { world with sessions := InMemorySessionRepository.overwrite world.sessions session }

/-- Creating a runtime that exists already changes nothing. -/
def startRuntime (id : UUID) : World :=
  { world with runtimes := if id ∈ world.runtimes then world.runtimes
    else world.runtimes ++ [id] }

def discardRuntime (id : UUID) : World :=
  { world with runtimes := world.runtimes.filter (· ≠ id) }

section Fields

variable (event : Event) (id : UUID) (session : Session)

@[simp] theorem record_sessions : (world.record event).sessions = world.sessions := rfl
@[simp] theorem record_runtimes : (world.record event).runtimes = world.runtimes := rfl
@[simp] theorem record_issued : (world.record event).issued = world.issued := rfl
@[simp] theorem record_history : (world.record event).history = event :: world.history := rfl
@[simp] theorem record_get : (world.record event).get id = world.get id := rfl
@[simp] theorem issue_get (other : UUID) : (world.issue id).get other = world.get other := rfl
@[simp] theorem issue_sessions : (world.issue id).sessions = world.sessions := rfl
@[simp] theorem issue_runtimes : (world.issue id).runtimes = world.runtimes := rfl
@[simp] theorem issue_issued : (world.issue id).issued = id :: world.issued := rfl
@[simp] theorem issue_history : (world.issue id).history = world.history := rfl
@[simp] theorem insert_sessions :
    (world.insert session).sessions = world.sessions ++ [session] := rfl
@[simp] theorem insert_runtimes : (world.insert session).runtimes = world.runtimes := rfl
@[simp] theorem insert_issued : (world.insert session).issued = world.issued := rfl
@[simp] theorem insert_history : (world.insert session).history = world.history := rfl
@[simp] theorem overwrite_sessions : (world.overwrite session).sessions =
    InMemorySessionRepository.overwrite world.sessions session := rfl
@[simp] theorem overwrite_runtimes : (world.overwrite session).runtimes = world.runtimes := rfl
@[simp] theorem overwrite_issued : (world.overwrite session).issued = world.issued := rfl
@[simp] theorem overwrite_history : (world.overwrite session).history = world.history := rfl
@[simp] theorem startRuntime_sessions : (world.startRuntime id).sessions = world.sessions := rfl
@[simp] theorem startRuntime_issued : (world.startRuntime id).issued = world.issued := rfl
@[simp] theorem startRuntime_history : (world.startRuntime id).history = world.history := rfl
@[simp] theorem discardRuntime_sessions : (world.discardRuntime id).sessions = world.sessions := rfl
@[simp] theorem discardRuntime_issued : (world.discardRuntime id).issued = world.issued := rfl
@[simp] theorem discardRuntime_history : (world.discardRuntime id).history = world.history := rfl

end Fields

variable {world}

theorem get_insert {session : Session} (absent : world.get session.sessionId = none) :
    (world.insert session).get session.sessionId = some session := by
  rw [get, insert_sessions, InMemorySessionRepository.get, List.find?_append]
  rw [get, InMemorySessionRepository.get] at absent
  rw [absent]
  simp

theorem get_insert_other {session : Session} {sessionId : UUID}
    (other : session.sessionId ≠ sessionId) :
    (world.insert session).get sessionId = world.get sessionId := by
  simp [get, InMemorySessionRepository.get, other]

theorem mem_startRuntime {id other : UUID} :
    other ∈ (world.startRuntime id).runtimes ↔ other ∈ world.runtimes ∨ other = id := by
  unfold startRuntime
  by_cases exists' : id ∈ world.runtimes
  · simp only [exists', if_true]
    exact ⟨Or.inl, fun either => either.elim (·) (fun same => same ▸ exists')⟩
  · simp [exists']

theorem mem_discardRuntime {id other : UUID} :
    other ∈ (world.discardRuntime id).runtimes ↔ other ∈ world.runtimes ∧ other ≠ id := by
  simp [discardRuntime]

theorem startRuntime_length_le (id : UUID) :
    (world.startRuntime id).runtimes.length ≤ world.runtimes.length + 1 := by
  unfold startRuntime
  by_cases exists' : id ∈ world.runtimes <;> simp [exists']

theorem discardRuntime_length_le (id : UUID) :
    (world.discardRuntime id).runtimes.length ≤ world.runtimes.length :=
  List.length_filter_le _ _

end World

/-- A call that raises, possibly after it took effect. -/
structure Fault where
  error : Error
  applied : Bool
deriving DecidableEq, Repr

/-- How the outside behaves during one operation. -/
structure Dependencies where
  stops : Nat → Bool
  fault : Nat → Call → Option Fault
  clock : Nat → Time
  monotonic : Nat → Rat
  uuid4 : Nat → UUID
  resolveGame : Nat → Int → Except Error GameRecord
  resolveCore : Nat → String → Except Error CoreProfile
  runtimeCreated : Nat → RuntimeRequest → RuntimeHandle
  runtimeInspected : Nat → UUID → Except Error RuntimeHandle
  runtimeListed : Nat → UUID → RuntimeHandle
  controllerToken : Nat → UUID → String
  /-- Rounds of the readiness loop after which the run is observed no further. -/
  pollRounds : Nat

/-- The settings `SessionService.__init__` is given. -/
structure Settings where
  sessionTtl : Duration
  lobbyLease : Duration
  participantIdleTimeout : Duration
  startupTimeout : Duration
  netplayConnectTimeout : Duration
  pollInterval : Duration
  runtimeCapacity : Int
  sessionCapacity : Int
  perUserRuntimeCapacity : Int
deriving DecidableEq, Repr

/-- The checks of `SessionService.__init__`. -/
def Settings.check (settings : Settings) : Except Error Unit :=
  let durations := [settings.sessionTtl, settings.lobbyLease, settings.participantIdleTimeout,
    settings.startupTimeout, settings.netplayConnectTimeout, settings.pollInterval]
  if durations.any (· ≤ 0) then
    .error (.value "session and orchestration durations must be positive")
  else if settings.runtimeCapacity < 1 then
    .error (.value "runtime capacity must be positive")
  else if settings.sessionCapacity < 1 ∨ settings.runtimeCapacity < settings.sessionCapacity then
    .error (.value "session capacity must be positive and not exceed runtime capacity")
  else if settings.perUserRuntimeCapacity < 1 ∨
      settings.runtimeCapacity < settings.perUserRuntimeCapacity then
    .error (.value "per-user runtime capacity must be positive and not exceed runtime capacity")
  else .ok ()

/-- What the checks establish. -/
theorem Settings.check_ok {settings : Settings} (accepted : settings.check = .ok ()) :
    (0 < settings.sessionTtl ∧ 0 < settings.lobbyLease ∧ 0 < settings.participantIdleTimeout ∧
      0 < settings.startupTimeout ∧ 0 < settings.netplayConnectTimeout ∧
      0 < settings.pollInterval) ∧
    1 ≤ settings.runtimeCapacity ∧
    (1 ≤ settings.sessionCapacity ∧ settings.sessionCapacity ≤ settings.runtimeCapacity) ∧
    (1 ≤ settings.perUserRuntimeCapacity ∧
      settings.perUserRuntimeCapacity ≤ settings.runtimeCapacity) := by
  unfold Settings.check at accepted
  simp only [List.any_cons, List.any_nil, Bool.or_eq_true, decide_eq_true_eq, Bool.or_false]
    at accepted
  split_ifs at accepted with durations runtime sessions user
  simp only [not_or, not_le] at durations
  exact ⟨durations, by omega, by omega, by omega⟩

/-- Settings that `SessionService.__init__` accepts. -/
structure Configuration extends Settings where
  accepted : toSettings.check = .ok ()

/-- The defaults of `SessionService.__init__`. -/
def Configuration.default : Configuration where
  sessionTtl := 14400000000
  lobbyLease := 120000000
  participantIdleTimeout := 45000000
  startupTimeout := 180000000
  netplayConnectTimeout := 45000000
  pollInterval := 2000000
  runtimeCapacity := 8
  sessionCapacity := 4
  perUserRuntimeCapacity := 8
  accepted := by decide

/-- The service: its configuration and the dependencies of the current operation. -/
structure SessionService where
  configuration : Configuration
  dependencies : Dependencies

abbrev ServiceProgram (α : Type) := Program World Error α

namespace SessionService

variable (self : SessionService)

/-- A call that may raise: what it does when it works, and the same effect
before the error where the fault says so. -/
def invoke {α : Type} (call : Call) (works : World → Except Error (α × World)) :
    ServiceProgram α := fun world =>
  let index := world.history.length
  if self.dependencies.stops index then (.stopped, world)
  else
    match self.dependencies.fault index call, works world with
    | none, .ok (value, after) => (.returned value, after.record ⟨call, true, true⟩)
    | none, .error error => (.raised error, world.record ⟨call, false, false⟩)
    | some ⟨error, true⟩, .ok (_, after) =>
        (.raised error, after.record ⟨call, true, false⟩)
    | some ⟨error, _⟩, _ => (.raised error, world.record ⟨call, false, false⟩)

/-- A call of the standard library, which does not raise. -/
def observe {α : Type} (call : Call) (answer : α) : ServiceProgram α := fun world =>
  if self.dependencies.stops world.history.length then (.stopped, world)
  else (.returned answer, world.record ⟨call, true, true⟩)

/-- The index of the next call. -/
def ask {α : Type} (answer : Nat → ServiceProgram α) : ServiceProgram α :=
  fun world => answer world.history.length world

def clock : ServiceProgram Time :=
  ask fun index => self.observe .clock (self.dependencies.clock index)

def monotonic : ServiceProgram Rat :=
  ask fun index => self.observe .monotonic (self.dependencies.monotonic index)

def sleep (seconds : Rat) : ServiceProgram Unit := self.observe (.sleep seconds) ()

def uuid4 : ServiceProgram UUID := fun world =>
  let id := self.dependencies.uuid4 world.history.length
  if self.dependencies.stops world.history.length ∨ id ∈ world.issued then (.stopped, world)
  else (.returned id, (world.issue id).record ⟨.uuid4, true, true⟩)

def resolveGame (rommRomId : Int) : ServiceProgram GameRecord :=
  ask fun index => self.invoke (.resolveGame rommRomId) fun world =>
    (self.dependencies.resolveGame index rommRomId).map (·, world)

def resolveCore (platform : String) : ServiceProgram CoreProfile :=
  ask fun index => self.invoke (.resolveCore platform) fun world =>
    (self.dependencies.resolveCore index platform).map (·, world)

def repositoryAdd (session : Session) : ServiceProgram Unit :=
  self.invoke (.repositoryAdd session) fun world =>
    (InMemorySessionRepository.add world.sessions session).map fun sessions =>
      ((), { world with sessions })

def repositoryGet (sessionId : UUID) : ServiceProgram (Option Session) :=
  self.invoke (.repositoryGet sessionId) fun world => .ok (world.get sessionId, world)

def repositoryList : ServiceProgram (List Session) :=
  self.invoke .repositoryList fun world =>
    .ok (InMemorySessionRepository.list world.sessions, world)

def repositorySave (session : Session) (expectedRevision : Nat) : ServiceProgram Unit :=
  self.invoke (.repositorySave session expectedRevision) fun world =>
    (InMemorySessionRepository.save world.sessions session expectedRevision).map fun sessions =>
      ((), { world with sessions })

def executionCreate (request : RuntimeRequest) : ServiceProgram RuntimeHandle :=
  ask fun index => self.invoke (.executionCreate request) fun world =>
    .ok (self.dependencies.runtimeCreated index request, world.startRuntime request.participantId)

def executionInspect (participantId : UUID) : ServiceProgram RuntimeHandle :=
  ask fun index => self.invoke (.executionInspect participantId) fun world =>
    (self.dependencies.runtimeInspected index participantId).map (·, world)

/-- The list names exactly the existing runtimes. -/
def executionList : ServiceProgram (List RuntimeHandle) :=
  ask fun index => self.invoke .executionList fun world =>
    .ok (world.runtimes.map fun id =>
      { self.dependencies.runtimeListed index id with runtimeId := id }, world)

/-- Removing a runtime that does not exist succeeds. -/
def executionRemove (participantId : UUID) : ServiceProgram Unit :=
  self.invoke (.executionRemove participantId) fun world =>
    .ok ((), world.discardRuntime participantId)

def streamProvision (participantId : UUID) (gamepadSlot : Nat) : ServiceProgram String :=
  ask fun index => self.invoke (.streamProvision participantId gamepadSlot) fun world =>
    .ok (self.dependencies.controllerToken index participantId, world)

def streamRevoke (participantId : UUID) : ServiceProgram Unit :=
  self.invoke (.streamRevoke participantId) fun world => .ok ((), world)

end SessionService

end RetroBrowser.SessionManager
