import RetroBrowser.SessionManager.Services.SessionService

/-!
Owns the abstract lobby: the external actions the service may take, each with
the condition under which it takes it and its effect on the world. One action
is one call to a dependency. The operations of the service are shown elsewhere
to take enabled and permitted actions only, so an invariant of the lobby is
proved action by action and never again operation by operation.
-/

namespace RetroBrowser.SessionManager

open RetroBrowser.Foundation

/-! ## What the history proves -/

/-- `execution.create` was attempted for the participant. -/
def Started (history : List Event) (participantId : UUID) : Prop :=
  ∃ event ∈ history, ∃ request,
    event.call = .executionCreate request ∧ request.participantId = participantId

/-- After its `execution.create`, the participant's token was revoked (or the
attempt made) and then its runtime removal was acknowledged. -/
def RetiredIn (history : List Event) (participantId : UUID) : Prop :=
  ∃ later between earlier applied returned,
    history = later ++ ⟨.executionRemove participantId, true, true⟩ ::
      (between ++ ⟨.streamRevoke participantId, applied, returned⟩ :: earlier) ∧
    Started earlier participantId

/-- Retired, and the runtime has not come back. -/
def World.Retired (world : World) (participantId : UUID) : Prop :=
  RetiredIn world.history participantId ∧ participantId ∉ world.runtimes

theorem Started.cons {history : List Event} {participantId : UUID} (event : Event)
    (started : Started history participantId) : Started (event :: history) participantId := by
  obtain ⟨earlier, member, request, call⟩ := started
  exact ⟨earlier, List.mem_cons_of_mem event member, request, call⟩

theorem started_cons_iff {history : List Event} {participantId : UUID} {event : Event} :
    Started (event :: history) participantId ↔
      (∃ request, event.call = .executionCreate request ∧
        request.participantId = participantId) ∨
        Started history participantId := by
  simp [Started]

theorem RetiredIn.cons {history : List Event} {participantId : UUID} (event : Event)
    (retired : RetiredIn history participantId) : RetiredIn (event :: history) participantId := by
  obtain ⟨later, between, earlier, applied, returned, rfl, started⟩ := retired
  exact ⟨event :: later, between, earlier, applied, returned, rfl, started⟩

/-! ## Quotas and identifiers -/

/-- Sessions outside `{CLOSED, ERROR}`. -/
def World.activeSessions (world : World) : List Session :=
  world.sessions.filter fun session => session.state ≠ .closed ∧ session.state ≠ .error

/-- No stored participant, runtime or startup uses the identifier. -/
structure World.Unused (world : World) (id : UUID) : Prop where
  stored : ∀ session ∈ world.sessions, ∀ item ∈ session.participants,
    item.participantId ≠ id
  started : ¬ Started world.history id
  runtime : id ∉ world.runtimes

/-! ## Changes to a stored session -/

/-- One save of a session. The participant is the stored entry that changes. -/
inductive Update where
  | joined (participant : Participant)
  | starting (participant : Participant)
  | running (participant : Participant) (runtimeId : UUID)
  | active (participant : Participant) (activeAt : Time) (expiresAt : Time)
  | failed (participant : Participant) (role : Role)
  | renewed (participant : Participant) (now : Time) (expiresAt : Time)
  | left (participant : Participant) (now : Time)
  | faulted (participant : Participant) (now : Time)
  | closed (reason : String)
deriving DecidableEq, Repr

namespace Update

/-- The entry of a retired participant. -/
def retire (now : Time) (participant : Participant) : Participant :=
  if participant.state.terminal then participant
  else { participant with state := .left, lastHeartbeat := now }

/-- The record a save stores. -/
def result (session : Session) (updatedAt : Time) : Update → Session
  | joined participant =>
      SessionService.replacement session participant session.state true none updatedAt
  | starting participant =>
      SessionService.replacement session { participant with state := .starting }
        (if session.state = .creating then .starting else session.state) false none updatedAt
  | running participant runtimeId =>
      SessionService.replacement session { participant with runtimeId := some runtimeId }
        session.state false none updatedAt
  | active participant activeAt expiresAt =>
      SessionService.replacement session
        { participant with
          state := .active, lastHeartbeat := activeAt
          streamPath := some (SessionService.streamPath participant.participantId) }
        (if session.state = .starting then .open else session.state) false (some expiresAt)
        updatedAt
  | failed participant role =>
      SessionService.replacement session { participant with state := .error }
        (if role = .host then .error else session.state) false none updatedAt
  | renewed participant now expiresAt =>
      SessionService.replacement session { participant with lastHeartbeat := now } session.state
        false (some expiresAt) updatedAt
  | left participant now =>
      SessionService.replacement session
        { participant with state := .left, lastHeartbeat := now } session.state false none updatedAt
  | faulted participant now =>
      SessionService.replacement session
        { participant with state := .error, lastHeartbeat := now } session.state false none
        updatedAt
  | closed reason =>
      { session with
        state := .closed, participants := session.participants.map (retire updatedAt), updatedAt
        closedReason := some reason, revision := session.revision + 1 }

/-- When the service saves the change. -/
def Enabled (configuration : Configuration) (world : World) (session : Session) : Update → Prop
  | joined participant =>
      session.state = .open ∧ participant.state = .allocating ∧
        participant.sessionId = session.sessionId ∧ participant.streamPath = none ∧
        participant.valid = true ∧
        world.Unused participant.participantId ∧ participant.participantId ∈ world.issued ∧
        SessionService.activeIn session participant.userId = false ∧
        session.playerCount < session.maxPlayers ∧
        (SessionService.userRuntimes participant.userId world.activeSessions : Int) <
          configuration.perUserRuntimeCapacity ∧
        SessionService.freeSlot session = some participant.playerSlot
  | starting participant =>
      participant ∈ session.participants ∧ participant.state = .allocating ∧
        (session.state = .creating ∨ session.state = .open)
  | running participant _ =>
      participant ∈ session.participants ∧ participant.state = .starting ∧
        (session.state = .starting ∨ session.state = .open)
  | active participant activeAt expiresAt =>
      participant ∈ session.participants ∧ participant.state = .starting ∧
        (session.state = .starting ∨ session.state = .open) ∧
        Started world.history participant.participantId ∧
        expiresAt = min (activeAt + configuration.lobbyLease)
          (session.createdAt + configuration.sessionTtl)
  | failed participant role =>
      participant ∈ session.participants ∧ participant.state = .starting ∧
        (role = .host ∧ session.state = .starting ∨ role = .client ∧ session.state = .open)
  | renewed participant now expiresAt =>
      participant ∈ session.participants ∧ participant.state = .active ∧
        expiresAt = min (now + configuration.lobbyLease)
          (session.createdAt + configuration.sessionTtl)
  | left participant _ | faulted participant _ =>
      participant ∈ session.participants ∧ participant.state = .active ∧
        world.Retired participant.participantId
  | closed reason =>
      session.state ≠ .closed ∧ lengthBetween 0 64 reason = true ∧
        ∀ item ∈ session.participants, item.live = true →
          item.state = .active ∧ world.Retired item.participantId

end Update

/-! ## Actions -/

/-- Calls that change neither the repository nor a provider. -/
def Call.readOnly : Call → Bool
  | .clock | .monotonic | .sleep _ | .resolveGame _ | .resolveCore _ | .repositoryGet _
  | .repositoryList | .executionInspect _ | .executionList => true
  | _ => false

/-- One external call of the service. The flags are those of the recorded event. -/
inductive Action where
  | observed (event : Event)
  | drew (id : UUID)
  | added (session : Session) (owner : Participant) (applied returned : Bool)
  | saved (session : Session) (update : Update) (updatedAt : Time) (applied returned : Bool)
  | created (session : Session) (participant : Participant) (request : RuntimeRequest)
      (applied returned : Bool)
  | removed (participantId : UUID) (applied returned : Bool)
  | provisioned (session : Session) (participant : Participant) (applied returned : Bool)
  | revoked (participantId : UUID) (applied returned : Bool)
deriving DecidableEq, Repr

namespace Action

/-- The effect of an action on the world. -/
def apply (world : World) : Action → World
  | observed event => world.record event
  | drew id => (world.issue id).record ⟨.uuid4, true, true⟩
  | added session _ applied returned =>
      (if applied then world.insert session else world).record
        ⟨.repositoryAdd session, applied, returned⟩
  | saved session update updatedAt applied returned =>
      (if applied then world.overwrite (update.result session updatedAt) else world).record
        ⟨.repositorySave (update.result session updatedAt) session.revision, applied, returned⟩
  | created _ _ request applied returned =>
      (if applied then world.startRuntime request.participantId else world).record
        ⟨.executionCreate request, applied, returned⟩
  | removed participantId applied returned =>
      (if applied then world.discardRuntime participantId else world).record
        ⟨.executionRemove participantId, applied, returned⟩
  | provisioned _ participant applied returned =>
      world.record ⟨.streamProvision participant.participantId 1, applied, returned⟩
  | revoked participantId applied returned =>
      world.record ⟨.streamRevoke participantId, applied, returned⟩

/-- The call an action makes, as the history records it. -/
def event : Action → Event
  | observed event => event
  | drew _ => ⟨.uuid4, true, true⟩
  | added session _ applied returned => ⟨.repositoryAdd session, applied, returned⟩
  | saved session update updatedAt applied returned =>
      ⟨.repositorySave (update.result session updatedAt) session.revision, applied, returned⟩
  | created _ _ request applied returned => ⟨.executionCreate request, applied, returned⟩
  | removed participantId applied returned =>
      ⟨.executionRemove participantId, applied, returned⟩
  | provisioned _ participant applied returned =>
      ⟨.streamProvision participant.participantId 1, applied, returned⟩
  | revoked participantId applied returned => ⟨.streamRevoke participantId, applied, returned⟩

/-- One action, one call. -/
theorem apply_history (world : World) (action : Action) :
    (action.apply world).history = action.event :: world.history := by
  cases action with
  | added _ _ applied _ | saved _ _ _ applied _ | created _ _ _ applied _
  | removed _ applied _ => cases applied <;> rfl
  | observed _ | drew _ | provisioned _ _ _ _ | revoked _ _ _ => rfl

/-- A new lobby: one allocating owner in slot 1, within the quotas. -/
structure Opens (configuration : Configuration) (world : World) (session : Session)
    (owner : Participant) : Prop where
  state : session.state = .creating
  revision : session.revision = 0
  participants : session.participants = [owner]
  ownerState : owner.state = .allocating
  ownerSession : owner.sessionId = session.sessionId
  ownerUser : owner.userId = session.ownerUserId
  ownerSlot : owner.playerSlot = 1
  lease : session.expiresAt =
    session.createdAt + min configuration.lobbyLease configuration.sessionTtl
  valid : session.validate = .ok ()
  unusedSession : world.get session.sessionId = none
  issuedSession : session.sessionId ∈ world.issued
  unusedOwner : world.Unused owner.participantId
  issuedOwner : owner.participantId ∈ world.issued
  sessionQuota : (world.activeSessions.length : Int) < configuration.sessionCapacity
  userQuota : (SessionService.userRuntimes owner.userId world.activeSessions : Int) <
    configuration.perUserRuntimeCapacity

/-- The first runtime start of a participant: of the host of a starting lobby, or
of a client that is pointed at the first slot-1 entry of an open one. -/
structure Starts (configuration : Configuration) (world : World) (session : Session)
    (participant : Participant) (request : RuntimeRequest) : Prop where
  stored : world.get session.sessionId = some session
  member : participant ∈ session.participants
  state : participant.state = .starting
  unstarted : ¬ Started world.history participant.participantId
  requested : request.participantId = participant.participantId
  inSession : request.sessionId = session.sessionId
  capacity : (world.runtimes.length : Int) < configuration.runtimeCapacity
  role : (request.role = .host ∧ session.state = .starting ∧
    request.hostParticipantId = none) ∨
    (request.role = .client ∧ session.state = .open ∧
      ∃ host, SessionService.hostOf session = some host ∧
        request.hostParticipantId = some host.participantId)

/-- When the service takes an action. -/
def Enabled (configuration : Configuration) (world : World) : Action → Prop
  | observed event => event.call.readOnly = true
  | drew id => id ∉ world.issued
  | added session owner _ _ => Opens configuration world session owner
  | saved session update _ _ _ =>
      world.get session.sessionId = some session ∧ update.Enabled configuration world session
  | created session participant request _ _ =>
      Starts configuration world session participant request
  | provisioned session participant _ _ =>
      world.get session.sessionId = some session ∧ participant ∈ session.participants ∧
        (participant.state = .starting ∨ participant.state = .active)
  | removed _ _ _ | revoked _ _ _ => True

end Action

end RetroBrowser.SessionManager
