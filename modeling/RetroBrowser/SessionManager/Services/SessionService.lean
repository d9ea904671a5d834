import RetroBrowser.SessionManager.World

/-!
Owns the lobby service as the source writes it: one definition per method of
`SessionService`, in its order of calls. Every public operation runs as a whole
under the service lock, so an operation is one program.
-/

namespace RetroBrowser.SessionManager

open RetroBrowser.Foundation

namespace SessionService

variable (self : SessionService)

/-! ## Resolution and admission -/

/-- `except KeyError as error: raise translated from error`. -/
def keyErrorAs {α : Type} (program : ServiceProgram α) (translated : Error) :
    ServiceProgram α :=
  tryCatch program fun error => throw (if error = .key then translated else error)

def resolve (rommRomId : Int) : ServiceProgram (GameRecord × CoreProfile) := do
  let game ← keyErrorAs (self.resolveGame rommRomId) (.notFound "game not found")
  let core ← keyErrorAs (self.resolveCore game.platform)
    (.conflict "no approved core profile for game platform")
  if core.platform ≠ game.platform then
    throw (.conflict "core profile platform does not match game")
  else
    pure (game, core)

def requireRuntimeCapacity : ServiceProgram Unit := do
  let runtimes ← self.executionList
  if self.configuration.runtimeCapacity ≤ runtimes.length then
    throw (.capacity "runtime capacity is exhausted")
  else
    pure ()

def activeSessions : ServiceProgram (List Session) := do
  let sessions ← self.repositoryList
  pure (sessions.filter fun session => session.state ≠ .closed ∧ session.state ≠ .error)

def requireSessionCapacity : ServiceProgram Unit := do
  let active ← self.activeSessions
  if self.configuration.sessionCapacity ≤ active.length then
    throw (.capacity "session capacity is exhausted")
  else
    pure ()

/-- Live participants of one user, summed over the given sessions. -/
def userRuntimes (userId : String) (sessions : List Session) : Nat :=
  (sessions.map fun session =>
    session.participants.countP fun participant =>
      participant.userId = userId ∧ participant.live).sum

def requireUserRuntimeCapacity (userId : String) : ServiceProgram Unit := do
  let active ← self.activeSessions
  if self.configuration.perUserRuntimeCapacity ≤ userRuntimes userId active then
    throw (.capacity "per-user runtime capacity is exhausted")
  else
    pure ()

/-! ## Stored records -/

def required (sessionId : UUID) : ServiceProgram Session := do
  match ← self.repositoryGet sessionId with
  | none => throw (.notFound "session not found")
  | some session => pure session

def leaseExpiry (session : Session) (now : Time) : Time :=
  min (now + self.configuration.lobbyLease) (session.createdAt + self.configuration.sessionTtl)

/-- The record that replaces `session`: the participant appended, or put in the
place of the entry with its identifier. -/
def replacement (session : Session) (participant : Participant) (state : SessionState)
    (append : Bool) (expiresAt : Option Time) (updatedAt : Time) : Session :=
  { session with
    state
    participants :=
      if append then session.participants ++ [participant]
      else session.participants.map fun item =>
        if item.participantId = participant.participantId then participant else item
    updatedAt
    expiresAt := expiresAt.getD session.expiresAt
    revision := session.revision + 1 }

def replaceParticipant (session : Session) (participant : Participant) (state : SessionState)
    (append : Bool) (expiresAt : Option Time) : ServiceProgram Session := do
  let now ← self.clock
  let updated := replacement session participant state append expiresAt now
  self.repositorySave updated session.revision
  pure updated

def leftParticipant (now : Time) (participant : Participant) : Except Error Participant :=
  if participant.state.terminal then .ok participant
  else do
    requireParticipantTransition participant.state .leaving
    requireParticipantTransition .leaving .left
    pure { participant with state := .left, lastHeartbeat := now }

/-! ## Runtimes -/

def bestEffortRevoke (participantId : UUID) : ServiceProgram Unit :=
  tryCatch (self.streamRevoke participantId) fun _ => pure ()

/-- Revocation comes first, so that connected browsers are rejected before teardown. -/
def retireRuntime (participantId : UUID) : ServiceProgram Unit := do
  self.bestEffortRevoke participantId
  self.executionRemove participantId

def cleanupFailedRuntime (participantId : UUID) : ServiceProgram Unit := do
  self.bestEffortRevoke participantId
  tryCatch (self.executionRemove participantId) fun _ => pure ()

/-- `timeout.total_seconds()`. -/
def totalSeconds (duration : Duration) : Rat := (duration : Rat) / 1000000

/-- The loop of `_wait_ready`; `rounds` bounds how long the run is observed. -/
def waitReadyLoop (runtimeId : UUID) (deadline : Rat) :
    Nat → RuntimeHandle → ServiceProgram Unit
  | 0, _ => fun world => (.stopped, world)
  | rounds + 1, current =>
    if current.ready then pure ()
    else if current.state ∉ ["created", "running", "restarting"] then
      throw (.orchestration "participant runtime stopped during startup")
    else if current.healthStatus = .unhealthy then
      throw (.orchestration "participant runtime became unhealthy")
    else do
      let now ← self.monotonic
      if deadline - now ≤ 0 then
        throw (.orchestration "participant runtime readiness timed out")
      else do
        self.sleep (min (totalSeconds self.configuration.pollInterval) (deadline - now))
        let next ← self.executionInspect runtimeId
        waitReadyLoop runtimeId deadline rounds next

def waitReady (handle : RuntimeHandle) (timeout : Duration) : ServiceProgram Unit := do
  let start ← self.monotonic
  self.waitReadyLoop handle.runtimeId (start + totalSeconds timeout)
    self.dependencies.pollRounds handle

/-! ## Closing and retiring -/

def closeSession (session : Session) (reason : String) : ServiceProgram Session :=
  if session.state = .closed then pure session
  else do
    Program.ofExcept (requireSessionTransition session.state .closed)
    let now ← self.clock
    session.participants.forM fun participant =>
      if participant.live then self.retireRuntime participant.participantId else pure ()
    let participants ← Program.ofExcept (session.participants.mapM (leftParticipant now))
    let updated := { session with
      state := .closed, participants, updatedAt := now, closedReason := some reason
      revision := session.revision + 1 }
    self.repositorySave updated session.revision
    pure updated

/-- The clock is read only for a session that is not closed. -/
def expire (session : Session) : ServiceProgram Session :=
  if session.state = .closed then pure session
  else do
    let now ← self.clock
    if session.expiresAt ≤ now then self.closeSession session "expired" else pure session

def retireParticipant (session : Session) (participant : Participant) (failed : Bool) :
    ServiceProgram Session := do
  self.retireRuntime participant.participantId
  let now ← self.clock
  let retired ←
    if failed then pure { participant with state := .error, lastHeartbeat := now }
    else Program.ofExcept (leftParticipant now participant)
  self.replaceParticipant session retired session.state false none

/-! ## Startup -/

/-- Short display names are kept; longer ones would overflow RetroArch's wire field. -/
def netplayPlayerName (participant : Participant) : String :=
  if participant.displayName.utf8ByteSize ≤ 31 then participant.displayName
  else s!"Player {participant.playerSlot}"

/-- The handler of a failed startup; it always raises. -/
def failStartup {α : Type} (current : Session) (participantId : UUID) (role : Role)
    (error : Error) : ServiceProgram α := do
  self.cleanupFailedRuntime participantId
  let stored ← self.repositoryGet current.sessionId
  let failed := stored.getD current
  match failed.participants.find? fun item => item.participantId = participantId with
  | none => throw .stopIteration
  | some item =>
    let failedState := if role = .host then .error else failed.state
    let _ ← self.replaceParticipant failed { item with state := .error } failedState false none
    if error.isOrchestration then throw error
    else throw (.orchestration "participant runtime startup failed")

/-- The two calls of the guarded block that fix the record its handler falls back to. -/
def createRuntime (current : Session) (startingParticipant : Participant)
    (request : RuntimeRequest) : ServiceProgram (RuntimeHandle × Participant × Session) := do
  let handle ← self.executionCreate request
  let withRuntime := { startingParticipant with runtimeId := some handle.runtimeId }
  let current ← self.replaceParticipant current withRuntime current.state false none
  pure (handle, withRuntime, current)

def streamPath (participantId : UUID) : String := "/stream/" ++ UUID.hex participantId

/-- `host` is the Netplay host of a client, `none` for the host itself. -/
def startParticipant (session : Session) (participant : Participant) (game : GameRecord)
    (core : CoreProfile) (role : Role) (hostParticipantId : Option UUID) :
    ServiceProgram Session := do
  let startingParticipant := { participant with state := .starting }
  let targetSessionState := if session.state = .creating then .starting else session.state
  Program.ofExcept (requireParticipantTransition participant.state .starting)
  Program.ofExcept (if session.state = .creating then
    requireSessionTransition session.state targetSessionState else .ok ())
  let current ← self.replaceParticipant session startingParticipant targetSessionState false none
  let request : RuntimeRequest :=
    { sessionId := current.sessionId
      participantId := participant.participantId
      userId := participant.userId
      playerName := netplayPlayerName participant
      romPath := game.canonicalPath
      romSha256 := game.romSha256
      coreProfile := core.profileId
      role
      hostParticipantId }
  if request.valid then do
    let (handle, withRuntime, current) ←
      tryCatch (self.createRuntime current startingParticipant request)
        (self.failStartup current participant.participantId role)
    let timeout := if role = .host then self.configuration.startupTimeout
      else self.configuration.netplayConnectTimeout
    tryCatch
      (do
        self.waitReady handle timeout
        let _ ← self.streamProvision participant.participantId 1)
      (self.failStartup current participant.participantId role)
    Program.ofExcept (requireParticipantTransition .starting .active)
    let activeAt ← self.clock
    let active := { withRuntime with
      state := .active, lastHeartbeat := activeAt
      streamPath := some (streamPath participant.participantId) }
    let finalState := if current.state = .starting then .open else current.state
    Program.ofExcept (if current.state = .starting then
      requireSessionTransition current.state finalState else .ok ())
    self.replaceParticipant current active finalState false
      (some (self.leaseExpiry current activeAt))
  else throw (.value "runtime request validation failed")

/-! ## The sweep -/

/-- Missing or unreachable runtime state fails closed; other errors propagate. -/
def inspectOrNone (participantId : UUID) : ServiceProgram (Option RuntimeHandle) :=
  tryCatch (some <$> self.executionInspect participantId) fun error =>
    if error.isOrchestration then pure none else throw error

/-- The loop over the participants that were active when the session was read. -/
def sweepParticipants (stale : List Participant) :
    List Participant → Session → Nat → ServiceProgram Nat
  | [], _, cleaned => pure cleaned
  | participant :: rest, current, cleaned =>
    if participant ∈ stale then do
      let current ← self.retireParticipant current participant false
      sweepParticipants stale rest current (cleaned + 1)
    else do
      let runtime ← self.inspectOrNone participant.participantId
      if runtime.any RuntimeHandle.ready then
        sweepParticipants stale rest current cleaned
      else if participant.userId = current.ownerUserId then do
        let _ ← self.closeSession current "owner_runtime_failed"
        pure (cleaned + 1)
      else do
        let current ← self.retireParticipant current participant true
        sweepParticipants stale rest current (cleaned + 1)

def activeParticipants (session : Session) : List Participant :=
  session.participants.filter fun item => item.state = .active

/-- Idle participants at the instant `now`. -/
def staleParticipants (session : Session) (now : Time) : List Participant :=
  (activeParticipants session).filter fun item =>
    item.lastHeartbeat + self.configuration.participantIdleTimeout ≤ now

/-- The owner is missing among the active participants or stale. -/
def ownerAbandoned (session : Session) (now : Time) : Bool :=
  match (activeParticipants session).find? fun item => item.userId = session.ownerUserId with
  | none => true
  | some owner => owner ∈ self.staleParticipants session now

/-- The lease or the lifetime is over at the instant `now`. -/
def due (session : Session) (now : Time) : Bool :=
  session.expiresAt ≤ now || session.createdAt + self.configuration.sessionTtl ≤ now

/-- One round of the loop over the sessions. -/
def sweepSession (session : Session) : ServiceProgram Nat :=
  if session.state = .closed then pure 0
  else do
    let now ← self.clock
    if self.due session now then do
      let _ ← self.closeSession session "expired"
      pure 1
    else if self.ownerAbandoned session now then do
      let _ ← self.closeSession session "owner_abandoned"
      pure 1
    else
      self.sweepParticipants (self.staleParticipants session now) (activeParticipants session)
        session 0

def sweepSessions : List Session → ServiceProgram Nat
  | [] => pure 0
  | session :: rest => do
    let cleaned ← self.sweepSession session
    let others ← sweepSessions rest
    pure (cleaned + others)

def sweep : ServiceProgram Nat := do
  let sessions ← self.repositoryList
  self.sweepSessions sessions

def expireDue : ServiceProgram Nat := self.sweep

/-! ## Public operations -/

def create (actor : Actor) (request : CreateSessionRequest) : ServiceProgram Session := do
  let _ ← self.expireDue
  self.requireSessionCapacity
  self.requireUserRuntimeCapacity actor.userId
  self.requireRuntimeCapacity
  let (game, core) ← self.resolve request.rommRomId
  if core.maxPlayers < request.maxPlayers then
    throw (.conflict "requested capacity exceeds core profile capacity")
  else do
    let now ← self.clock
    let sessionId ← self.uuid4
    let participantId ← self.uuid4
    let owner : Participant :=
      { participantId, sessionId, userId := actor.userId, displayName := actor.displayName
        playerSlot := 1, runtimeId := none, streamPath := none, state := .allocating
        joinedAt := now, lastHeartbeat := now }
    let session : Session :=
      { sessionId, displayName := request.displayName, ownerUserId := actor.userId
        rommRomId := game.rommRomId, platform := game.platform, romSha256 := game.romSha256
        coreProfileId := core.profileId, maxPlayers := request.maxPlayers, state := .creating
        participants := [owner], createdAt := now, updatedAt := now
        expiresAt := now + min self.configuration.lobbyLease self.configuration.sessionTtl
        closedReason := none, revision := 0 }
    Program.ofExcept session.validate
    self.repositoryAdd session
    self.startParticipant session owner game core .host none

/-- The second listing runs after the sweep released the lock; nothing is written. -/
def discover : ServiceProgram (List Session) := do
  let _ ← self.expireDue
  let sessions ← self.repositoryList
  pure (sessions.filter fun session => session.state = .open)

def get (sessionId : UUID) : ServiceProgram Session := do
  let session ← self.required sessionId
  self.expire session

/-- Slots held by live participants. -/
def occupied (session : Session) : List Nat :=
  session.liveParticipants.map Participant.playerSlot

/-- `next(slot for slot in range(1, max_players + 1) if slot not in occupied)`. -/
def freeSlot (session : Session) : Option Nat :=
  (List.range' 1 session.maxPlayers).find? fun slot => slot ∉ occupied session

/-- `next(item for item in session.participants if item.player_slot == 1)`. -/
def hostOf (session : Session) : Option Participant :=
  session.participants.find? fun item => item.playerSlot = 1

def nextOrStop {α : Type} : Option α → ServiceProgram α
  | none => throw .stopIteration
  | some value => pure value

/-- Whether the actor is an active participant already. -/
def activeIn (session : Session) (userId : String) : Bool :=
  session.participants.any fun item => item.userId = userId ∧ item.state = .active

def join (sessionId : UUID) (actor : Actor) : ServiceProgram Session := do
  let session ← self.required sessionId
  let session ← self.expire session
  if activeIn session actor.userId then pure session
  else if session.state ≠ .open then throw (.conflict "session is not open")
  else if session.maxPlayers ≤ session.playerCount then
    throw (.capacity "session is at capacity")
  else do
    self.requireUserRuntimeCapacity actor.userId
    self.requireRuntimeCapacity
    let (game, core) ← self.resolve session.rommRomId
    if game.platform ≠ session.platform ∨ game.romSha256 ≠ session.romSha256 ∨
        core.profileId ≠ session.coreProfileId then
      throw (.conflict "trusted game or core metadata changed during the session")
    else do
      let playerSlot ← nextOrStop (freeSlot session)
      let now ← self.clock
      let participantId ← self.uuid4
      let participant : Participant :=
        { participantId, sessionId := session.sessionId, userId := actor.userId
          displayName := actor.displayName, playerSlot, runtimeId := none, streamPath := none
          state := .allocating, joinedAt := now, lastHeartbeat := now }
      if participant.valid then do
        let updated ← self.replaceParticipant session participant session.state true none
        let host ← nextOrStop (hostOf session)
        self.startParticipant updated participant game core .client (some host.participantId)
      else throw (.value "participant validation failed")

/-- The actor's active participant. -/
def activeOf (session : Session) (userId : String) : Option Participant :=
  session.participants.find? fun item => item.userId = userId ∧ item.state = .active

def launch (sessionId : UUID) (actor : Actor) : ServiceProgram StreamLaunch := do
  let session ← self.required sessionId
  let session ← self.expire session
  match activeOf session actor.userId with
  | none => throw (.authorization "actor is not an active participant")
  | some participant =>
    match participant.streamPath with
    | none => throw (.authorization "actor is not an active participant")
    | some path => do
      let token ← self.streamProvision participant.participantId 1
      let launch : StreamLaunch :=
        { streamPath := path ++ "/", accessToken := token, expiresAt := session.expiresAt }
      if launch.valid then pure launch
      else throw (.value "stream launch validation failed")

def heartbeat (sessionId : UUID) (actor : Actor) : ServiceProgram Session := do
  let session ← self.required sessionId
  let session ← self.expire session
  match activeOf session actor.userId with
  | none => throw (.authorization "actor is not an active participant")
  | some participant => do
    let now ← self.clock
    self.replaceParticipant session { participant with lastHeartbeat := now } session.state false
      (some (self.leaseExpiry session now))

/-- The actor's first live participant. -/
def liveOf (session : Session) (userId : String) : Option Participant :=
  session.participants.find? fun item => item.userId = userId ∧ item.live

def leave (sessionId : UUID) (actor : Actor) : ServiceProgram Session := do
  let session ← self.required sessionId
  let session ← self.expire session
  match liveOf session actor.userId with
  | none =>
    if session.participants.any fun item => item.userId = actor.userId then pure session
    else throw (.notFound "participant not found")
  | some matching =>
    if session.state = .closed then pure session
    else do
      self.retireRuntime matching.participantId
      let now ← self.clock
      let left ← Program.ofExcept (leftParticipant now matching)
      self.replaceParticipant session left session.state false none

def kick (sessionId : UUID) (actor : Actor) (participantId : UUID) : ServiceProgram Session := do
  let session ← self.required sessionId
  let session ← self.expire session
  if session.ownerUserId ≠ actor.userId then
    throw (.authorization "only the session owner may kick a participant")
  else
    match session.participants.find? fun item => item.participantId = participantId with
    | none => throw (.notFound "participant not found")
    | some participant =>
      if participant.userId = session.ownerUserId then
        throw (.conflict "session owner cannot be kicked; close the session instead")
      else if participant.state.terminal then pure session
      else do
        self.retireRuntime participant.participantId
        let now ← self.clock
        let left ← Program.ofExcept (leftParticipant now participant)
        self.replaceParticipant session left session.state false none

def close (sessionId : UUID) (actor : Actor) : ServiceProgram Session := do
  let session ← self.required sessionId
  if session.ownerUserId ≠ actor.userId then
    throw (.authorization "only the session owner may close it")
  else self.closeSession session "owner_closed"

def reconcileSessions : List Session → ServiceProgram Nat
  | [] => pure 0
  | session :: rest =>
    if session.state = .closed then reconcileSessions rest
    else do
      let _ ← self.closeSession session "manager_restarted"
      let others ← reconcileSessions rest
      pure (others + 1)

def reconcileRuntimes : List RuntimeHandle → ServiceProgram Nat
  | [] => pure 0
  | runtime :: rest => do
    self.bestEffortRevoke runtime.runtimeId
    self.executionRemove runtime.runtimeId
    let others ← reconcileRuntimes rest
    pure (others + 1)

/-- Fail closed after a manager restart. -/
def reconcileStartup : ServiceProgram Nat := do
  let sessions ← self.repositoryList
  let closed ← self.reconcileSessions sessions
  let runtimes ← self.executionList
  let removed ← self.reconcileRuntimes runtimes
  pure (closed + removed)

end SessionService

/-! ## Runs -/

/-- The operations of the service, with their arguments. -/
inductive Operation where
  | create (actor : Actor) (request : CreateSessionRequest)
  | discover
  | get (sessionId : UUID)
  | join (sessionId : UUID) (actor : Actor)
  | launch (sessionId : UUID) (actor : Actor)
  | heartbeat (sessionId : UUID) (actor : Actor)
  | leave (sessionId : UUID) (actor : Actor)
  | kick (sessionId : UUID) (actor : Actor) (participantId : UUID)
  | close (sessionId : UUID) (actor : Actor)
  | sweep
  | reconcileStartup
deriving DecidableEq, Repr

inductive Reply where
  | session (session : Session)
  | sessions (sessions : List Session)
  | launch (launch : StreamLaunch)
  | count (cleaned : Nat)
deriving DecidableEq, Repr

/-- One operation as a program. -/
def Operation.program (self : SessionService) : Operation → ServiceProgram Reply
  | .create actor request => .session <$> self.create actor request
  | .discover => .sessions <$> self.discover
  | .get sessionId => .session <$> self.get sessionId
  | .join sessionId actor => .session <$> self.join sessionId actor
  | .launch sessionId actor => .launch <$> self.launch sessionId actor
  | .heartbeat sessionId actor => .session <$> self.heartbeat sessionId actor
  | .leave sessionId actor => .session <$> self.leave sessionId actor
  | .kick sessionId actor participantId => .session <$> self.kick sessionId actor participantId
  | .close sessionId actor => .session <$> self.close sessionId actor
  | .sweep => .count <$> self.sweep
  | .reconcileStartup => .count <$> self.reconcileStartup

/-- One operation of a run: what is asked for and how the outside behaves meanwhile. -/
structure Request where
  operation : Operation
  dependencies : Dependencies

namespace Request

variable (configuration : Configuration) (request : Request)

/-- The outcome of a request and the world it leaves. -/
def run (world : World) : Outcome Error Reply × World :=
  request.operation.program ⟨configuration, request.dependencies⟩ world

/-- The world a request leaves, whichever way it ends. -/
def after (world : World) : World := (request.run configuration world).2

end Request

/-- The worlds that runs from the empty world pass through, where `admissible`
restricts the requests of the run. -/
inductive ReachableBy (configuration : Configuration) (admissible : World → Request → Prop) :
    World → Prop
  | empty : ReachableBy configuration admissible World.empty
  | request {world : World} (reached : ReachableBy configuration admissible world)
      (request : Request) (allowed : admissible world request) :
      ReachableBy configuration admissible (request.after configuration world)

/-- Any run at all: every request, every pattern of failing calls, and a
process that may stop before any call. -/
abbrev Reachable (configuration : Configuration) : World → Prop :=
  ReachableBy configuration fun _ _ => True

end RetroBrowser.SessionManager
