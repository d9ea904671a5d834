import RetroBrowser.SessionManager.Services.Coherence

/-!
Owns which lobby actions one request may take, given the world it starts in and
how the outside behaves meanwhile. A fact about runs is proved from these
conditions: what a request may change, on whose behalf, and what the outside
must have answered before.
-/

namespace RetroBrowser.SessionManager

open RetroBrowser.Foundation

/-! ## What the outside does during one operation -/

namespace Dependencies

variable (dependencies : Dependencies)

/-- The clock shows this instant at some call. -/
def Shows (now : Time) : Prop := ∃ index, dependencies.clock index = now

/-- The clock shows this instant at some call made before `world`. -/
def Read (world : World) (now : Time) : Prop :=
  ∃ index, index < world.history.length ∧ dependencies.clock index = now

/-- The clock showed this instant two calls before `world`. -/
def JustRead (world : World) (now : Time) : Prop :=
  ∃ index, index + 2 = world.history.length ∧ dependencies.clock index = now

/-- A reading is past at every later moment. -/
theorem Read.later {dependencies : Dependencies} {world world' : World} {now : Time}
    (read : dependencies.Read world now)
    (longer : world.history.length ≤ world'.history.length) : dependencies.Read world' now := by
  obtain ⟨index, made, shown⟩ := read
  exact ⟨index, by omega, shown⟩

/-- The call with this number is made and raises no error. -/
def Answers (index : Nat) (call : Call) : Prop :=
  dependencies.stops index = false ∧ dependencies.fault index call = none

/-- Some inspection does not find the runtime running and healthy. -/
def FindsFailed (participantId : UUID) : Prop :=
  ∃ index, dependencies.fault index (.executionInspect participantId) ≠ none ∨
    ∀ handle, dependencies.runtimeInspected index participantId = .ok handle →
      handle.ready = false

/-- Some inspection finds the runtime running and healthy. -/
def FindsReady (participantId : UUID) : Prop :=
  ∃ index handle, dependencies.fault index (.executionInspect participantId) = none ∧
    dependencies.runtimeInspected index participantId = .ok handle ∧ handle.ready = true

/-- Some creation of the runtime takes effect, whether it raises or not. -/
def Creates (participantId : UUID) : Prop :=
  ∃ index request, request.participantId = participantId ∧
    ∀ error, dependencies.fault index (.executionCreate request) ≠ some ⟨error, false⟩

/-- Some removal of the runtime raises and leaves the runtime in place. -/
def RefusesRemoval (participantId : UUID) : Prop :=
  ∃ index error, dependencies.fault index (.executionRemove participantId) =
    some ⟨error, false⟩

end Dependencies

/-! ## Joins -/

namespace SessionService

variable (service : SessionService) (world : World)

/-- The participant that a join appends, when its first call has number `index`. -/
def joining (index : Nat) (session : Session) (actor : Actor) (playerSlot : Nat) : Participant :=
  { participantId := service.dependencies.uuid4 (index + 7), sessionId := session.sessionId
    userId := actor.userId, displayName := actor.displayName, playerSlot, runtimeId := none
    streamPath := none, state := .allocating, joinedAt := service.dependencies.clock (index + 6)
    lastHeartbeat := service.dependencies.clock (index + 6) }

/-- A join of the stored `session` passes all its guards and saves the new
participant. Its calls are numbered from the length of the history. -/
structure Admits (session : Session) (actor : Actor) (game : GameRecord) (core : CoreProfile)
    (playerSlot : Nat) : Prop where
  stored : world.get session.sessionId = some session
  state : session.state = .open
  read : service.dependencies.Answers world.history.length (.repositoryGet session.sessionId)
  clockRead : service.dependencies.stops (world.history.length + 1) = false
  inTime : service.dependencies.clock (world.history.length + 1) < session.expiresAt
  absent : activeIn session actor.userId = false
  room : session.playerCount < session.maxPlayers
  listed : service.dependencies.Answers (world.history.length + 2) .repositoryList
  userQuota : (userRuntimes actor.userId world.activeSessions : Int) <
    service.configuration.perUserRuntimeCapacity
  runtimesListed : service.dependencies.Answers (world.history.length + 3) .executionList
  runtimeQuota : (world.runtimes.length : Int) < service.configuration.runtimeCapacity
  gameResolved : service.dependencies.Answers (world.history.length + 4)
    (.resolveGame session.rommRomId)
  gameFound : service.dependencies.resolveGame (world.history.length + 4)
    session.rommRomId = .ok game
  coreResolved : service.dependencies.Answers (world.history.length + 5)
    (.resolveCore game.platform)
  coreFound : service.dependencies.resolveCore (world.history.length + 5) game.platform = .ok core
  corePlatform : core.platform = game.platform
  metadata : game.platform = session.platform ∧ game.romSha256 = session.romSha256 ∧
    core.profileId = session.coreProfileId
  slot : freeSlot session = some playerSlot
  reached : ∀ offset ∈ [6, 7, 8, 9],
    service.dependencies.stops (world.history.length + offset) = false
  fresh : service.dependencies.uuid4 (world.history.length + 7) ∉ world.issued
  valid : (service.joining world.history.length session actor playerSlot).valid = true

/-- The runtime request of a startup. -/
def startRequest (session : Session) (participant : Participant) (game : GameRecord)
    (core : CoreProfile) (role : Role) (hostParticipantId : Option UUID) : RuntimeRequest :=
  { sessionId := session.sessionId
    participantId := participant.participantId
    userId := participant.userId
    playerName := netplayPlayerName participant
    romPath := game.canonicalPath
    romSha256 := game.romSha256
    coreProfile := core.profileId
    role
    hostParticipantId }

/-- An admitted join whose two saves work and whose runtime request is valid:
it calls `execution.create` for `participant`, pointed at `host`. -/
structure Launches (session : Session) (actor : Actor) (participant host : Participant) : Prop where
  admitted : ∃ game core playerSlot, service.Admits world session actor game core playerSlot ∧
    participant = service.joining world.history.length session actor playerSlot ∧
    (startRequest session participant game core .client (some host.participantId)).valid = true
  host : hostOf session = some host
  joined : service.dependencies.Answers (world.history.length + 9)
    (.repositorySave ((Update.joined participant).result session
      (service.dependencies.clock (world.history.length + 8))) session.revision)
  clockRead : service.dependencies.stops (world.history.length + 10) = false
  starting : service.dependencies.Answers (world.history.length + 11)
    (.repositorySave
      ((Update.starting participant).result
        ((Update.joined participant).result session
          (service.dependencies.clock (world.history.length + 8)))
        (service.dependencies.clock (world.history.length + 10)))
      (session.revision + 1))
  reached : service.dependencies.stops (world.history.length + 12) = false

end SessionService

/-! ## Permissions -/

namespace Operation

/-- Operations that run the sweep. -/
def sweeps : Operation → Bool
  | .create _ _ | .discover | .sweep => true
  | _ => false

/-- The session an operation addresses, where its lease is checked first. -/
def addressed : Operation → Option UUID
  | .get sessionId | .join sessionId _ | .launch sessionId _ | .heartbeat sessionId _
  | .leave sessionId _ | .kick sessionId _ _ => some sessionId
  | _ => none

/-- The user an operation starts a participant for. -/
def startsFor : Operation → Option String
  | .create actor _ | .join _ actor => some actor.userId
  | _ => none

end Operation

namespace Request

variable (configuration : Configuration) (request : Request)

/-- The service as it runs this request. -/
abbrev service : SessionService := ⟨configuration, request.dependencies⟩

variable (start : World)

/-- Why the request may close a session in `world`, where it began in `start`. -/
inductive Closes (world : World) (session : Session) : String → Prop
  | restarted (operation : request.operation = .reconcileStartup) :
      Closes world session "manager_restarted"
  | byOwner (actor : Actor) (operation : request.operation = .close session.sessionId actor)
      (owner : session.ownerUserId = actor.userId) : Closes world session "owner_closed"
  | expired (now : Time) (read : request.dependencies.Read world now)
      (due : (request.service configuration).due session now = true)
      (cause : request.operation.sweeps = true) : Closes world session "expired"
  | lapsed (addressed : request.operation.addressed = some session.sessionId)
      (stored : start.get session.sessionId = some session)
      (elapsed : session.expiresAt ≤ request.dependencies.clock (start.history.length + 1)) :
      Closes world session "expired"
  | abandoned (now : Time) (read : request.dependencies.Read world now)
      (running : (request.service configuration).due session now = false)
      (abandoned : (request.service configuration).ownerAbandoned session now = true)
      (cause : request.operation.sweeps = true) : Closes world session "owner_abandoned"
  | ownerFailed (owner : Participant) (member : owner ∈ session.participants)
      (active : owner.state = .active) (user : owner.userId = session.ownerUserId)
      (failed : request.dependencies.FindsFailed owner.participantId)
      (cause : request.operation.sweeps = true) : Closes world session "owner_runtime_failed"

/-- Why the request may retire a participant as `LEFT` in `world`. -/
inductive Retires (world : World) (session : Session) (participant : Participant) : Prop
  | left (actor : Actor) (operation : request.operation = .leave session.sessionId actor)
      (user : participant.userId = actor.userId)
  | kicked (actor : Actor)
      (operation : request.operation = .kick session.sessionId actor participant.participantId)
      (owner : session.ownerUserId = actor.userId)
      (guest : participant.userId ≠ session.ownerUserId)
  | idle (now : Time) (read : request.dependencies.Read world now)
      (running : now < session.createdAt + configuration.sessionTtl)
      (stale : participant.lastHeartbeat + configuration.participantIdleTimeout ≤ now)
      (cause : request.operation.sweeps = true)

/-- Why the request may revoke or remove the runtime of a participant in `world`. -/
inductive Tears (world : World) (participantId : UUID) : Prop
  | swept (cause : request.operation.sweeps = true ∨ request.operation = .reconcileStartup)
  | closing (session : Session) (reason : String) (participant : Participant)
      (stored : world.get session.sessionId = some session)
      (member : participant ∈ session.participants)
      (same : participant.participantId = participantId)
      (closes : request.Closes configuration start world session reason)
  | retiring (session : Session) (participant : Participant)
      (stored : world.get session.sessionId = some session)
      (member : participant ∈ session.participants)
      (same : participant.participantId = participantId)
      (retires : request.Retires configuration world session participant)
  | failing (session : Session) (participant : Participant)
      (stored : world.get session.sessionId = some session)
      (member : participant ∈ session.participants)
      (same : participant.participantId = participantId)
      (fresh : participantId ∉ start.issued)
      (cause : request.operation.startsFor = some participant.userId)

/-- What a save in `world` by the request implies, where it began in `start`. -/
inductive Saves (world : World) (session : Session) : Update → Prop
  | joined (participant : Participant) (actor : Actor) (game : GameRecord) (core : CoreProfile)
      (operation : request.operation = .join session.sessionId actor)
      (admitted : (request.service configuration).Admits start session actor game core
        participant.playerSlot)
      (same : participant = (request.service configuration).joining start.history.length session
        actor participant.playerSlot)
      (sessions : world.sessions = start.sessions) : Saves world session (.joined participant)
  | starting (participant : Participant)
      (cause : request.operation.startsFor = some participant.userId)
      (fresh : participant.participantId ∉ start.issued) :
      Saves world session (.starting participant)
  | running (participant : Participant) (runtimeId : UUID)
      (cause : request.operation.startsFor = some participant.userId)
      (fresh : participant.participantId ∉ start.issued) :
      Saves world session (.running participant runtimeId)
  | active (participant : Participant) (activeAt expiresAt : Time)
      (cause : request.operation.startsFor = some participant.userId)
      (fresh : participant.participantId ∉ start.issued)
      (alone : SessionService.activeIn session participant.userId = false)
      (read : request.dependencies.JustRead world activeAt) :
      Saves world session (.active participant activeAt expiresAt)
  | failed (participant : Participant) (role : Role)
      (cause : request.operation.startsFor = some participant.userId)
      (fresh : participant.participantId ∉ start.issued)
      (leftover : participant.participantId ∈ world.runtimes →
        request.dependencies.Creates participant.participantId ∧
          request.dependencies.RefusesRemoval participant.participantId) :
      Saves world session (.failed participant role)
  | renewed (participant : Participant) (now expiresAt : Time) (actor : Actor)
      (operation : request.operation = .heartbeat session.sessionId actor)
      (user : participant.userId = actor.userId)
      (read : request.dependencies.JustRead world now) :
      Saves world session (.renewed participant now expiresAt)
  | left (participant : Participant) (now : Time)
      (retires : request.Retires configuration world session participant)
      (read : request.dependencies.Read world now) : Saves world session (.left participant now)
  | faulted (participant : Participant) (now : Time)
      (cause : request.operation.sweeps = true)
      (failed : request.dependencies.FindsFailed participant.participantId)
      (read : request.dependencies.Read world now) : Saves world session (.faulted participant now)
  | closed (reason : String) (closes : request.Closes configuration start world session reason) :
      Saves world session (.closed reason)

/-- What a start of a runtime by the request implies. -/
inductive Launching (session : Session) (participant : Participant) :
    RuntimeRequest → Prop
  | host (actor : Actor) (creation : CreateSessionRequest) (runtimeRequest : RuntimeRequest)
      (operation : request.operation = .create actor creation)
      (role : runtimeRequest.role = .host) (fresh : participant.participantId ∉ start.issued) :
      Launching session participant runtimeRequest
  | client (actor : Actor) (before : Session) (joined host : Participant)
      (runtimeRequest : RuntimeRequest)
      (operation : request.operation = .join session.sessionId actor)
      (role : runtimeRequest.role = .client)
      (hostId : runtimeRequest.hostParticipantId = some host.participantId)
      (same : participant = { joined with state := .starting })
      (sameSession : before.sessionId = session.sessionId)
      (entries : session.participants = before.participants ++ [participant])
      (launches : (request.service configuration).Launches start before actor joined host) :
      Launching session participant runtimeRequest

/-- The actions the request may take, where it began in `start`. -/
def Permits (world : World) : Action → Prop
  | .observed _ | .drew _ => True
  | .removed participantId _ _ | .revoked participantId _ _ =>
      request.Tears configuration start world participantId
  | .added session owner _ _ =>
      (∃ actor creation, request.operation = .create actor creation ∧
        session.ownerUserId = actor.userId) ∧
      owner.participantId ∉ start.issued ∧ session.sessionId ∉ start.issued ∧
      request.dependencies.Read world session.createdAt
  | .saved session update updatedAt _ _ =>
      request.dependencies.Read world updatedAt ∧
        request.Saves configuration start world session update
  | .created session participant runtimeRequest _ _ =>
      request.Launching configuration start session participant runtimeRequest
  | .provisioned session participant _ _ =>
      (request.operation.startsFor = some participant.userId ∧
          participant.participantId ∉ start.issued) ∨
        ∃ actor, request.operation = .launch session.sessionId actor ∧
          participant.userId = actor.userId ∧ participant.state = .active

section Later

variable {configuration : Configuration} {request : Request} {start world world' : World}
variable {session : Session}

theorem Closes.later {reason : String}
    (closes : request.Closes configuration start world session reason)
    (longer : world.history.length ≤ world'.history.length) :
    request.Closes configuration start world' session reason := by
  cases closes with
  | restarted operation => exact .restarted operation
  | byOwner actor operation owner => exact .byOwner actor operation owner
  | expired now read due cause => exact .expired now (read.later longer) due cause
  | lapsed addressed stored elapsed => exact .lapsed addressed stored elapsed
  | abandoned now read running abandoned cause =>
      exact .abandoned now (read.later longer) running abandoned cause
  | ownerFailed owner member active user failed cause =>
      exact .ownerFailed owner member active user failed cause

theorem Retires.later {participant : Participant}
    (retires : request.Retires configuration world session participant)
    (longer : world.history.length ≤ world'.history.length) :
    request.Retires configuration world' session participant := by
  cases retires with
  | left actor operation user => exact .left actor operation user
  | kicked actor operation owner guest => exact .kicked actor operation owner guest
  | idle now read running stale cause => exact .idle now (read.later longer) running stale cause

end Later

end Request

end RetroBrowser.SessionManager
