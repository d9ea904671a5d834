import Mathlib
import RetroBrowser.SessionManager.Properties.Versions

/-!
Owns the lease of a session. Contract: in a run whose clock never goes back no
stored version outlives the maximum lifetime and no version shortens the lease
of the one before it; once the lifetime is over, an operation that addresses
the session answers with a closed record or an error and starts no runtime.

Calls are numbered through the whole run, so one function of the call number
gives every reading of its clock.
-/

namespace RetroBrowser.SessionManager

open RetroBrowser.Foundation ActionSystem

/-! ## Granted leases -/

/-- Every stored lease was granted at an earlier reading of the clock. -/
structure World.Leased (configuration : Configuration) (clock : Nat → Time) (world : World) :
    Prop where
  granted : ∀ session ∈ world.sessions, ∃ index, index + 1 < world.history.length ∧
    session.expiresAt = min (clock index + configuration.lobbyLease)
      (session.createdAt + configuration.sessionTtl)
  bounded : ∀ session ∈ storedRecords world.history,
    session.expiresAt ≤ session.createdAt + configuration.sessionTtl
  growing : ∀ sessionId, (versions world.history sessionId).IsChain fun after before =>
    before.expiresAt ≤ after.expiresAt

namespace World

variable {configuration : Configuration} {clock : Nat → Time} {world after : World}
variable {event : Event} {session : Session}

theorem Leased.empty : World.empty.Leased configuration clock where
  granted := by simp [World.empty]
  bounded := by simp [World.empty, storedRecords]
  growing _ := .nil

/-- An event that stores nothing. -/
theorem Leased.unstored (leased : world.Leased configuration clock)
    (storesNothing : event.stored = none) (history : after.history = event :: world.history)
    (sessions : after.sessions = world.sessions) : after.Leased configuration clock where
  granted := by
    intro session member
    rw [sessions] at member
    obtain ⟨index, earlier, granted⟩ := leased.granted session member
    refine ⟨index, ?_, granted⟩
    rw [history, List.length_cons]
    omega
  bounded := by
    rw [history, storedRecords_none storesNothing]
    exact leased.bounded
  growing := by
    rw [history]
    refine versions_chain leased.growing fun session stores => ?_
    rw [storesNothing] at stores
    cases stores

/-- An event that stores a record. -/
theorem Leased.stored (leased : world.Leased configuration clock) (versioned : world.Versioned)
    (stores : event.stored = some session) (history : after.history = event :: world.history)
    (sessions : ∀ other ∈ after.sessions, other ∈ world.sessions ∨ other = session)
    (granted : ∃ index, index < world.history.length ∧
      session.expiresAt = min (clock index + configuration.lobbyLease)
        (session.createdAt + configuration.sessionTtl))
    (later : ∀ before, world.get session.sessionId = some before →
      before.expiresAt ≤ session.expiresAt) : after.Leased configuration clock where
  granted := by
    intro other member
    rw [history, List.length_cons]
    rcases sessions other member with earlier | rfl
    · obtain ⟨index, before, lease⟩ := leased.granted other earlier
      exact ⟨index, by omega, lease⟩
    · obtain ⟨index, before, lease⟩ := granted
      exact ⟨index, by omega, lease⟩
  bounded := by
    rw [history, storedRecords_some stores]
    intro other member
    rcases List.mem_cons.mp member with rfl | earlier
    · obtain ⟨index, -, lease⟩ := granted
      rw [lease]
      exact min_le_right _ _
    · exact leased.bounded other earlier
  growing := by
    rw [history]
    refine versions_chain leased.growing fun other stores' before latest => ?_
    rw [stores] at stores'
    cases stores'
    rw [versioned.latest] at latest
    exact later before latest

/-- A change carries the lease over or grants one that starts now. -/
theorem Leased.nextExpiry (leased : world.Leased configuration clock) (monotone : Monotone clock)
    {request : Request} (ticking : request.dependencies.clock = clock) {start : World}
    {update : Update} (member : session ∈ world.sessions)
    (saves : request.Saves configuration start world session update)
    (enabled : update.Enabled configuration world session) :
    (∃ index, index < world.history.length ∧
      update.nextExpiry session = min (clock index + configuration.lobbyLease)
        (session.createdAt + configuration.sessionTtl)) ∧
    session.expiresAt ≤ update.nextExpiry session := by
  obtain ⟨index, earlier, granted⟩ := leased.granted session member
  -- A new lease starts at a reading that is not before the old one.
  have renewal : ∀ now expiresAt, request.dependencies.JustRead world now →
      expiresAt = min (now + configuration.lobbyLease)
        (session.createdAt + configuration.sessionTtl) →
      (∃ index, index < world.history.length ∧
        expiresAt = min (clock index + configuration.lobbyLease)
          (session.createdAt + configuration.sessionTtl)) ∧ session.expiresAt ≤ expiresAt := by
    rintro now expiresAt ⟨recent, made, rfl⟩ lease
    rw [ticking] at lease
    have ordered : clock index ≤ clock recent := monotone (by omega)
    refine ⟨⟨recent, by omega, lease⟩, ?_⟩
    rw [granted, lease]
    exact min_le_min (Int.add_le_add_right ordered _) le_rfl
  cases saves with
  | active participant activeAt expiresAt cause fresh alone read =>
      exact renewal activeAt expiresAt read enabled.2.2.2.2
  | renewed participant now expiresAt actor operation user read =>
      exact renewal now expiresAt read enabled.2.2
  | joined _ _ _ _ _ _ _ _ | starting _ _ _ | running _ _ _ _ | failed _ _ _ _ _ | left _ _ _ _
  | faulted _ _ _ _ _ | closed _ _ => exact ⟨⟨index, by omega, granted⟩, le_rfl⟩

theorem Leased.apply (leased : world.Leased configuration clock) (versioned : world.Versioned)
    (monotone : Monotone clock) {request : Request}
    (ticking : request.dependencies.clock = clock) {start : World} {action : Action}
    (permitted : request.Permits configuration start world action)
    (enabled : action.Enabled configuration world) :
    (action.apply world).Leased configuration clock := by
  cases action with
  | observed event =>
      refine leased.unstored ?_ rfl rfl
      rw [Event.stored, Call.record_of_readOnly enabled, ite_self]
  | added session owner applied returned =>
      obtain ⟨-, -, -, index, read, shown⟩ := permitted
      cases applied with
      | false => exact leased.unstored rfl rfl rfl
      | true =>
          refine leased.stored versioned rfl rfl ?_ ⟨index, read, ?_⟩ ?_
          · intro other member
            simpa [Action.apply] using member
          · rw [enabled.lease, ← ticking, shown, min_add_add_left]
          · intro before found
            rw [enabled.unusedSession] at found
            cases found
  | saved session update updatedAt applied returned =>
      obtain ⟨found, changes⟩ := enabled
      cases applied with
      | false => exact leased.unstored rfl rfl rfl
      | true =>
          obtain ⟨granted, later⟩ := leased.nextExpiry monotone ticking
            (InMemorySessionRepository.get_mem found).1 permitted.2 changes
          refine leased.stored versioned rfl rfl ?_ ?_ ?_
          · intro other member
            exact (InMemorySessionRepository.mem_overwrite member).symm.imp And.left id
          · rw [Update.result_expiresAt, Update.result_createdAt]
            exact granted
          · intro before latest
            rw [Update.result_sessionId, found] at latest
            cases latest
            rw [Update.result_expiresAt]
            exact later
  | drew _ => exact leased.unstored rfl rfl rfl
  | created _ _ _ applied _ | removed _ applied _ | provisioned _ _ applied _
  | revoked _ applied _ => cases applied <;> exact leased.unstored rfl rfl rfl

end World

/-! ## After the lifetime -/

namespace Request

variable {configuration : Configuration} {request : Request} {start : World} {session : Session}

/-- The reply is a closed session. -/
def RepliesClosed (reply : Reply) : Prop :=
  ∃ session, reply = .session session ∧ session.state = .closed

/-- What an operation that comes after the lifetime still does: it may answer
with a closed record, but never with launch material, and starts no runtime. -/
structure Refused (configuration : Configuration) (request : Request) (start : World) : Prop where
  reply : ∀ reply, (request.run configuration start).1 = .returned reply → RepliesClosed reply
  starts : ∃ newer, (request.after configuration start).history = newer ++ start.history ∧
    ∀ event ∈ newer, ∀ runtimeRequest, event.call ≠ .executionCreate runtimeRequest

/-- Where the lease is over only an ended record is left to work on. -/
theorem follows_lapsed {α : Type} {next : Session → ServiceProgram α}
    {onValue : α → World → Prop}
    (addressed : request.operation.addressed = some session.sessionId)
    (stored : start.get session.sessionId = some session)
    (elapsed : session.expiresAt ≤ request.dependencies.clock (start.history.length + 1))
    (ended : ∀ closed later, closed.state = .closed →
      (∀ item ∈ closed.participants, item.state.terminal = true) →
      request.Follows configuration start later (next closed) onValue fun _ _ => True) :
    request.Follows configuration start start
      (do
        let session ← (request.service configuration).required session.sessionId
        let session ← (request.service configuration).expire session
        next session) onValue fun _ _ => True := by
  refine follows_addressed addressed (fun _ _ => trivial) ?_
    fun closed later isClosed final _ => ended closed later isClosed final
  intro other same found _ _ _ inTime
  rw [same, stored] at found
  cases found
  exact absurd elapsed (not_le.mpr inTime)

/-- Every operation that addresses a session whose lease is over. -/
theorem follows_program_lapsed
    (addressed : request.operation.addressed = some session.sessionId)
    (stored : start.get session.sessionId = some session)
    (elapsed : session.expiresAt ≤ request.dependencies.clock (start.history.length + 1)) :
    request.Follows configuration start start
      (request.operation.program (request.service configuration))
      (fun reply _ => RepliesClosed reply) fun _ _ => True := by
  have target := addressed
  have replies : ∀ closed : Session, closed.state = .closed → RepliesClosed (.session closed) :=
    fun closed isClosed => ⟨closed, rfl, isClosed⟩
  cases operation : request.operation with
  | create _ _ | discover | close _ _ | sweep | reconcileStartup =>
      rw [operation] at target
      cases target
  | get sessionId =>
      rw [operation] at target
      cases target
      refine follows_map (follows_bind (follows_required fun _ _ => trivial) ?_)
      rintro found after - ⟨same, foundStored, rfl, -⟩
      rw [same, stored] at foundStored
      cases foundStored
      refine (follows_expire rfl stored (by simpa using stored) addressed
        fun _ _ => trivial).weakenValue ?_
      rintro value later (⟨-, -, -, inTime, -⟩ | ⟨closed, -⟩)
      · exact absurd elapsed (not_le.mpr inTime)
      · exact replies value closed
  | join sessionId actor =>
      rw [operation] at target
      cases target
      refine follows_map (follows_lapsed addressed stored elapsed
        fun closed later isClosed final => ?_)
      refine follows_ite (fun _ => follows_pure (replies closed isClosed)) fun _ => ?_
      refine follows_ite (fun _ => follows_throw trivial) fun isOpen => ?_
      rw [not_not, isClosed] at isOpen
      cases isOpen
  | launch sessionId actor =>
      rw [operation] at target
      cases target
      refine follows_map (follows_lapsed addressed stored elapsed
        fun closed later isClosed final => ?_)
      rw [activeOf_ended actor.userId final]
      exact follows_throw trivial
  | heartbeat sessionId actor =>
      rw [operation] at target
      cases target
      refine follows_map (follows_lapsed addressed stored elapsed
        fun closed later isClosed final => ?_)
      rw [activeOf_ended actor.userId final]
      exact follows_throw trivial
  | leave sessionId actor =>
      rw [operation] at target
      cases target
      refine follows_map (follows_lapsed addressed stored elapsed
        fun closed later isClosed final => ?_)
      rw [liveOf_ended actor.userId final]
      exact follows_ite (fun _ => follows_pure (replies closed isClosed))
        fun _ => follows_throw trivial
  | kick sessionId actor participantId =>
      rw [operation] at target
      cases target
      refine follows_map (follows_lapsed addressed stored elapsed
        fun closed later isClosed final => ?_)
      refine follows_ite (fun _ => follows_throw trivial) fun _ => ?_
      cases found : closed.participants.find? fun item => item.participantId = participantId with
      | none => exact follows_throw trivial
      | some participant =>
          have ended := final participant (List.mem_of_find?_eq_some found)
          refine follows_ite (fun _ => follows_throw trivial) fun _ => ?_
          exact follows_ite (fun _ => follows_pure (replies closed isClosed))
            fun live => absurd ended live

theorem refused_of_lapsed (coherent : Coherent start)
    (addressed : request.operation.addressed = some session.sessionId)
    (stored : start.get session.sessionId = some session)
    (elapsed : session.expiresAt ≤ request.dependencies.clock (start.history.length + 1)) :
    request.Refused configuration start where
  reply := by
    intro reply returned
    exact (Follows.returned (follows_program_lapsed addressed stored elapsed) coherent
      (Prod.ext returned rfl)).2
  starts := by
    refine Path.events (path_after coherent) coherent fun world action _ permitted enabled => ?_
    cases action with
    | created other participant runtimeRequest applied returned =>
        exfalso
        cases permitted with
        | host actor creation _ operation =>
            rw [operation] at addressed
            cases addressed
        | client actor before joined host _ operation _ _ _ sameSession _ launches =>
            obtain ⟨⟨game, core, playerSlot, admitted, -⟩, -⟩ := launches
            have inTime := admitted.inTime
            rw [operation] at addressed
            have same : other.sessionId = session.sessionId := Option.some.inj addressed
            rw [← same, ← sameSession, admitted.stored] at stored
            cases stored
            exact absurd elapsed (not_le.mpr inTime)
    | observed event =>
        intro runtimeRequest call
        have reads : event.call.readOnly = true := enabled
        rw [show event.call = _ from call] at reads
        cases reads
    | drew _ | added _ _ _ _ | saved _ _ _ _ _ | removed _ _ _ | provisioned _ _ _ _
    | revoked _ _ _ => exact fun _ => nofun

end Request

/-- The lease of every session, in every run whose clock never goes back. -/
theorem bounded_lease (configuration : Configuration) (clock : Nat → Time)
    (monotone : Monotone clock) (world : World)
    (reached : ReachableBy configuration (fun _ request => request.dependencies.clock = clock)
      world) :
    (∀ session ∈ storedRecords world.history,
      session.expiresAt ≤ session.createdAt + configuration.sessionTtl) ∧
    (∀ sessionId, (versions world.history sessionId).IsChain fun after before =>
      before.expiresAt ≤ after.expiresAt) ∧
    ∀ (request : Request) (session : Session),
      request.operation.addressed = some session.sessionId →
      world.get session.sessionId = some session →
      session.createdAt + configuration.sessionTtl ≤
        request.dependencies.clock (world.history.length + 1) →
      request.Refused configuration world := by
  have leased : world.Versioned ∧ world.Leased configuration clock := by
    refine reached.keeps (fun world => world.Versioned ∧ world.Leased configuration clock)
      ⟨.empty, .empty⟩ ?_
    rintro start request - - ticking world action coherent permitted enabled ⟨versioned, leased⟩
    exact ⟨versioned.apply coherent enabled,
      leased.apply versioned monotone ticking permitted enabled⟩
  refine ⟨leased.2.bounded, leased.2.growing, fun request session addressed stored late => ?_⟩
  obtain ⟨index, -, granted⟩ :=
    leased.2.granted session (InMemorySessionRepository.get_mem stored).1
  have bounded : session.expiresAt ≤ session.createdAt + configuration.sessionTtl := by
    rw [granted]
    exact min_le_right _ _
  exact Request.refused_of_lapsed reached.coherent addressed stored (bounded.trans late)

/-- In the lobby created at instant 0 a join at the end of the lifetime is refused. -/
theorem createdLobby_refuses_late_join :
    (⟨.join 8 secondActor, Dependencies.fakes fun _ => Configuration.default.sessionTtl⟩ :
      Request).Refused .default createdLobby := by
  obtain ⟨-, -, refused⟩ :=
    bounded_lease .default (fun _ => 0) (fun _ _ _ => le_rfl) createdLobby
    (.request .empty ⟨lobbyCreation, Dependencies.fakes fun _ => 0⟩ rfl)
  have created : (createdLobby.get 8).map Session.createdAt = some 0 := by decide
  obtain ⟨session, stored, instant⟩ := Option.map_eq_some_iff.mp created
  have same : session.sessionId = 8 := (InMemorySessionRepository.get_mem stored).2
  refine refused _ session (by rw [same]; rfl) (by rw [same]; exact stored) ?_
  rw [instant, zero_add]
  rfl

end RetroBrowser.SessionManager
