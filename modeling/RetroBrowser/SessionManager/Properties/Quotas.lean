import RetroBrowser.SessionManager.Services.Working

/-!
Owns the admission quotas. Contract: open sessions, live participants of each
user and existing runtimes stay within the configured capacities at every
moment of every run. Only three actions raise a counter (adding a session,
saving a join, creating a runtime), and each is guarded by its own quota.
-/

namespace RetroBrowser.SessionManager

open RetroBrowser.Foundation

/-- The three capacities. -/
structure World.WithinQuotas (configuration : Configuration) (world : World) : Prop where
  sessions : (world.activeSessions.length : Int) ≤ configuration.sessionCapacity
  users : ∀ userId, (SessionService.userRuntimes userId world.activeSessions : Int) ≤
    configuration.perUserRuntimeCapacity
  runtimes : (world.runtimes.length : Int) ≤ configuration.runtimeCapacity

namespace SessionService

/-- Live participants of one user in one session, where the session counts. -/
def userLoad (userId : String) (session : Session) : Nat :=
  if session.state ≠ .closed ∧ session.state ≠ .error then
    session.participants.countP fun participant => participant.userId = userId ∧ participant.live
  else 0

theorem userRuntimes_active (userId : String) (world : World) :
    userRuntimes userId world.activeSessions = (world.sessions.map (userLoad userId)).sum := by
  rw [World.activeSessions]
  induction world.sessions with
  | nil => rfl
  | cons session rest inductionHypothesis =>
      rw [List.filter_cons, List.map_cons, List.sum_cons, ← inductionHypothesis]
      by_cases counts : session.state ≠ .closed ∧ session.state ≠ .error
      · simp [counts, userRuntimes, userLoad]
      · simp [counts, userLoad]

end SessionService

namespace Update

variable {configuration : Configuration} {world : World} {session : Session} {update : Update}

/-- No change brings a session back among the active ones. -/
theorem Enabled.stays_inactive (enabled : update.Enabled configuration world session)
    (distinct : (session.participants.map Participant.participantId).Nodup)
    (shape : session.Shape) (updatedAt : Time)
    (active : (update.result session updatedAt).state ≠ .closed ∧
      (update.result session updatedAt).state ≠ .error) :
    session.state ≠ .closed ∧ session.state ≠ .error := by
  have after := enabled.shape distinct shape updatedAt
  rw [result_state] at active
  unfold Session.Shape at after
  rw [result_state] at after
  rcases enabled.nextState_edge with same | edge
  · rw [same] at active
    exact active
  · constructor
    · intro closed
      rw [closed] at edge
      cases edge
    · intro error
      rw [error] at edge
      have next : update.nextState session = .draining ∨ update.nextState session = .closed := by
        simpa [SessionState.Edge, sessionTransitions] using edge
      rcases next with draining | closed
      · rw [draining] at after
        exact after
      · exact active.1 closed

/-- Only a join adds a live participant, and only for its own user. -/
theorem Enabled.userLoad_result (enabled : update.Enabled configuration world session)
    (distinct : (session.participants.map Participant.participantId).Nodup)
    (shape : session.Shape) (updatedAt : Time) (userId : String) :
    SessionService.userLoad userId (update.result session updatedAt) ≤
      SessionService.userLoad userId session +
        update.appended.countP (fun participant => participant.userId = userId) := by
  unfold SessionService.userLoad
  split
  case isFalse => exact Nat.zero_le _
  case isTrue active =>
    rw [if_pos (enabled.stays_inactive distinct shape updatedAt active), result_participants,
      List.countP_append, List.countP_map]
    refine Nat.add_le_add (List.countP_mono_left fun item member live => ?_)
      (List.countP_mono_left fun item _ live => ?_)
    · have conforms := enabled.revise_conforms distinct updatedAt member
      simp only [Function.comp_apply, conforms.userId, decide_eq_true_eq] at live ⊢
      refine ⟨live.1, ?_⟩
      by_contra ended
      have final : item.state.terminal = true := by simpa [Participant.live] using ended
      rw [conforms.final final] at live
      exact ended live.2
    · simp only [decide_eq_true_eq] at live ⊢
      exact live.1

end Update

namespace World

variable {configuration : Configuration} {world : World}

/-- Calls that store nothing and start nothing leave the counters alone or lower. -/
theorem WithinQuotas.of_same {after : World} (within : world.WithinQuotas configuration)
    (sessions : after.sessions = world.sessions)
    (runtimes : after.runtimes.length ≤ world.runtimes.length) :
    after.WithinQuotas configuration where
  sessions := by
    rw [World.activeSessions, sessions]
    exact within.sessions
  users userId := by
    rw [World.activeSessions, sessions]
    exact within.users userId
  runtimes := by
    have := within.runtimes
    omega

theorem WithinQuotas.insert (within : world.WithinQuotas configuration) {session : Session}
    {owner : Participant} (opens : Action.Opens configuration world session owner) :
    (world.insert session).WithinQuotas configuration where
  sessions := by
    have room := opens.sessionQuota
    have single : ([session].filter fun item : Session =>
        item.state ≠ .closed ∧ item.state ≠ .error).length ≤ 1 := List.length_filter_le _ _
    simp only [World.activeSessions, insert_sessions, List.filter_append, List.length_append]
      at room ⊢
    omega
  users userId := by
    have load : SessionService.userLoad userId session = if owner.userId = userId then 1
        else 0 := by
      simp [SessionService.userLoad, opens.state, opens.participants, Participant.live,
        opens.ownerState, ParticipantState.terminal, List.countP_cons]
    have before := within.users userId
    rw [SessionService.userRuntimes_active] at before ⊢
    rw [insert_sessions, List.map_append, List.sum_append, List.map_singleton, List.sum_singleton,
      load]
    split
    case isTrue same =>
      have room := opens.userQuota
      rw [SessionService.userRuntimes_active, same] at room
      omega
    case isFalse => simpa using before
  runtimes := within.runtimes

theorem WithinQuotas.overwrite (within : world.WithinQuotas configuration)
    (coherent : Coherent world) {session : Session} {update : Update}
    (stored : world.get session.sessionId = some session)
    (enabled : update.Enabled configuration world session) (updatedAt : Time) :
    (world.overwrite (update.result session updatedAt)).WithinQuotas configuration := by
  have member := (InMemorySessionRepository.get_mem stored).1
  have sessionCoherent := coherent.sessions session member
  have sameId := Update.result_sessionId session updatedAt update
  constructor
  · -- An overwritten record is active only if the one before was.
    have fewer : (world.overwrite (update.result session updatedAt)).activeSessions.length ≤
        world.activeSessions.length := by
      rw [World.activeSessions, World.activeSessions, ← List.countP_eq_length_filter,
        ← List.countP_eq_length_filter, overwrite_sessions, InMemorySessionRepository.overwrite,
        List.countP_map]
      refine List.countP_mono_left fun current currentMember active => ?_
      simp only [Function.comp_apply, sameId] at active
      split at active
      case isTrue same =>
        have := eq_of_key coherent.sessionIds currentMember member same
        subst this
        simpa using enabled.stays_inactive sessionCoherent.ids sessionCoherent.shape updatedAt
          (by simpa using active)
      case isFalse => exact active
    have := within.sessions
    omega
  · intro userId
    have before := within.users userId
    have total := InMemorySessionRepository.sum_overwrite (SessionService.userLoad userId)
      coherent.sessionIds member sameId
    have load := enabled.userLoad_result sessionCoherent.ids sessionCoherent.shape updatedAt userId
    rw [SessionService.userRuntimes_active] at before ⊢
    rw [overwrite_sessions]
    -- A join raises the load of its user by one, and its quota was checked.
    have joins : update.appended.countP (fun participant => participant.userId = userId) = 0 ∨
        (update.appended.countP (fun participant => participant.userId = userId) = 1 ∧
          ((world.sessions.map (SessionService.userLoad userId)).sum : Int) <
            configuration.perUserRuntimeCapacity) := by
      cases update with
      | joined participant =>
          obtain ⟨-, -, -, -, -, -, -, -, -, quota, -⟩ := enabled
          by_cases same : participant.userId = userId
          · right
            rw [SessionService.userRuntimes_active, same] at quota
            exact ⟨by simp [Update.appended, same], quota⟩
          · left
            simp [Update.appended, same]
      | starting _ | running _ _ | active _ _ _ | failed _ _ | renewed _ _ _ | left _ _
      | faulted _ _ | closed _ => exact Or.inl rfl
    rcases joins with none | ⟨one, quota⟩ <;> omega
  · exact within.runtimes

theorem WithinQuotas.apply (within : world.WithinQuotas configuration) (coherent : Coherent world)
    {action : Action} (enabled : action.Enabled configuration world) :
    (action.apply world).WithinQuotas configuration := by
  cases action with
  | observed _ | drew _ | provisioned _ _ _ _ | revoked _ _ _ =>
      exact within.of_same rfl (Nat.le_refl _)
  | added session owner applied returned =>
      cases applied with
      | false => exact within.of_same rfl (Nat.le_refl _)
      | true => exact (within.insert enabled).of_same rfl (Nat.le_refl _)
  | saved session update updatedAt applied returned =>
      cases applied with
      | false => exact within.of_same rfl (Nat.le_refl _)
      | true =>
          exact (within.overwrite coherent enabled.1 enabled.2 updatedAt).of_same rfl
            (Nat.le_refl _)
  | created session participant request applied returned =>
      cases applied with
      | false => exact within.of_same rfl (Nat.le_refl _)
      | true =>
          refine ⟨within.sessions, within.users, ?_⟩
          have room := enabled.capacity
          have grown : (Action.apply world
              (.created session participant request true returned)).runtimes.length ≤
                world.runtimes.length + 1 := startRuntime_length_le request.participantId
          omega
  | removed participantId applied returned =>
      cases applied with
      | false => exact within.of_same rfl (Nat.le_refl _)
      | true => exact within.of_same rfl (discardRuntime_length_le participantId)

end World

/-- The quotas of the service's configuration hold in every world that any run
passes through. -/
theorem quotas_hold (configuration : Configuration) (world : World)
    (reached : Reachable configuration world) : world.WithinQuotas configuration := by
  refine reached.keeps_enabled _ ?_ fun world action coherent enabled within =>
    within.apply coherent enabled
  obtain ⟨-, runtimes, ⟨sessions, -⟩, ⟨users, -⟩⟩ :=
    Settings.check_ok configuration.accepted
  refine ⟨?_, fun userId => ?_, ?_⟩
  · exact (by decide : ((World.empty.activeSessions.length : Nat) : Int) ≤ 1).trans sessions
  · exact (by decide : (0 : Int) ≤ 1).trans users
  · exact (by decide : (0 : Int) ≤ 1).trans runtimes

theorem created_lobby_within_quotas :
    createdLobby.runtimes.length = 1 ∧ createdLobby.WithinQuotas .default :=
  ⟨by decide, quotas_hold .default createdLobby createdLobby_reachable⟩

end RetroBrowser.SessionManager
