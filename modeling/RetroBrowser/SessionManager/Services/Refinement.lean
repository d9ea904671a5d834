import RetroBrowser.SessionManager.Services.Startup

/-!
Owns the refinement: every public operation, from any world that satisfies the
invariant, takes only the lobby actions that its request permits. Consequence:
a run of the service is a path of the lobby, and what enabled and permitted
actions keep holds at every moment of every run.
-/

namespace RetroBrowser.SessionManager

open RetroBrowser.Foundation ActionSystem

namespace Request

section Operations

variable {configuration : Configuration} {request : Request} {start world : World}
variable {onError : Error → World → Prop}

theorem follows_required {sessionId : UUID} (failed : ∀ error after, onError error after) :
    request.Follows configuration start world
      ((request.service configuration).required sessionId)
      (fun session later => session.sessionId = sessionId ∧
        world.get session.sessionId = some session ∧
        later = world.observe (.repositoryGet sessionId) ∧
        request.dependencies.Answers world.history.length (.repositoryGet sessionId)) onError := by
  refine follows_bind (follows_repositoryGet sessionId fun error _ => failed error _) ?_
  rintro found after - ⟨same, rfl, answers⟩
  cases found with
  | none => exact follows_throw (failed _ _)
  | some session =>
      have sessionSame := (InMemorySessionRepository.get_mem same.symm).2
      exact follows_pure ⟨sessionSame, sessionSame ▸ same.symm, rfl, answers⟩

/-- The first two calls of every operation that addresses a session. -/
theorem follows_addressed {α : Type} {sessionId : UUID} {next : Session → ServiceProgram α}
    {onValue : α → World → Prop} (addressed : request.operation.addressed = some sessionId)
    (failed : ∀ error after, onError error after)
    (live : ∀ session, session.sessionId = sessionId →
      start.get session.sessionId = some session →
      session.state ≠ .closed →
      request.dependencies.Answers start.history.length (.repositoryGet sessionId) →
      request.dependencies.stops (start.history.length + 1) = false →
      request.dependencies.clock (start.history.length + 1) < session.expiresAt →
      request.Follows configuration start
        ((start.observe (.repositoryGet sessionId)).observe .clock) (next session) onValue onError)
    (ended : ∀ session later, session.state = .closed →
      (∀ item ∈ session.participants, item.state.terminal = true) →
      later.get sessionId = some session →
      request.Follows configuration start later (next session) onValue onError) :
    request.Follows configuration start start
      (do
        let session ← (request.service configuration).required sessionId
        let session ← (request.service configuration).expire session
        next session) onValue onError := by
  refine follows_bind (follows_required failed) ?_
  rintro session after - ⟨same, stored, rfl, answers⟩
  have stored' : (start.observe (.repositoryGet sessionId)).get session.sessionId = some session :=
    stored
  refine follows_bind (follows_expire rfl stored stored' (by rw [addressed, same]) failed) ?_
  rintro value later - (⟨notClosed, rfl, rfl, inTime, running⟩ | ⟨closed, final, kept⟩)
  · exact live value same stored notClosed answers running inTime
  · exact ended value later closed final (same ▸ kept)

theorem follows_get {sessionId : UUID} (operation : request.operation = .get sessionId) :
    request.Follows configuration start start ((request.service configuration).get sessionId)
      (fun _ _ => True) (fun _ _ => True) := by
  refine follows_bind (follows_required fun _ _ => trivial) ?_
  rintro session after - ⟨same, stored, rfl, -⟩
  have stored' : (start.observe (.repositoryGet sessionId)).get session.sessionId = some session :=
    stored
  exact (follows_expire rfl stored stored' (by rw [operation, same]; rfl) fun _ _ =>
    trivial).weakenValue
    (fun _ _ _ => trivial)

/-- No entry of an ended session is found where a live one is asked for. -/
private theorem find_ended {items : List Participant} {wanted : Participant → Bool}
    (final : ∀ item ∈ items, item.state.terminal = true)
    (live : ∀ item, wanted item = true → item.state.terminal = false) :
    items.find? wanted = none := by
  rw [List.find?_eq_none]
  intro item member found
  have ended := final item member
  rw [live item found] at ended
  cases ended

theorem activeOf_ended {session : Session} (userId : String)
    (final : ∀ item ∈ session.participants, item.state.terminal = true) :
    SessionService.activeOf session userId = none := by
  refine find_ended final fun item found => ?_
  simp only [decide_eq_true_eq] at found
  rw [found.2]
  rfl

theorem liveOf_ended {session : Session} (userId : String)
    (final : ∀ item ∈ session.participants, item.state.terminal = true) :
    SessionService.liveOf session userId = none := by
  refine find_ended final fun item found => ?_
  have live : item.live = true := (of_decide_eq_true found).2
  simpa [Participant.live] using live

theorem activeOf_some {session : Session} {userId : String} {item : Participant}
    (found : SessionService.activeOf session userId = some item) :
    item ∈ session.participants ∧ item.userId = userId ∧ item.state = .active := by
  refine ⟨List.mem_of_find?_eq_some found, ?_⟩
  simpa using List.find?_some found

theorem liveOf_some {session : Session} {userId : String} {item : Participant}
    (found : SessionService.liveOf session userId = some item) :
    item ∈ session.participants ∧ item.userId = userId ∧ item.live = true := by
  refine ⟨List.mem_of_find?_eq_some found, ?_⟩
  simpa using List.find?_some found

/-- What a launch hands out: the path of the actor's active entry in a stored
session whose lease still runs, and the provider's token for that entry. -/
structure Launched (request : Request) (start : World) (sessionId : UUID) (actor : Actor)
    (launch : StreamLaunch) (session : Session) (participant : Participant) : Prop where
  stored : start.get sessionId = some session
  member : participant ∈ session.participants
  user : participant.userId = actor.userId
  active : participant.state = .active
  streamPath : participant.streamPath.map (· ++ "/") = some launch.streamPath
  accessToken : launch.accessToken =
    request.dependencies.controllerToken (start.history.length + 2) participant.participantId
  answers : request.dependencies.Answers (start.history.length + 2)
    (.streamProvision participant.participantId 1)
  expiresAt : launch.expiresAt = session.expiresAt
  inTime : request.dependencies.clock (start.history.length + 1) < session.expiresAt

theorem follows_launch {sessionId : UUID} {actor : Actor}
    (operation : request.operation = .launch sessionId actor) :
    request.Follows configuration start start
      ((request.service configuration).launch sessionId actor)
      (fun launch _ => ∃ session participant,
        request.Launched start sessionId actor launch session participant) (fun _ _ => True) := by
  refine follows_addressed (by rw [operation]; rfl) (fun _ _ => trivial) ?_ ?_
  · intro session same stored _ _ _ inTime
    cases found : SessionService.activeOf session actor.userId with
    | none => exact follows_throw trivial
    | some participant =>
        obtain ⟨member, user, active⟩ := activeOf_some found
        cases path : participant.streamPath with
        | none =>
            simp only [path]
            exact follows_throw trivial
        | some text =>
            simp only [path]
            refine follows_bind (follows_streamProvision rfl
              (fun _ _ => Or.inr ⟨actor, by rw [operation, same], user, active⟩) stored member
              (Or.inr active) fun _ _ => trivial) ?_
            rintro token after - ⟨rfl, -, answers⟩
            refine follows_ite (fun _ => follows_pure ⟨session, participant, ?_⟩) fun _ =>
              follows_throw trivial
            exact ⟨same ▸ stored, member, user, active, by rw [path]; rfl, rfl,
              answers, rfl, inTime⟩
  · intro session later closed final _
    rw [activeOf_ended actor.userId final]
    exact follows_throw trivial

theorem follows_heartbeat {sessionId : UUID} {actor : Actor}
    (operation : request.operation = .heartbeat sessionId actor) :
    request.Follows configuration start start
      ((request.service configuration).heartbeat sessionId actor)
      (fun _ _ => True) (fun _ _ => True) := by
  refine follows_addressed (by rw [operation]; rfl) (fun _ _ => trivial) ?_ ?_
  · intro session same stored _ _ _ _
    cases found : SessionService.activeOf session actor.userId with
    | none => exact follows_throw trivial
    | some participant =>
        obtain ⟨member, user, active⟩ := activeOf_some found
        refine follows_bind follows_clock ?_
        rintro now after - ⟨shown, rfl, -⟩
        refine Follows.weakenValue (follows_replaceParticipant (.renewed participant now
          ((request.service configuration).leaseExpiry session now)) (fun _ => rfl) stored
          ⟨member, active, rfl⟩
          (fun _ _ =>
            .renewed participant now _ actor (by rw [operation, same]) user
              ⟨start.history.length + 2, rfl, shown.symm⟩)
          fun _ _ _ _ => ?_) (fun _ _ _ => ?_)
        all_goals trivial
  · intro session later closed final _
    rw [activeOf_ended actor.userId final]
    exact follows_throw trivial

/-- The common end of `leave` and `kick`. -/
theorem follows_dismiss {session : Session} {participant : Participant}
    (stored : world.get session.sessionId = some session)
    (member : participant ∈ session.participants) (live : participant.live = true)
    (retires : request.Retires configuration world session participant)
    (failed : ∀ error after, onError error after) :
    request.Follows configuration start world
      (do
        (request.service configuration).retireRuntime participant.participantId
        let now ← (request.service configuration).clock
        let left ← Program.ofExcept (SessionService.leftParticipant now participant)
        (request.service configuration).replaceParticipant session left session.state false none)
      (fun _ later => participant.state = .active ∧ ∃ now updatedAt,
        later.get session.sessionId =
          some ((Update.left participant now).result session updatedAt)) onError := by
  refine follows_of_invariant fun coherent => ?_
  have started := (Coherent.sessions coherent session
    (InMemorySessionRepository.get_mem stored).1).started participant member
  refine follows_bind (follows_retireRuntime participant.participantId
    (.retiring session participant stored member rfl retires) failed) ?_
  rintro - after - ⟨quiet, retired⟩
  refine follows_bind follows_clock ?_
  rintro now after' - ⟨shown, rfl, -⟩
  have quiet' : World.Quiet after (after.observe .clock) := .observe .clock rfl
  have read : World.Quiet world ((after.observe .clock).observe .clock) :=
    (quiet.trans quiet').trans (.observe .clock rfl)
  refine follows_ofExcept_bind (fun left accepted => ?_) fun error _ => failed error _
  obtain ⟨rfl, wasActive⟩ := SessionService.leftParticipant_ok accepted
  have active := wasActive live
  rw [Update.retire, if_neg (by simpa [Participant.live] using live)]
  have stored' : (after.observe .clock).get session.sessionId = some session :=
    ((quiet.trans quiet').get _).trans stored
  refine (follows_replaceParticipant (.left participant now) (fun _ => rfl) stored'
    ⟨member, active, quiet'.retired (retired (started active))⟩
    (fun _ _ => .left participant now (retires.later read.longer) ⟨after.history.length, by
      simp only [World.observe_history, List.length_cons]
      omega, shown.symm⟩)
    fun error _ _ _ => failed error _).weakenValue ?_
  rintro _ later ⟨rfl, rfl, -⟩
  exact ⟨active, now, _,
    World.get_overwrite (World.Quiet.get (.observe .clock rfl) _ |>.trans stored')
    (Update.result_sessionId session _ (.left participant now))⟩

/-- What a leave that returned left in the store: nothing of the user but ended
entries, or the record in which the user's active entry was put to `LEFT`. -/
def Dismissed (start later : World) (sessionId : UUID) (actor : Actor) : Prop :=
  ∃ session, later.get sessionId = some session ∧
    ((∀ item ∈ session.participants, item.userId = actor.userId →
      item.state.terminal = true) ∨
      ∃ before participant now updatedAt, start.get sessionId = some before ∧
        participant ∈ before.participants ∧ participant.userId = actor.userId ∧
        participant.state = .active ∧
        session = (Update.left participant now).result before updatedAt)

theorem follows_leave {sessionId : UUID} {actor : Actor}
    (operation : request.operation = .leave sessionId actor) :
    request.Follows configuration start start
      ((request.service configuration).leave sessionId actor)
      (fun _ later => Dismissed start later sessionId actor) (fun _ _ => True) := by
  have absent : ∀ (session : Session) (later : World), later.get sessionId = some session →
      SessionService.liveOf session actor.userId = none →
      request.Follows configuration start later
        (if session.participants.any fun item => item.userId = actor.userId then pure session
          else throw (.notFound "participant not found"))
        (fun _ later => Dismissed start later sessionId actor) (fun _ _ => True) := by
    intro session later stored gone
    refine follows_ite (fun _ => follows_pure ⟨session, stored, Or.inl ?_⟩) fun _ =>
      follows_throw trivial
    intro item member user
    have ended := List.find?_eq_none.mp gone item member
    simpa [user, Participant.live] using ended
  refine follows_addressed (by rw [operation]; rfl) (fun _ _ => trivial) ?_ ?_
  · intro session same stored notClosed _ _ _
    cases found : SessionService.liveOf session actor.userId with
    | none => exact absent session _ (same ▸ stored) found
    | some matching =>
        obtain ⟨member, user, live⟩ := liveOf_some found
        dsimp only
        rw [if_neg notClosed]
        have stored' : ((start.observe (.repositoryGet sessionId)).observe .clock).get
          session.sessionId = some session := stored
        refine (follows_dismiss stored' member live (.left actor (by rw [operation, same]) user)
          fun _ _ => trivial).weakenValue ?_
        rintro _ later ⟨active, now, updatedAt, saved⟩
        exact ⟨_, same ▸ saved,
          Or.inr ⟨session, matching, now, updatedAt, same ▸ stored, member,
          user, active, rfl⟩⟩
  · intro session later closed final stored
    have gone := liveOf_ended actor.userId final
    rw [gone]
    exact absent session later stored gone

theorem follows_kick {sessionId participantId : UUID} {actor : Actor}
    (operation : request.operation = .kick sessionId actor participantId) :
    request.Follows configuration start start
      ((request.service configuration).kick sessionId actor participantId)
      (fun _ _ => True) (fun _ _ => True) := by
  refine follows_addressed (by rw [operation]; rfl) (fun _ _ => trivial) ?_ ?_
  · intro session same stored notClosed _ _ _
    by_cases stranger : session.ownerUserId ≠ actor.userId
    · rw [if_pos stranger]
      exact follows_throw trivial
    rw [if_neg stranger]
    cases found : session.participants.find? fun item => item.participantId = participantId with
    | none => exact follows_throw trivial
    | some participant =>
        have member := List.mem_of_find?_eq_some found
        have sameId : participant.participantId = participantId := by
          simpa using List.find?_some found
        dsimp only
        by_cases owner : participant.userId = session.ownerUserId
        · rw [if_pos owner]
          exact follows_throw trivial
        rw [if_neg owner]
        by_cases final : participant.state.terminal = true
        · rw [if_pos final]
          exact follows_pure trivial
        rw [if_neg final]
        have stored' : ((start.observe (.repositoryGet sessionId)).observe .clock).get
          session.sessionId = some session := stored
        exact (follows_dismiss stored' member (by simpa [Participant.live] using final)
          (.kicked actor (by rw [operation, same, sameId]) (not_not.mp stranger) owner)
          fun _ _ => trivial).weakenValue fun _ _ _ => trivial
  · intro session later closed final _
    by_cases stranger : session.ownerUserId ≠ actor.userId
    · rw [if_pos stranger]
      exact follows_throw trivial
    rw [if_neg stranger]
    cases found : session.participants.find? fun item => item.participantId = participantId with
    | none => exact follows_throw trivial
    | some participant =>
        have ended := final participant (List.mem_of_find?_eq_some found)
        dsimp only
        by_cases owner : participant.userId = session.ownerUserId
        · rw [if_pos owner]
          exact follows_throw trivial
        rw [if_neg owner, if_pos ended]
        exact follows_pure trivial

theorem follows_close {sessionId : UUID} {actor : Actor}
    (operation : request.operation = .close sessionId actor) :
    request.Follows configuration start world
      ((request.service configuration).close sessionId actor)
      (fun _ _ => True) (fun _ _ => True) := by
  refine follows_bind (follows_required fun _ _ => trivial) ?_
  rintro session after - ⟨same, stored, rfl, -⟩
  have stored' : (world.observe (.repositoryGet sessionId)).get session.sessionId = some session :=
    stored
  by_cases stranger : session.ownerUserId ≠ actor.userId
  · rw [if_pos stranger]
    exact follows_throw trivial
  rw [if_neg stranger]
  by_cases closed : session.state = .closed
  · unfold SessionService.closeSession
    rw [if_pos closed]
    exact follows_pure trivial
  · exact (follows_closeSession stored' closed (by decide)
      (.byOwner actor (by rw [operation, same]) (not_not.mp stranger))
      fun _ _ => trivial).weakenValue (fun _ _ _ => trivial)

theorem follows_discover (operation : request.operation = .discover) :
    request.Follows configuration start world (request.service configuration).discover
      (fun _ _ => True) (fun _ _ => True) := by
  refine follows_bind (follows_sweep (by rw [operation]; rfl) fun _ _ => trivial) ?_
  rintro cleaned after - -
  refine follows_bind (follows_repositoryList fun _ _ => trivial) ?_
  rintro sessions later - -
  exact follows_pure trivial

theorem follows_nextOrStop {α : Type} {found : Option α}
    (failed : ∀ error after, onError error after) :
    request.Follows configuration start world (SessionService.nextOrStop found)
      (fun value later => found = some value ∧ world = later) onError := by
  cases found with
  | none => exact follows_throw (failed _ _)
  | some value => exact follows_pure ⟨rfl, rfl⟩

end Operations

end Request

/-! ## Admission -/

/-- Drawing an identifier uses no other. -/
theorem World.Unused.drawn {world : World} {id : UUID} (unused : world.Unused id) (other : UUID) :
    ((world.issue other).observe .uuid4).Unused id where
  stored := unused.stored
  started started := by
    rcases started_cons_iff.mp started with ⟨request, call, -⟩ | earlier
    · cases call
    · exact unused.started earlier
  runtime := unused.runtime

/-- Identifiers stay issued. -/
theorem Action.issued_apply {world : World} {id : UUID} (action : Action)
    (issued : id ∈ world.issued) : id ∈ (action.apply world).issued := by
  cases action with
  | drew other => exact List.mem_cons_of_mem other issued
  | added _ _ applied _ | saved _ _ _ applied _ | created _ _ _ applied _
  | removed _ applied _ => cases applied <;> exact issued
  | observed _ | provisioned _ _ _ _ | revoked _ _ _ => exact issued

namespace Request

section Admission

variable {configuration : Configuration} {request : Request} {start world : World}

theorem Path.issued {permitted : World → Action → Prop}
    (path : (lobby configuration).Path permitted start world) (coherent : Coherent start)
    {id : UUID} (issued : id ∈ start.issued) : id ∈ world.issued :=
  path.keeps (fun world => id ∈ world.issued) coherent (fun _ action _ _ _ kept =>
    action.issued_apply kept) issued

/-- A path adds the events of its actions to the history. -/
theorem Path.events {permitted : World → Action → Prop} {property : Event → Prop}
    (path : (lobby configuration).Path permitted start world) (coherent : Coherent start)
    (step : ∀ world (action : Action), Coherent world → permitted world action →
      action.Enabled configuration world → property action.event) :
    ∃ newer, world.history = newer ++ start.history ∧ ∀ event ∈ newer, property event := by
  refine path.keeps (fun world => ∃ newer, world.history = newer ++ start.history ∧
    ∀ event ∈ newer, property event) coherent ?_ ⟨[], rfl, by simp⟩
  rintro between action reached allowed enabled ⟨newer, history, holds⟩
  refine ⟨action.event :: newer, ?_, ?_⟩
  · show (action.apply between).history = _
    rw [Action.apply_history, history, List.cons_append]
  · exact List.forall_mem_cons.mpr ⟨step between action reached allowed enabled, holds⟩

/-- The rest of an admitted join: the new participant is saved and started. -/
private theorem follows_admitted {session : Session} {actor : Actor} {game : GameRecord}
    {core : CoreProfile} {playerSlot : Nat} {participant : Participant}
    (operation : request.operation = .join session.sessionId actor)
    (length : world.history.length = start.history.length + 8)
    (sessions : world.sessions = start.sessions)
    (stored : world.get session.sessionId = some session)
    (same : participant = (request.service configuration).joining start.history.length session
      actor playerSlot)
    (enabled : (Update.joined participant).Enabled configuration world session)
    (fresh : participant.participantId ∉ start.issued)
    (capacity : (world.runtimes.length : Int) < configuration.runtimeCapacity)
    (admits : request.dependencies.stops (start.history.length + 8) = false →
      request.dependencies.stops (start.history.length + 9) = false →
      (request.service configuration).Admits start session actor game core playerSlot) :
    request.Follows configuration start world
      (do
        let updated ← (request.service configuration).replaceParticipant session participant
          session.state true none
        let host ← SessionService.nextOrStop (SessionService.hostOf session)
        (request.service configuration).startParticipant updated participant game core .client
          (some host.participantId)) (fun _ _ => True) (fun _ _ => True) := by
  refine follows_of_invariant fun coherent => ?_
  have sessionCoherent := Coherent.sessions coherent session
    (InMemorySessionRepository.get_mem stored).1
  have user : participant.userId = actor.userId := by rw [same]; rfl
  have slot : participant.playerSlot = playerSlot := by rw [same]; rfl
  have cause : request.operation.startsFor = some participant.userId := by
    rw [operation, user]
    rfl
  obtain ⟨isOpen, allocating, -, -, -, unused, -, absent, -⟩ := id enabled
  refine follows_bind (follows_replaceParticipant (.joined participant) (fun _ => rfl) stored
    enabled (fun first second => ?_) fun _ _ _ _ => trivial) ?_
  · rw [length] at first second
    exact .joined participant actor game core operation (slot ▸ admits first second)
      (slot ▸ same) sessions
  rintro updated after - ⟨updatedSame, rfl, first, answers⟩
  rw [length] at first answers
  have admitted := admits first answers.1
  refine follows_bind (follows_nextOrStop fun _ _ => trivial) ?_
  rintro host after - ⟨found, rfl⟩
  obtain ⟨hosted, hostId⟩ := enabled.hostOf sessionCoherent found
    (request.dependencies.clock world.history.length)
  have sameSession : updated.sessionId = session.sessionId := by
    rw [updatedSame, Update.result_sessionId]
  have entries : updated.participants = session.participants ++ [participant] := by
    rw [updatedSame]
    rfl
  have stored' : ((world.observe .clock).save updated session.revision).get updated.sessionId =
      some updated := by
    rw [sameSession]
    exact World.get_overwrite stored sameSession
  have alone : SessionService.activeIn updated participant.userId = false := by
    rw [SessionService.activeIn, entries, List.any_append, ← SessionService.activeIn, absent]
    simp [allocating]
  refine (follows_startParticipant stored' ?_ allocating ?_ unused.runtime ?_ fresh alone capacity
    cause ?_ fun _ _ => trivial).weakenValue fun _ _ _ => trivial
  · simp [entries]
  · exact Or.inr ⟨rfl, by rw [updatedSame]; exact isOpen, host, updatedSame ▸ hosted, rfl⟩
  · simpa [started_cons_iff] using unused.started
  · intro current currentSame clockRead startingSaved valid reached
    simp only [World.save_history, World.observe_history, List.length_cons, length]
      at currentSame clockRead startingSaved reached
    rw [length] at updatedSame
    have sameCurrent : current.sessionId = session.sessionId := by
      rw [currentSame, Update.result_sessionId, sameSession]
    refine .client actor session participant host _ (by rw [operation, sameCurrent]) rfl rfl rfl
      sameCurrent.symm ?_ {
        admitted := ⟨game, core, playerSlot, admitted, same, valid⟩
        host := found
        joined := ?_
        clockRead := clockRead
        starting := ?_
        reached := reached }
    · rw [currentSame, Update.result_participants, entries, List.map_append]
      have kept : session.participants.map
          ((Update.starting participant).revise (request.dependencies.clock
            (start.history.length + 8 + 1 + 1))) = session.participants := by
        refine (List.map_congr_left fun item member => ?_).trans (List.map_id _)
        have other := unused.stored session (InMemorySessionRepository.get_mem stored).1 item member
        simp [Update.revise, Update.put, other]
      rw [kept]
      simp [Update.revise, Update.put, Update.appended]
    · rw [← updatedSame]
      exact answers
    · have revision : updated.revision = session.revision + 1 := by
        rw [updatedSame]
        rfl
      rw [← updatedSame, ← currentSame, ← revision]
      exact startingSaved

theorem follows_join {sessionId : UUID} {actor : Actor}
    (operation : request.operation = .join sessionId actor) :
    request.Follows configuration start start
      ((request.service configuration).join sessionId actor)
      (fun _ _ => True) (fun _ _ => True) := by
  refine follows_of_invariant fun initial => ?_
  refine follows_addressed (by rw [operation]; rfl) (fun _ _ => trivial) ?_ ?_
  · rintro session rfl stored notClosed read running inTime
    refine follows_ite (fun _ => follows_pure trivial) fun absent => ?_
    refine follows_ite (fun _ => follows_throw trivial) fun open' => ?_
    refine follows_ite (fun _ => follows_throw trivial) fun room => ?_
    refine follows_bind (follows_requireUserRuntimeCapacity actor.userId fun _ _ => trivial) ?_
    rintro - after - ⟨rfl, userQuota, listed⟩
    refine follows_bind (follows_requireRuntimeCapacity fun _ _ => trivial) ?_
    rintro - after - ⟨rfl, runtimeQuota, runtimesListed⟩
    refine follows_bind (follows_resolve session.rommRomId fun _ _ => trivial) ?_
    rintro ⟨game, core⟩ after - ⟨gameResolved, gameFound, coreResolved, coreFound,
      corePlatform, rfl⟩
    refine follows_ite (fun _ => follows_throw trivial) fun unchanged => ?_
    refine follows_bind (follows_nextOrStop fun _ _ => trivial) ?_
    rintro playerSlot after - ⟨slot, rfl⟩
    refine follows_bind follows_clock ?_
    rintro now after - ⟨shown, rfl, clockRead⟩
    refine follows_bind follows_uuid4 ?_
    rintro participantId after - ⟨drawnId, absentId, rfl, drawn⟩
    refine follows_ite (fun valid => ?_) fun _ => follows_throw trivial
    have fresh : participantId ∉ start.issued := absentId
    have quiet : start.Quiet _ :=
      ((((((World.Quiet.observe (.repositoryGet session.sessionId) rfl).trans
      (.observe .clock rfl)).trans (.observe .repositoryList rfl)).trans
      (.observe .executionList rfl)).trans (.observe (.resolveGame session.rommRomId) rfl)).trans
      (.observe (.resolveCore game.platform) rfl)).trans (.observe .clock rfl)
    have unused := (quiet.unused (Coherent.unused initial fresh)).drawn participantId
    have same : (⟨participantId, session.sessionId, actor.userId, actor.displayName, playerSlot,
        none, none, .allocating, now, now⟩ : Participant) =
        (request.service configuration).joining start.history.length session actor playerSlot := by
      rw [drawnId, shown]
      rfl
    refine follows_admitted operation (by simp) (by simp) (by simpa using stored) same ?_ fresh
      runtimeQuota fun first second => ?_
    · exact ⟨not_not.mp open', rfl, rfl, rfl, valid, unused, List.mem_cons_self,
        by simpa using absent, not_le.mp room, userQuota, slot⟩
    · exact {
        stored
        state := not_not.mp open'
        read
        clockRead := running
        inTime
        absent := by simpa using absent
        room := not_le.mp room
        listed
        userQuota
        runtimesListed
        runtimeQuota
        gameResolved
        gameFound
        coreResolved
        coreFound
        corePlatform
        metadata := by
          push Not at unchanged
          exact unchanged
        slot
        reached := by
          intro offset member
          simp only [List.mem_cons, List.not_mem_nil, or_false] at member
          rcases member with rfl | rfl | rfl | rfl
          · exact clockRead
          · exact drawn
          · exact first
          · exact second
        fresh := by
          rw [drawnId] at fresh
          exact fresh
        valid := by
          rw [← same]
          exact valid }
  · intro session later closed final _
    refine follows_ite (fun _ => follows_pure trivial) fun _ => ?_
    refine follows_ite (fun _ => follows_throw trivial) fun open' => ?_
    rw [not_not, closed] at open'
    cases open'

/-- The rest of a creation whose record is valid: it is added and its owner started. -/
private theorem follows_opened {actor : Actor} {creation : CreateSessionRequest}
    {session : Session} {owner : Participant} {game : GameRecord} {core : CoreProfile}
    (operation : request.operation = .create actor creation)
    (opens : Action.Opens configuration world session owner)
    (user : session.ownerUserId = actor.userId)
    (freshSession : session.sessionId ∉ start.issued)
    (freshOwner : owner.participantId ∉ start.issued)
    (created : request.dependencies.Read world session.createdAt)
    (capacity : (world.runtimes.length : Int) < configuration.runtimeCapacity) :
    request.Follows configuration start world
      (do
        (request.service configuration).repositoryAdd session
        (request.service configuration).startParticipant session owner game core .host none)
      (fun _ _ => True) (fun _ _ => True) := by
  refine follows_bind (follows_repositoryAdd
    (fun _ _ => ⟨⟨actor, creation, operation, user⟩, freshOwner, freshSession, created⟩)
    opens fun _ _ => trivial) ?_
  rintro - after - rfl
  have stored : ((world.insert session).observe (.repositoryAdd session)).get session.sessionId =
      some session := World.get_insert opens.unusedSession
  refine (follows_startParticipant stored ?_ opens.ownerState
    (Or.inl ⟨rfl, opens.state, rfl⟩) opens.unusedOwner.runtime ?_ freshOwner ?_ capacity ?_
    (fun _ _ _ _ _ _ => .host actor creation _ operation rfl freshOwner)
    fun _ _ => trivial).weakenValue fun _ _ _ => trivial
  · simp [opens.participants]
  · simpa [started_cons_iff] using opens.unusedOwner.started
  · simp [SessionService.activeIn, opens.participants, opens.ownerState]
  · rw [operation, opens.ownerUser, user]
    rfl

theorem follows_create {actor : Actor} {creation : CreateSessionRequest}
    (operation : request.operation = .create actor creation) :
    request.Follows configuration start start
      ((request.service configuration).create actor creation)
      (fun _ _ => True) (fun _ _ => True) := by
  refine follows_of_invariant fun initial => ?_
  refine follows_bind (follows_sweep (by rw [operation]; rfl) fun _ _ => trivial).withPath ?_
  rintro cleaned swept coherent ⟨path, -⟩
  have old : ∀ id, id ∉ swept.issued → id ∉ start.issued :=
    fun id absent issued => absent (Path.issued path initial issued)
  refine follows_bind (follows_requireSessionCapacity fun _ _ => trivial) ?_
  rintro - after - ⟨rfl, sessionQuota⟩
  refine follows_bind (follows_requireUserRuntimeCapacity actor.userId fun _ _ => trivial) ?_
  rintro - after - ⟨rfl, userQuota, -⟩
  refine follows_bind (follows_requireRuntimeCapacity fun _ _ => trivial) ?_
  rintro - after - ⟨rfl, runtimeQuota, -⟩
  refine follows_bind (follows_resolve creation.rommRomId fun _ _ => trivial) ?_
  rintro ⟨game, core⟩ after - ⟨-, -, -, -, -, rfl⟩
  refine follows_ite (fun _ => follows_throw trivial) fun _ => ?_
  refine follows_bind follows_clock ?_
  rintro now after - ⟨shown, rfl, -⟩
  refine follows_bind follows_uuid4 ?_
  rintro sessionId after - ⟨-, absentSession, rfl, -⟩
  refine follows_bind follows_uuid4 ?_
  rintro participantId after drawn ⟨-, absentParticipant, rfl, -⟩
  have freshSession : sessionId ∉ swept.issued := absentSession
  have freshParticipant : participantId ∉ swept.issued :=
    fun issued => absentParticipant (List.mem_cons_of_mem sessionId issued)
  have quiet : swept.Quiet _ := ((((((World.Quiet.observe .repositoryList rfl).trans
    (.observe .repositoryList rfl)).trans (.observe .executionList rfl)).trans
    (.observe (.resolveGame creation.rommRomId) rfl)).trans
    (.observe (.resolveCore game.platform) rfl)).trans (.observe .clock rfl))
  have unused := ((quiet.unused (Coherent.unused coherent freshParticipant)).drawn sessionId).drawn
    participantId
  refine follows_ofExcept_bind (fun _ valid => ?_) fun _ _ => trivial
  refine follows_opened operation ?_ rfl (old _ freshSession) (old _ freshParticipant)
    ⟨_, ?_, shown.symm⟩ (by simpa using runtimeQuota)
  rotate_left
  · simp only [World.observe_history, World.issue_history, List.length_cons]
    omega
  exact {
    state := rfl
    revision := rfl
    participants := rfl
    ownerState := rfl
    ownerSession := rfl
    ownerUser := rfl
    ownerSlot := rfl
    lease := rfl
    valid
    unusedSession := by simpa using Coherent.get_none coherent freshSession
    issuedSession := by simp
    unusedOwner := unused
    issuedOwner := by simp
    sessionQuota := by simpa using sessionQuota
    userQuota := by simpa using userQuota }

end Admission

/-! ## Runs -/

section Runs

variable {configuration : Configuration} {request : Request} {start : World}

/-- Every operation follows the lobby. -/
theorem follows_program : request.Follows configuration start start
    (request.operation.program (request.service configuration))
    (fun _ _ => True) (fun _ _ => True) := by
  cases operation : request.operation with
  | create actor creation => exact follows_map (follows_create operation)
  | discover => exact follows_map (follows_discover operation)
  | get sessionId => exact follows_map (follows_get operation)
  | join sessionId actor => exact follows_map (follows_join operation)
  | launch sessionId actor =>
      exact follows_map ((follows_launch operation).weakenValue fun _ _ _ => trivial)
  | heartbeat sessionId actor => exact follows_map (follows_heartbeat operation)
  | leave sessionId actor =>
      exact follows_map ((follows_leave operation).weakenValue fun _ _ _ => trivial)
  | kick sessionId actor participantId => exact follows_map (follows_kick operation)
  | close sessionId actor => exact follows_map (follows_close operation)
  | sweep =>
      have sweeps : request.operation.sweeps = true := by rw [operation]; rfl
      exact follows_map ((follows_sweep sweeps fun _ _ => trivial).weakenValue fun _ _ _ => trivial)
  | reconcileStartup =>
      exact follows_map ((follows_reconcileStartup operation fun _ _ => trivial).weakenValue
        fun _ _ _ => trivial)

/-- A request moves by the actions it may take, whichever way it ends. -/
theorem path_after (coherent : Coherent start) :
    (lobby configuration).Path (request.Permits configuration start) start
      (request.after configuration start) :=
  (follows_program coherent).1

theorem coherent_after (coherent : Coherent start) :
    Coherent (request.after configuration start) :=
  Path.invariant (path_after coherent) coherent

end Runs

end Request

namespace ReachableBy

variable {configuration : Configuration} {admissible : World → Request → Prop} {world : World}

theorem coherent (reached : ReachableBy configuration admissible world) : Coherent world := by
  induction reached with
  | empty => exact .empty
  | request _ request _ inductionHypothesis => exact Request.coherent_after inductionHypothesis

/-- Invariants of runs: a fact of the empty world that every permitted action
of every admissible request keeps. The fact may be used where the request began. -/
theorem keeps (fact : World → Prop) (initial : fact World.empty)
    (step : ∀ start request, Coherent start → fact start → admissible start request →
      ∀ world (action : Action), Coherent world →
        request.Permits configuration start world action →
        action.Enabled configuration world → fact world → fact (action.apply world))
    (reached : ReachableBy configuration admissible world) : fact world := by
  induction reached with
  | empty => exact initial
  | request before request allowed inductionHypothesis =>
      exact (Request.path_after before.coherent).keeps fact before.coherent
        (step _ request before.coherent inductionHypothesis allowed) inductionHypothesis

/-- Invariants of all runs need only what enables an action. -/
theorem keeps_enabled (fact : World → Prop) (initial : fact World.empty)
    (step : ∀ world (action : Action), Coherent world → action.Enabled configuration world →
      fact world →
      fact (action.apply world))
    (reached : ReachableBy configuration admissible world) : fact world :=
  reached.keeps fact initial fun _ _ _ _ _ world action coherent _ enabled holds =>
    step world action coherent enabled holds

end ReachableBy

end RetroBrowser.SessionManager
