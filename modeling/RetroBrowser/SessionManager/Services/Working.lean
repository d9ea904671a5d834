import RetroBrowser.SessionManager.Services.Refinement

/-!
Owns dependencies that work: nothing stops, no call raises, and an inspection
answers or says that the runtime is missing. Contract: with such dependencies
the sweep and the startup reconciliation return normally from every coherent
world in which each session they close is closable.

Where a program stands in its run is taken from the refinement: each lemma adds
only that the program returns.
-/

namespace RetroBrowser.SessionManager

open RetroBrowser.Foundation ActionSystem Program

/-- Every dependency works. -/
structure Dependencies.Healthy (dependencies : Dependencies) : Prop where
  running : ∀ index, dependencies.stops index = false
  noFault : ∀ index call, dependencies.fault index call = none
  inspects : ∀ index participantId error,
    dependencies.runtimeInspected index participantId = .error error →
      error.isOrchestration = true

/-- The fakes of the service's lifecycle tests, with a clock. -/
def Dependencies.fakes (clock : Nat → Time) : Dependencies where
  stops _ := false
  fault _ _ := none
  clock
  monotonic _ := 0
  uuid4 index := BitVec.ofNat 128 (index + 1)
  resolveGame _ rommRomId :=
    if rommRomId = 42 then
      .ok ⟨42, "nes", "/srv/retrobrowser/roms/game.nes",
        "aaaaaaaaaaaaaaaaaaaaaaaaaaaaaaaaaaaaaaaaaaaaaaaaaaaaaaaaaaaaaaaa"⟩
    else .error .key
  resolveCore _ platform := .ok ⟨"nes-default", platform, 2⟩
  runtimeCreated _ request := ⟨request.participantId, "running", .healthy⟩
  runtimeInspected _ participantId := .ok ⟨participantId, "running", .healthy⟩
  runtimeListed _ participantId := ⟨participantId, "running", .healthy⟩
  controllerToken _ participantId := "controller-" ++ UUID.hex participantId
  pollRounds := 1

theorem Dependencies.fakes_healthy (clock : Nat → Time) : (fakes clock).Healthy where
  running _ := rfl
  noFault _ _ := rfl
  inspects _ _ _ answer := by cases answer

/-- The actors and the lobby of the lifecycle tests. -/
def firstActor : Actor := ⟨"user-1", "Player 1"⟩

def secondActor : Actor := ⟨"user-2", "Player 2"⟩

def lobbyCreation : Operation := .create firstActor ⟨"Saturday Night NES", 42, 2⟩

/-- A lobby created without disturbance; its identifier is 8. -/
def createdLobby : World :=
  (Request.mk lobbyCreation (Dependencies.fakes fun _ => 0)).after .default World.empty

theorem createdLobby_reachable : Reachable .default createdLobby :=
  .request .empty ⟨lobbyCreation, Dependencies.fakes fun _ => 0⟩ trivial

/-- The second player joins it. -/
def lobbyJoin : Request := ⟨.join 8 secondActor, Dependencies.fakes fun _ => 0⟩

/-- The lobby after its owner left. -/
def leftLobby : World :=
  (Request.mk (.leave 8 firstActor) (Dependencies.fakes fun _ => 0)).after .default createdLobby

theorem leftLobby_reachable : Reachable .default leftLobby :=
  .request createdLobby_reachable ⟨.leave 8 firstActor, Dependencies.fakes fun _ => 0⟩ trivial

namespace SessionService

variable {self : SessionService} {world : World}

/-! ## Calls -/

section Calls

variable (healthy : self.dependencies.Healthy)
include healthy

theorem invoke_returns {α : Type} {call : Call} {works : World → Except Error (α × World)}
    (value : α) (after : World) (answer : works world = .ok (value, after)) :
    (self.invoke call works).Returns world :=
  ⟨value, after.record ⟨call, true, true⟩, by
    simp [invoke, healthy.running, healthy.noFault, answer]⟩

theorem clock_returns : self.clock.Returns world :=
  ⟨self.dependencies.clock world.history.length, world.record ⟨.clock, true, true⟩, by
    simp [clock, ask, observe, healthy.running]⟩

theorem repositoryList_returns : self.repositoryList.Returns world :=
  invoke_returns healthy _ world rfl

theorem executionList_returns : self.executionList.Returns world :=
  show (self.invoke _ _).Returns world from invoke_returns healthy _ world rfl

theorem executionRemove_returns (participantId : UUID) :
    (self.executionRemove participantId).Returns world :=
  invoke_returns healthy () (world.discardRuntime participantId) rfl

theorem bestEffortRevoke_returns (participantId : UUID) :
    (self.bestEffortRevoke participantId).Returns world :=
  returns_tryCatch (invoke_returns healthy () world rfl)

theorem retireRuntime_returns (participantId : UUID) :
    (self.retireRuntime participantId).Returns world :=
  returns_bind (bestEffortRevoke_returns healthy participantId) fun _ _ _ =>
    executionRemove_returns healthy participantId

theorem repositorySave_returns {session : Session} (update : Update) {updatedAt : Time}
    (stored : world.get session.sessionId = some session) :
    (self.repositorySave (update.result session updatedAt) session.revision).Returns world := by
  have found : InMemorySessionRepository.get world.sessions
      (update.result session updatedAt).sessionId = some session := by
    rw [Update.result_sessionId]
    exact stored
  refine invoke_returns healthy () (world.overwrite (update.result session updatedAt)) ?_
  rw [InMemorySessionRepository.save_ok found (Update.result_revision session updatedAt update)]
  rfl

theorem inspectOrNone_returns (participantId : UUID) :
    (self.inspectOrNone participantId).Returns world := by
  cases answer : self.dependencies.runtimeInspected world.history.length participantId with
  | ok handle =>
      refine returns_tryCatch (returns_map ?_)
      show (self.invoke _ _).Returns world
      exact invoke_returns healthy handle world (by rw [answer]; rfl)
  | error error =>
      have raises : (some <$> self.executionInspect participantId) world =
          (.raised error, world.record ⟨.executionInspect participantId, false, false⟩) :=
        bind_raised (by simp [executionInspect, ask, invoke, healthy.running, healthy.noFault,
          answer, Except.map])
      have missing := healthy.inspects _ _ _ answer
      exact ⟨none, _, (tryCatch_raised raises).trans (by rw [if_pos missing]; rfl)⟩

end Calls

end SessionService

/-! ## Retirement -/

section Retirement

variable {configuration : Configuration} {request : Request} {world : World} {session : Session}

/-- Go on from the world that the refinement says a program leaves. -/
theorem Request.returns_bind {α β : Type} {program : ServiceProgram α}
    {next : α → ServiceProgram β}
    {onValue : α → World → Prop} (coherent : Coherent world) (first : program.Returns world)
    (follows : request.Follows configuration world world program onValue fun _ _ => True)
    (rest : ∀ value after, Coherent after → onValue value after →
      (next value).Returns after) :
    (program >>= next).Returns world := by
  refine Program.returns_bind first fun value after run => ?_
  obtain ⟨reached, holds⟩ := Follows.returned follows coherent run
  exact rest value after reached holds

theorem SessionService.mapM_leftParticipant {now : Time} {items : List Participant}
    (active : ∀ item ∈ items, item.live = true → item.state = .active) :
    items.mapM (leftParticipant now) = .ok (items.map (Update.retire now)) := by
  induction items with
  | nil => rfl
  | cons head tail inductionHypothesis =>
      have headLeft : leftParticipant now head = .ok (Update.retire now head) := by
        unfold leftParticipant Update.retire
        by_cases final : head.state.terminal = true
        · rw [if_pos final, if_pos final]
        · rw [if_neg final, if_neg final,
            active head List.mem_cons_self (by simpa [Participant.live] using final)]
          rfl
      rw [List.mapM_cons, headLeft,
        inductionHypothesis fun item member => active item (List.mem_cons_of_mem head member)]
      rfl

/-- Live entries of a retirement's record were stored before. -/
theorem Update.retirement_live {participant item : Participant} {now updatedAt : Time}
    {failed : Bool}
    (member : item ∈ ((retirement participant now failed).result session updatedAt).participants)
    (live : item.live = true) : item ∈ session.participants := by
  rcases mem_result member with ⟨before, stored, rfl⟩ | joins
  · cases failed <;>
    · simp only [retirement, revise, put, Bool.false_eq_true, if_true, if_false] at live ⊢
      split at live
      · cases live
      · rwa [if_neg ‹_›]
  · cases failed <;> cases joins

variable (healthy : request.dependencies.Healthy)
include healthy

open SessionService

namespace Request

theorem replaceParticipant_returns {participant : Participant} {state : SessionState}
    {append : Bool} {expiresAt : Option Time} (update : Update) (coherent : Coherent world)
    (same : ∀ now, SessionService.replacement session participant state append expiresAt now =
      update.result session now)
    (stored : world.get session.sessionId = some session) :
    ((request.service configuration).replaceParticipant session participant state append
      expiresAt).Returns world := by
  refine returns_bind coherent (clock_returns healthy) follows_clock ?_
  rintro now after - ⟨-, rfl, -⟩
  rw [same]
  exact Program.returns_bind (repositorySave_returns healthy update stored)
    fun _ _ _ => returns_pure _ _

theorem closeSession_returns {reason : String}
    (cause : request.operation.sweeps = true ∨ request.operation = .reconcileStartup)
    (coherent : Coherent world)
    (stored : world.get session.sessionId = some session) (closable : session.Closable) :
    ((request.service configuration).closeSession session reason).Returns world := by
  refine returns_ite (fun _ => returns_pure _ _) fun notClosed => ?_
  have active := closable.resolve_left notClosed
  refine returns_ofExcept_bind
    (requireSessionTransition_ok (SessionState.edge_closed notClosed)) ?_
  refine returns_bind coherent (clock_returns healthy) follows_clock ?_
  rintro now after reached ⟨-, rfl, -⟩
  have started := (coherent.sessions session (InMemorySessionRepository.get_mem stored).1).started
  refine returns_bind reached (returns_forM fun item _ _ => ?_)
    (follows_retireLive (fun item member isActive => (started item member isActive).cons _)
      (fun _ _ => .swept cause) fun _ _ => trivial) ?_
  · exact returns_ite (fun _ => retireRuntime_returns healthy _) fun _ => returns_pure _ _
  · rintro - between - ⟨quiet, -⟩
    refine returns_ofExcept_bind (mapM_leftParticipant active) ?_
    have stored' : between.get session.sessionId = some session := (quiet.get _).trans stored
    exact Program.returns_bind (repositorySave_returns healthy (.closed reason) stored')
      fun _ _ _ => returns_pure _ _

theorem retireParticipant_returns {participant : Participant} {failed : Bool}
    (cause : request.operation.sweeps = true ∨ request.operation = .reconcileStartup)
    (coherent : Coherent world) (stored : world.get session.sessionId = some session)
    (active : participant.state = .active) :
    ((request.service configuration).retireParticipant session participant failed).Returns
      world := by
  refine returns_bind coherent (retireRuntime_returns healthy _)
    (follows_retireRuntime participant.participantId (.swept cause) fun _ _ => trivial) ?_
  rintro - after reached ⟨quiet, -⟩
  refine returns_bind reached (clock_returns healthy) follows_clock ?_
  rintro now after' reached' ⟨-, rfl, -⟩
  have stored' : (after.observe .clock).get session.sessionId = some session :=
    (quiet.get _).trans stored
  cases failed with
  | true =>
      simp only [if_true]
      exact replaceParticipant_returns healthy (.faulted participant now) reached'
        (fun _ => rfl) stored'
  | false =>
      have left : leftParticipant now participant =
          .ok { participant with state := .left, lastHeartbeat := now } := by
        simp only [leftParticipant, active]
        rfl
      simp only [Bool.false_eq_true, if_false, left]
      exact replaceParticipant_returns healthy (.left participant now) reached'
        (fun _ => rfl) stored'

end Request

end Retirement

/-! ## The sweep -/

section Sweep

variable {configuration : Configuration} {request : Request} {world : World} {session : Session}
variable (healthy : request.dependencies.Healthy) (cause : request.operation.sweeps = true)
include healthy cause

open SessionService

namespace Request

theorem sweepParticipants_returns {now : Time} {stale items : List Participant} (cleaned : Nat)
    (coherent : Coherent world) (read : request.dependencies.Read world now)
    (running : now < session.createdAt + configuration.sessionTtl)
    (idle : ∀ item ∈ stale, item.lastHeartbeat + configuration.participantIdleTimeout ≤ now)
    (stored : world.get session.sessionId = some session)
    (members : ∀ item ∈ items, item ∈ session.participants ∧ item.state = .active)
    (distinct : (items.map Participant.participantId).Nodup)
    (settled : ∀ item ∈ session.participants, item.live = true → item.state = .active) :
    ((request.service configuration).sweepParticipants stale items session cleaned).Returns
      world := by
  induction items generalizing world session cleaned with
  | nil => exact returns_pure _ _
  | cons participant rest inductionHypothesis =>
      obtain ⟨member, active⟩ := members participant List.mem_cons_self
      have restMembers : ∀ item ∈ rest, item ∈ session.participants ∧
          item.state = .active :=
        fun item itemMember => members item (List.mem_cons_of_mem participant itemMember)
      rw [List.map_cons, List.nodup_cons] at distinct
      have continues : ∀ (failed : Bool) (value : Session) (after before : World),
        Coherent after →
          (∃ moment updatedAt,
            value = (Update.retirement participant moment failed).result session updatedAt ∧
              before.Replaces after value ∧ before.history.length ≤ after.history.length) →
          world.history.length ≤ before.history.length →
          ((request.service configuration).sweepParticipants stale rest value
            (cleaned + 1)).Returns after := by
        rintro failed value after before reached ⟨moment, updatedAt, rfl,
          replaces, longer⟩ later
        refine inductionHypothesis (cleaned + 1) reached (read.later (later.trans longer)) ?_
          replaces.1 ?_ distinct.2 ?_
        · rw [Update.result_createdAt]
          exact running
        · intro item itemMember
          exact ⟨Update.retirement_other (restMembers item itemMember).1 fun sameId =>
            distinct.1 (List.mem_map.mpr ⟨item, itemMember, sameId⟩),
              (restMembers item itemMember).2⟩
        · intro item itemMember live
          exact settled item (Update.retirement_live itemMember live) live
      refine returns_ite (fun isStale => ?_) fun _ => ?_
      · refine returns_bind coherent
          (retireParticipant_returns healthy (Or.inl cause) coherent stored active)
          (follows_retireParticipant stored member active (.swept (Or.inl cause))
            (fun moment _ readMoment longer => .left participant moment
              (.idle now (read.later longer) running (idle participant isStale) cause) readMoment)
            fun _ _ => trivial) ?_
        rintro value after reached replaced
        exact continues false value after world reached replaced le_rfl
      · refine returns_bind coherent (inspectOrNone_returns healthy _)
          (follows_inspectOrNone participant.participantId fun _ _ => trivial) ?_
        rintro found after reached ⟨quiet, unready, -⟩
        have stored' : after.get session.sessionId = some session := (quiet.get _).trans stored
        refine returns_ite
          (fun _ => inductionHypothesis cleaned reached (read.later quiet.longer) running stored'
            restMembers distinct.2 settled)
          fun isUnready => ?_
        have failure := unready (by simpa using isUnready)
        refine returns_ite (fun _ => ?_) fun _ => ?_
        · exact Program.returns_bind (closeSession_returns healthy (Or.inl cause) reached stored'
            (Or.inr settled)) fun _ _ _ => returns_pure _ _
        · refine returns_bind reached
            (retireParticipant_returns healthy (Or.inl cause) reached stored' active)
            (follows_retireParticipant stored' member active (.swept (Or.inl cause))
              (fun moment _ readMoment _ => .faulted participant moment cause failure readMoment)
              fun _ _ => trivial) ?_
          rintro value later reached' replaced
          exact continues true value later after reached' replaced quiet.longer

theorem sweepSession_returns (coherent : Coherent world)
    (stored : world.get session.sessionId = some session) (closable : session.Closable) :
    ((request.service configuration).sweepSession session).Returns world := by
  have ids := (coherent.sessions session (InMemorySessionRepository.get_mem stored).1).ids
  refine returns_ite (fun _ => returns_pure _ _) fun notClosed => ?_
  refine returns_bind coherent (clock_returns healthy) follows_clock ?_
  rintro now after reached ⟨shown, rfl, -⟩
  have closes : ∀ reason,
      (do let _ ← (request.service configuration).closeSession session reason; pure 1 :
        ServiceProgram Nat).Returns (world.observe .clock) := fun reason =>
    Program.returns_bind (closeSession_returns healthy (Or.inl cause) reached stored closable)
      fun _ _ _ => returns_pure _ _
  refine returns_ite (fun _ => closes "expired") fun alive => ?_
  refine returns_ite (fun _ => closes "owner_abandoned") fun _ => ?_
  refine sweepParticipants_returns healthy cause 0 reached
    ⟨world.history.length, by simp, shown.symm⟩ ?_ ?_ stored ?_ ?_
      (closable.resolve_left notClosed)
  · simp only [SessionService.due, Bool.or_eq_true, decide_eq_true_eq, not_or, not_le] at alive
    exact alive.2
  · intro item member
    simpa using (List.mem_filter.mp member).2
  · intro item member
    simpa using List.mem_filter.mp member
  · exact ids.sublist (List.filter_sublist.map _)

theorem sweepSessions_returns {sessions : List Session} (coherent : Coherent world)
    (stored : ∀ session ∈ sessions, world.get session.sessionId = some session)
    (distinct : (sessions.map Session.sessionId).Nodup)
    (closable : ∀ session ∈ sessions, session.Closable) :
    ((request.service configuration).sweepSessions sessions).Returns world := by
  induction sessions generalizing world with
  | nil => exact returns_pure _ _
  | cons session rest inductionHypothesis =>
      rw [List.map_cons, List.nodup_cons] at distinct
      have storedSession := stored session List.mem_cons_self
      refine returns_bind coherent (sweepSession_returns healthy cause coherent storedSession
        (closable session List.mem_cons_self))
        (follows_sweepSession cause storedSession fun _ _ => trivial) ?_
      rintro cleaned after reached ⟨final, replaces, settles⟩
      refine Program.returns_bind (inductionHypothesis reached (fun other member => ?_) distinct.2
        fun other member => closable other (List.mem_cons_of_mem session member))
        fun _ _ _ => returns_pure _ _
      have differs : other.sessionId ≠ final.sessionId := by
        rw [settles.sameSession]
        exact fun same => distinct.1 (List.mem_map.mpr ⟨other, member, same⟩)
      rw [replaces.2 _ differs]
      exact stored other (List.mem_cons_of_mem session member)

/-- The sweep returns where every session is closable. -/
theorem sweep_returns (coherent : Coherent world)
    (closable : ∀ session ∈ world.sessions, session.Closable) :
    ((request.service configuration).sweep).Returns world := by
  have ⟨stored, distinct⟩ := Coherent.listed coherent
  refine returns_bind coherent (repositoryList_returns healthy)
    (follows_repositoryList fun _ _ => trivial) ?_
  rintro - after reached ⟨rfl, rfl, -⟩
  exact sweepSessions_returns healthy cause reached stored distinct fun session member =>
    closable session (InMemorySessionRepository.mem_list.mp member)

end Request

end Sweep

/-! ## Startup reconciliation -/

section Reconciliation

variable {configuration : Configuration} {request : Request} {world : World}
variable (healthy : request.dependencies.Healthy) (cause : request.operation = .reconcileStartup)
include healthy

open SessionService

namespace Request

theorem reconcileRuntimes_returns {runtimes : List RuntimeHandle} :
    ((request.service configuration).reconcileRuntimes runtimes).Returns world := by
  induction runtimes generalizing world with
  | nil => exact returns_pure _ _
  | cons runtime rest inductionHypothesis =>
      refine Program.returns_bind (bestEffortRevoke_returns healthy _) fun _ _ _ => ?_
      refine Program.returns_bind (executionRemove_returns healthy _) fun _ _ _ => ?_
      exact Program.returns_bind inductionHypothesis fun _ _ _ => returns_pure _ _

include cause

theorem reconcileSessions_returns {sessions : List Session} (coherent : Coherent world)
    (stored : ∀ session ∈ sessions, world.get session.sessionId = some session)
    (distinct : (sessions.map Session.sessionId).Nodup)
    (closable : ∀ session ∈ sessions, session.Closable) :
    ((request.service configuration).reconcileSessions sessions).Returns world := by
  induction sessions generalizing world with
  | nil => exact returns_pure _ _
  | cons session rest inductionHypothesis =>
      rw [List.map_cons, List.nodup_cons] at distinct
      have storedSession := stored session List.mem_cons_self
      have closableRest : ∀ other ∈ rest, other.Closable :=
        fun other member => closable other (List.mem_cons_of_mem session member)
      refine returns_ite (fun _ => ?_) fun notClosed => ?_
      · exact inductionHypothesis coherent
          (fun other member => stored other (List.mem_cons_of_mem session member)) distinct.2
          closableRest
      · refine returns_bind coherent
          (closeSession_returns healthy (Or.inr cause) coherent storedSession
            (closable session List.mem_cons_self))
          (follows_closeSession storedSession notClosed (by decide) (.restarted cause)
            fun _ _ => trivial) ?_
        rintro value after reached ⟨⟨now, -, rfl, replaces⟩, -⟩
        refine Program.returns_bind (inductionHypothesis reached (fun other member => ?_) distinct.2
          closableRest) fun _ _ _ => returns_pure _ _
        rw [replaces.2 other.sessionId fun same => distinct.1
          (List.mem_map.mpr ⟨other, member, same⟩)]
        exact stored other (List.mem_cons_of_mem session member)

/-- The reconciliation returns where every session is closable. -/
theorem reconcileStartup_returns (coherent : Coherent world)
    (closable : ∀ session ∈ world.sessions, session.Closable) :
    ((request.service configuration).reconcileStartup).Returns world := by
  have ⟨stored, distinct⟩ := Coherent.listed coherent
  refine returns_bind coherent (repositoryList_returns healthy)
    (follows_repositoryList fun _ _ => trivial) ?_
  rintro - after reached ⟨rfl, rfl, -⟩
  refine Program.returns_bind (reconcileSessions_returns healthy cause reached stored distinct
    fun session member => closable session (InMemorySessionRepository.mem_list.mp member))
    fun _ _ _ => ?_
  refine Program.returns_bind (executionList_returns healthy) fun _ _ _ => ?_
  exact Program.returns_bind (reconcileRuntimes_returns healthy) fun _ _ _ => returns_pure _ _

end Request

end Reconciliation

end RetroBrowser.SessionManager
