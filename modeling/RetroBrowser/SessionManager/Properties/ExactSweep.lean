import RetroBrowser.SessionManager.Services.Rounds
import RetroBrowser.SessionManager.Services.Working

/-!
Owns the exact result of a sweep. Contract: where inspections answer alike all
along, a sweep that returns leaves every lobby closed or in order, changes
nothing about those that were in order and counts what it did; so a second sweep
at the same time does nothing.
-/

namespace RetroBrowser.SessionManager

open RetroBrowser.Foundation Program

namespace SessionService

variable {self : SessionService} {world : World} {session : Session} {ready : UUID → Bool}
variable {now : Time}

/-! ## The whole sweep -/

/-- For each lobby that is not closed `now` tells what the clock shows at the start of its own
round, which is where the rounds before it end. -/
def ReadAtRounds (self : SessionService) (start : World) (sessions : List Session)
    (now : UUID → Time) : Prop :=
  ∀ earlier session later, sessions = earlier ++ session :: later →
    session.state ≠ .closed →
    now session.sessionId =
      self.dependencies.clock (self.sweepSessions earlier start).2.history.length

/-- What a sweep makes of these records; `now` tells what the clock showed for each. -/
structure SweptAll (service : SessionService) (ready : UUID → Bool) (start : World)
    (sessions : List Session) (now : UUID → Time) (after : World) : Prop where
  each : ∀ session ∈ sessions, ∃ final, after.get session.sessionId = some final ∧
    Session.SweptAt service ready (now session.sessionId) session final
  others : ∀ id, (∀ session ∈ sessions, session.sessionId ≠ id) →
    after.get id = start.get id

theorem sweepSessions_after {between : World} {cleaned : Nat} (rest : List Session)
    (run : self.sweepSession session world = (.returned cleaned, between)) :
    (self.sweepSessions (session :: rest) world).2 = (self.sweepSessions rest between).2 := by
  have goesOn : self.sweepSessions (session :: rest) world =
      ((fun others => cleaned + others) <$> self.sweepSessions rest) between := bind_returned run
  rw [goesOn, map_after]

/-- A round in front of others whose readings stay. -/
theorem ReadAtRounds.cons {between : World} {cleaned : Nat} {rest : List Session}
    {readings nows : UUID → Time}
    (run : self.sweepSession session world = (.returned cleaned, between))
    (here : readings session.sessionId = self.dependencies.clock world.history.length)
    (there : ∀ item ∈ rest, readings item.sessionId = nows item.sessionId)
    (shown : self.ReadAtRounds between rest nows) :
    self.ReadAtRounds world (session :: rest) readings := by
  intro earlier item later same live
  cases earlier with
  | nil =>
      rw [List.nil_append, List.cons.injEq] at same
      rw [← same.1]
      exact here
  | cons first earlier =>
      rw [List.cons_append, List.cons.injEq] at same
      obtain ⟨own, remaining⟩ := same
      subst own
      have member : item ∈ rest := by
        rw [remaining]
        exact List.mem_append_right earlier List.mem_cons_self
      rw [there item member, sweepSessions_after earlier run]
      exact shown earlier item later remaining live

/-- A session in front of others that are swept afterwards. -/
theorem SweptAll.cons {between after : World} {rest : List Session} {readings nows : UUID → Time}
    {final : Session} (other : ∀ item ∈ rest, item.sessionId ≠ session.sessionId)
    (replaces : world.Replaces between final)
    (swept : Session.SweptAt self ready (readings session.sessionId) session final)
    (there : ∀ item ∈ rest, readings item.sessionId = nows item.sessionId)
    (all : self.SweptAll ready between rest nows after) :
    self.SweptAll ready world (session :: rest) readings after where
  each := by
    intro item member
    rcases List.mem_cons.mp member with rfl | member
    · refine ⟨final, ?_, swept⟩
      rw [all.others _ other, ← swept.sameId]
      exact replaces.1
    · rw [there item member]
      exact all.each item member
  others := by
    intro id absent
    have elsewhere := absent session List.mem_cons_self
    rw [all.others id fun item member => absent item (List.mem_cons_of_mem _ member)]
    exact replaces.2 id (by rw [swept.sameId]; exact Ne.symm elsewhere)

/-- The loop over sessions, by induction on those still to come. -/
theorem ensures_sweepSessions (steady : self.dependencies.Steady ready) {sessions : List Session}
    (stored : ∀ session ∈ sessions, world.get session.sessionId = some session)
    (apart : (sessions.map Session.sessionId).Nodup)
    (distinct : ∀ session ∈ sessions,
      (session.participants.map Participant.participantId).Nodup) :
    (self.sweepSessions sessions).Ensures (onReturn fun count after => ∃ now,
      self.SweptAll ready world sessions now after ∧ self.ReadAtRounds world sessions now ∧
        count = (sessions.map fun session =>
          self.cleaned ready session (now session.sessionId)).sum) world := by
  induction sessions generalizing world with
  | nil =>
      refine ⟨fun _ => 0, ⟨fun _ => by simp, fun _ _ => rfl⟩, ?_, rfl⟩
      intro earlier session later same
      simp at same
  | cons session rest inductionHypothesis =>
      rw [List.map_cons, List.nodup_cons] at apart
      have found := stored session List.mem_cons_self
      refine ensures_bind.mpr ((ensures_sweepSession steady found
        (distinct session List.mem_cons_self)).ran.mono ?_ (fun _ _ _ => trivial)
          fun _ _ => trivial)
      intro first between ⟨⟨now, final, shown, replaces, swept, counted⟩, run⟩
      have other : ∀ item ∈ rest, item.sessionId ≠ session.sessionId :=
        fun item member same =>
        apart.1 (same ▸ List.mem_map_of_mem member)
      have stored' : ∀ item ∈ rest, between.get item.sessionId = some item := by
        intro item member
        rw [replaces.2 _ (by rw [swept.sameId]; exact other item member)]
        exact stored item (List.mem_cons_of_mem _ member)
      refine ensures_bind.mpr ((inductionHypothesis stored' apart.2 fun item member =>
        distinct item (List.mem_cons_of_mem _ member)).mono ?_ (fun _ _ _ => trivial)
          fun _ _ => trivial)
      intro others after ⟨nows, all, shownAll, countedAll⟩
      let readings : UUID → Time := fun id => if id = session.sessionId then now else nows id
      have here : readings session.sessionId = now := if_pos rfl
      have there : ∀ item ∈ rest, readings item.sessionId = nows item.sessionId :=
        fun item member => if_neg (other item member)
      refine ⟨readings, SweptAll.cons other replaces (here.symm ▸ swept) there all,
        ReadAtRounds.cons run (here.trans shown) there shownAll, ?_⟩
      · show first + others = _
        rw [List.map_cons, List.sum_cons, here, counted, countedAll]
        congr 2
        exact List.map_congr_left fun item member => by rw [there item member]

/-! ## A second sweep -/

/-- Records and runtimes are the same. -/
structure Untouched (before after : World) : Prop where
  sessions : after.sessions = before.sessions
  runtimes : after.runtimes = before.runtimes

theorem Untouched.trans {before between after : World} (first : Untouched before between)
    (second : Untouched between after) : Untouched before after :=
  ⟨second.sessions.trans first.sessions, second.runtimes.trans first.runtimes⟩

/-- A program that touches nothing and, where every dependency works, returns `value`. -/
def idling {α : Type} (self : SessionService) (value : α) (world : World) : Post World Error α :=
  ⟨fun returned after => returned = value ∧ Untouched world after,
    fun _ after => Untouched world after ∧ ¬ self.dependencies.Healthy,
    fun after => Untouched world after ∧ ¬ self.dependencies.Healthy⟩

theorem idling_bind {α β : Type} {program : ServiceProgram β} {next : β → ServiceProgram α}
    {middle : β} {value : α} (first : program.Ensures (idling self middle world) world)
    (rest : ∀ after, (next middle).Ensures (idling self value after) after) :
    (program >>= next).Ensures (idling self value world) world := by
  refine ensures_bind.mpr (first.mono ?_ (fun _ _ => id) fun _ => id)
  intro returned after ⟨same, untouched⟩
  subst same
  exact (rest after).mono (fun _ _ ⟨same, later⟩ => ⟨same, untouched.trans later⟩)
    (fun _ _ ⟨later, sick⟩ => ⟨untouched.trans later, sick⟩)
    fun _ ⟨later, sick⟩ => ⟨untouched.trans later, sick⟩

theorem idle_outcome {α : Type} {program : ServiceProgram α} {value : α}
    (idle : program.Ensures (idling self value world) world) :
    Untouched world (program world).2 ∧
      (∀ other, (program world).1 = .returned other → other = value) ∧
      (self.dependencies.Healthy → (program world).1 = .returned value) := by
  unfold Program.Ensures at idle
  rcases run : program world with ⟨outcome, after⟩
  rw [run] at idle
  cases outcome with
  | returned result =>
      obtain ⟨same, untouched⟩ := idle
      exact ⟨untouched, fun other equal => (Outcome.returned.inj equal).symm.trans same,
        fun _ => congrArg _ same⟩
  | raised error =>
      exact ⟨idle.1, fun _ same => (by cases same), fun healthy => absurd healthy idle.2⟩
  | stopped =>
      exact ⟨idle.1, fun _ same => (by cases same), fun healthy => absurd healthy idle.2⟩

theorem not_healthy_of_stops {index : Nat} (stops : self.dependencies.stops index = true) :
    ¬ self.dependencies.Healthy := by
  intro healthy
  rw [healthy.running] at stops
  cases stops

theorem idling_inspectOrNone (steady : self.dependencies.Steady ready) {participantId : UUID}
    (isReady : ready participantId = true) :
    (self.inspectOrNone participantId).Ensures
      ⟨fun runtime after => runtime.any RuntimeHandle.ready = true ∧ Untouched world after,
        (idling self () world).raised, (idling self () world).stopped⟩ world := by
  refine ensures_tryCatch.mpr (ensures_map.mpr (ensures_executionInspect ?_ ?_ ?_))
  · intro handle shown answers
    exact ⟨(steady.answers _ _ _ (answers.inspected shown)).trans isReady, rfl, rfl⟩
  · intro error applied _ raises
    refine ensures_ite.mpr ⟨fun orchestration => ?_, fun other =>
      ⟨⟨rfl, rfl⟩, fun healthy => ?_⟩⟩
    · rw [steady.missing _ _ _ raises.inspected orchestration] at isReady
      cases isReady
    · cases raises with
      | planned plan | without _ plan _ =>
          rw [healthy.noFault] at plan
          cases plan
      | refused _ answer => exact other (healthy.inspects _ _ _ answer)
  · exact fun stops => ⟨⟨rfl, rfl⟩, not_healthy_of_stops stops⟩

theorem idling_sweepParticipants (steady : self.dependencies.Steady ready)
    {stale items : List Participant} (cleaned : Nat)
    (sound : ∀ item ∈ items, item ∉ stale ∧ ready item.participantId = true) :
    (self.sweepParticipants stale items session cleaned).Ensures (idling self cleaned world)
      world := by
  induction items generalizing world with
  | nil => exact ⟨rfl, rfl, rfl⟩
  | cons participant rest inductionHypothesis =>
      have ⟨fresh, isReady⟩ := sound participant List.mem_cons_self
      refine ensures_ite.mpr ⟨fun idle => absurd idle fresh, fun _ => ?_⟩
      refine ensures_bind.mpr ((idling_inspectOrNone steady isReady).mono ?_ (fun _ _ => id)
        fun _ => id)
      intro runtime after ⟨shown, untouched⟩
      refine ensures_ite.mpr ⟨fun _ => ?_, fun unready => absurd shown unready⟩
      exact (inductionHypothesis fun item later => sound item (List.mem_cons_of_mem _ later)).mono
        (fun _ _ ⟨same, later⟩ => ⟨same, untouched.trans later⟩)
        (fun _ _ ⟨later, sick⟩ => ⟨untouched.trans later, sick⟩)
        fun _ ⟨later, sick⟩ => ⟨untouched.trans later, sick⟩

theorem idling_sweepSession (steady : self.dependencies.Steady ready)
    (calm : session.state = .closed ∨
      ∀ index, session.InOrder self.configuration ready (self.dependencies.clock index)) :
    (self.sweepSession session).Ensures (idling self 0 world) world := by
  refine ensures_ite.mpr ⟨fun _ => ⟨rfl, rfl, rfl⟩, fun live => ?_⟩
  have order := calm.resolve_left live world.history.length
  have read : self.clock.Ensures
      (idling self (self.dependencies.clock world.history.length) world) world :=
    ensures_clock (fun _ => ⟨rfl, rfl, rfl⟩) fun stops =>
      ⟨⟨rfl, rfl⟩, not_healthy_of_stops stops⟩
  refine idling_bind read fun after => ?_
  generalize self.dependencies.clock world.history.length = now at order ⊢
  have goesOn := (idle_of_inOrder order).2
  rw [closes, Bool.or_eq_false_iff, Bool.or_eq_false_iff] at goesOn
  obtain ⟨⟨running, present⟩, _⟩ := goesOn
  refine ensures_ite.mpr ⟨fun isDue => absurd isDue (by simp [running]), fun _ => ?_⟩
  refine ensures_ite.mpr ⟨fun abandoned => absurd abandoned (by simp [present]), fun _ => ?_⟩
  refine idling_sweepParticipants steady 0 fun item inside => ?_
  obtain ⟨member, active⟩ := mem_activeParticipants.mp inside
  obtain ⟨recent, isReady⟩ := order.active item member active
  exact ⟨fun isStale => absurd recent (not_lt.mpr (mem_staleParticipants.mp isStale).2),
    isReady⟩

theorem idling_sweepSessions (steady : self.dependencies.Steady ready) {sessions : List Session}
    (calm : ∀ session ∈ sessions, session.state = .closed ∨
      ∀ index, session.InOrder self.configuration ready (self.dependencies.clock index)) :
    (self.sweepSessions sessions).Ensures (idling self 0 world) world := by
  induction sessions generalizing world with
  | nil => exact ⟨rfl, rfl, rfl⟩
  | cons session rest inductionHypothesis =>
      refine idling_bind (idling_sweepSession steady (calm session List.mem_cons_self))
        fun between => ?_
      refine idling_bind (inductionHypothesis fun item member =>
        calm item (List.mem_cons_of_mem _ member)) fun after => ?_
      exact ⟨rfl, rfl, rfl⟩

theorem idling_sweep (steady : self.dependencies.Steady ready)
    (calm : ∀ session ∈ world.sessions, session.state = .closed ∨
      ∀ index, session.InOrder self.configuration ready (self.dependencies.clock index)) :
    self.sweep.Ensures (idling self 0 world) world := by
  have listed : self.repositoryList.Ensures
      (idling self (InMemorySessionRepository.list world.sessions) world) world := by
    refine ensures_repositoryList ⟨fun _ => ⟨rfl, rfl, rfl⟩, fun error applied _ plan => ?_,
      fun stops => ⟨⟨rfl, rfl⟩, not_healthy_of_stops stops⟩⟩
    refine ⟨by rw [ite_self]; exact ⟨rfl, rfl⟩, fun healthy => ?_⟩
    rw [healthy.noFault] at plan
    cases plan
  refine idling_bind listed fun after => idling_sweepSessions steady fun session member => ?_
  exact calm session (InMemorySessionRepository.mem_list.mp member)

end SessionService

/-! ## Every sweep that returns -/

/-- Records under distinct identifiers, with entries under distinct identifiers. -/
structure World.Identified (world : World) : Prop where
  sessions : (world.sessions.map Session.sessionId).Nodup
  entries : ∀ session ∈ world.sessions,
    (session.participants.map Participant.participantId).Nodup

theorem Coherent.identified {world : World} (coherent : Coherent world) : world.Identified where
  sessions := coherent.sessionIds
  entries session stored := (coherent.sessions session stored).ids

/-- The number of lobbies that were not closed before and are closed after. -/
def World.closings (before after : World) : Nat :=
  before.sessions.countP fun session =>
    session.state ≠ .closed ∧ (after.get session.sessionId).any fun final =>
      final.state = .closed

/-- The number of participants that a sweep retires one by one. -/
def World.retirements (before : World) (service : SessionService) (ready : UUID → Bool)
    (now : UUID → Time) : Nat :=
  (before.sessions.map fun session => if session.state = .closed then 0
    else (service.retires ready session (now session.sessionId)).length).sum

/-- The exact result of a sweep, where `now` tells what the clock showed for each session. -/
structure World.SweptExactly (service : SessionService) (ready : UUID → Bool) (before : World)
    (now : UUID → Time) (count : Nat) (after : World) : Prop
    extends SessionService.SweptAll service ready before before.sessions now after where
  shown : service.ReadAtRounds (before.observe .repositoryList)
    (InMemorySessionRepository.list before.sessions) now
  sameRecords : after.sessions.map Session.sessionId = before.sessions.map Session.sessionId
  counted : count = before.closings after + before.retirements service ready now
  /-- A second sweep at the same time changes nothing; if it returns, it returns 0. -/
  again : ∀ later : Dependencies, later.Steady ready →
    (∀ index, ∀ session ∈ before.sessions, session.state ≠ .closed →
      later.clock index ≤ now session.sessionId) →
    let second := SessionService.sweep ⟨service.configuration, later⟩ after
    SessionService.Untouched after second.2 ∧
      (∀ value, second.1 = .returned value → value = 0) ∧
      (later.Healthy → second.1 = .returned 0)

section Runs

variable {self : SessionService} {ready : UUID → Bool} {before after : World}
  {now : UUID → Time}

/-- Whoever is in order stays so at any earlier instant. -/
theorem Session.InOrder.earlier {configuration : Configuration} {session : Session}
    {time sooner : Time} (order : session.InOrder configuration ready time)
    (before : sooner ≤ time) : session.InOrder configuration ready sooner where
  lease := lt_of_le_of_lt before order.lease
  lifetime := lt_of_le_of_lt before order.lifetime
  owner := order.owner
  active item member active :=
    ⟨lt_of_le_of_lt before (order.active item member active).1,
      (order.active item member active).2⟩

/-- The rounds close what is closed afterwards. -/
theorem SessionService.SweptAll.counted
    (all : self.SweptAll ready before before.sessions now after) :
    (before.sessions.map fun session =>
      self.cleaned ready session (now session.sessionId)).sum =
        before.closings after + before.retirements self ready now := by
  have each := all.each
  unfold World.closings World.retirements
  generalize before.sessions = sessions at each ⊢
  induction sessions with
  | nil => rfl
  | cons session rest inductionHypothesis =>
      have tail := inductionHypothesis fun item member => each item (List.mem_cons_of_mem _ member)
      have ⟨final, found, swept⟩ := each session List.mem_cons_self
      rw [List.map_cons, List.sum_cons, tail, List.countP_cons, List.map_cons, List.sum_cons,
        SessionService.cleaned, found]
      by_cases closed : session.state = .closed
      · simp [closed]
      · have state := (swept.rounds closed).closed
        simp only [closed, if_false, ne_eq, not_false_eq_true, true_and, Option.any_some, state]
        simp only [decide_eq_true_eq]
        omega

/-- After the sweep every lobby is closed or in order. -/
theorem SessionService.SweptAll.calm (identified : before.Identified)
    (all : self.SweptAll ready before before.sessions now after)
    (same : after.sessions.map Session.sessionId = before.sessions.map Session.sessionId)
    {later : Dependencies} (earlier : ∀ index, ∀ session ∈ before.sessions,
      session.state ≠ .closed → later.clock index ≤ now session.sessionId) :
    ∀ session ∈ after.sessions, session.state = .closed ∨
      ∀ index, session.InOrder self.configuration ready (later.clock index) := by
  intro session stored
  have distinct : (after.sessions.map Session.sessionId).Nodup := same ▸ identified.sessions
  have listed : session.sessionId ∈ before.sessions.map Session.sessionId :=
    same ▸ List.mem_map_of_mem stored
  have ⟨old, oldStored, sameId⟩ := List.mem_map.mp listed
  have ⟨final, found, swept⟩ := all.each old oldStored
  have this : after.get session.sessionId = some session :=
    InMemorySessionRepository.get_eq_of_mem distinct stored
  rw [sameId, this] at found
  cases found
  by_cases closed : old.state = .closed
  · rw [swept.closed closed]
    exact .inl closed
  · refine (swept.rounds closed).order.imp id fun order index => ?_
    exact order.earlier (earlier index old oldStored closed)

/-- A sweep that returns did exactly what its rules say, and a second one finds
nothing left to do. -/
theorem sweep_exact (self : SessionService) (ready : UUID → Bool) (before after : World)
    (count : Nat) (identified : before.Identified) (steady : self.dependencies.Steady ready)
    (returned : self.sweep before = (.returned count, after)) :
    ∃ now, before.SweptExactly self ready now count after := by
  have perm : (InMemorySessionRepository.list before.sessions).Perm before.sessions :=
    List.perm_insertionSort _ _
  have stored : ∀ session ∈ InMemorySessionRepository.list before.sessions,
      before.get session.sessionId = some session := fun session member =>
    InMemorySessionRepository.get_eq_of_mem identified.sessions (perm.mem_iff.mp member)
  have swept : self.sweep.Ensures (onReturn fun count after => ∃ now,
      self.SweptAll ready (before.observe .repositoryList)
        (InMemorySessionRepository.list before.sessions) now after ∧
      self.ReadAtRounds (before.observe .repositoryList)
        (InMemorySessionRepository.list before.sessions) now ∧
      count = ((InMemorySessionRepository.list before.sessions).map fun session =>
        self.cleaned ready session (now session.sessionId)).sum) before := by
    refine ensures_bind.mpr (SessionService.ensures_repositoryList
      ⟨fun _ => ?_, fun _ _ _ _ => trivial, fun _ => trivial⟩)
    exact SessionService.ensures_sweepSessions steady stored
      ((perm.map _).nodup_iff.mpr identified.sessions)
      fun session member => identified.entries session (perm.mem_iff.mp member)
  have result : (self.sweep before).1 = .returned count := by rw [returned]
  have ⟨now, listed, shown, counted⟩ := swept.ofReturned result
  rw [returned] at listed
  have all : self.SweptAll ready before before.sessions now after :=
    ⟨fun session member => listed.each session (perm.mem_iff.mpr member),
      fun id absent => listed.others id fun session member =>
        absent session (perm.mem_iff.mp member)⟩
  have same : after.sessions.map Session.sessionId = before.sessions.map Session.sessionId := by
    have kept : World.sameRecords.Keeps before (self.sweep before).2 :=
      (SessionService.saving_sweep SessionService.saves_sameRecords before).1
    rw [returned] at kept
    exact kept
  refine ⟨now, { all with
    shown := shown, sameRecords := same, counted := ?_, again :=
      fun later steady' earlier => ?_ }⟩
  · rw [counted, ← all.counted]
    exact (perm.map _).sum_nat
  · let service : SessionService := ⟨self.configuration, later⟩
    have idle : service.sweep.Ensures (SessionService.idling service 0 after) after :=
      SessionService.idling_sweep steady' (all.calm identified same earlier)
    exact SessionService.idle_outcome idle

/-- The sweep one minute after the last sign of life. -/
def minuteLater : SessionService := ⟨.default, Dependencies.fakes fun _ => 60000000⟩

/-- An owner who is idle for a minute loses the lobby. -/
theorem abandoned_lobby_swept : ∃ now, createdLobby.SweptExactly minuteLater (fun _ => true) now 1
    (minuteLater.sweep createdLobby).2 := by
  have steady : minuteLater.dependencies.Steady fun _ => true := by
    constructor
    · intro _ _ handle answer
      exact Except.ok.inj answer ▸ rfl
    · intro _ _ _ answer
      cases answer
  have outcome : (minuteLater.sweep createdLobby).1 = .returned 1 := by decide +kernel
  have returned : minuteLater.sweep createdLobby =
      (.returned 1, (minuteLater.sweep createdLobby).2) := by rw [← outcome]
  exact sweep_exact minuteLater (fun _ => true) createdLobby (minuteLater.sweep createdLobby).2 1
    createdLobby_reachable.coherent.identified steady returned

end Runs

end RetroBrowser.SessionManager
