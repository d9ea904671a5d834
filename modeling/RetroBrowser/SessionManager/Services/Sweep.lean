import RetroBrowser.SessionManager.Services.Retirement

/-!
Owns the sweep and the startup reconciliation. Contract: a sweep that returns
leaves every stored session *settled*: what was over is closed, who was idle is
retired, and so is every participant whose runtime no inspection found ready.
-/

namespace RetroBrowser.SessionManager

open RetroBrowser.Foundation ActionSystem

/-- What the loop over `items` made of `current`. -/
structure Session.Swept (dependencies : Dependencies) (stale items : List Participant)
    (current final : Session) : Prop where
  sameSession : final.sessionId = current.sessionId
  terminal : ∀ item ∈ current.participants, item.state.terminal = true →
    item ∈ final.participants
  retired : ∀ item ∈ items,
    (item ∈ stale ∨ ¬ dependencies.FindsReady item.participantId) →
    ∃ entry ∈ final.participants,
      entry.participantId = item.participantId ∧ entry.state.terminal = true
  ownerFailed : ∀ item ∈ items, item ∉ stale → item.userId = current.ownerUserId →
    ¬ dependencies.FindsReady item.participantId → final.state = .closed

/-- What one round of the sweep makes of a stored session. -/
inductive SessionService.Settles (self : SessionService) (session final : Session) : Prop
  | closed (state : session.state = .closed) (same : final = session)
  | ended (now : Time) (shown : self.dependencies.Shows now)
      (cause : self.due session now = true ∨ self.ownerAbandoned session now = true)
      (sameSession : final.sessionId = session.sessionId) (state : final.state = .closed)
  | kept (now : Time) (shown : self.dependencies.Shows now)
      (running : self.due session now = false) (owned : self.ownerAbandoned session now = false)
      (swept : Session.Swept self.dependencies (self.staleParticipants session now)
        (SessionService.activeParticipants session) session final)

theorem SessionService.Settles.sameSession {self : SessionService} {session final : Session}
    (settles : self.Settles session final) : final.sessionId = session.sessionId := by
  cases settles with
  | closed _ same => rw [same]
  | ended _ _ _ sameSession _ => exact sameSession
  | kept _ _ _ _ swept => exact swept.sameSession

namespace Update

/-- The entry a retirement stores is terminal. -/
theorem retirement_terminal {session : Session} {participant : Participant} (now updatedAt : Time)
    (failed : Bool) (member : participant ∈ session.participants) :
    ∃ entry ∈ ((retirement participant now failed).result session updatedAt).participants,
      entry.participantId = participant.participantId ∧ entry.state.terminal = true := by
  refine ⟨_, revised_mem _ updatedAt member, ?_⟩
  cases failed <;> simp [retirement, revise, put, ParticipantState.terminal]

/-- A retirement leaves the other entries as they are. -/
theorem retirement_other {session : Session} {participant item : Participant}
    {now updatedAt : Time} {failed : Bool} (member : item ∈ session.participants)
    (other : item.participantId ≠ participant.participantId) :
    item ∈ ((retirement participant now failed).result session updatedAt).participants := by
  rw [result_participants]
  refine List.mem_append_left _ (List.mem_map.mpr ⟨item, member, ?_⟩)
  cases failed <;> simp [retirement, revise, put, other]

end Update

/-- Going on after one retirement. -/
theorem Session.Swept.after_retirement {dependencies : Dependencies}
    {stale rest : List Participant} {session value final : Session} {participant : Participant}
    {now updatedAt : Time} {failed : Bool}
    (swept : Session.Swept dependencies stale rest value final)
    (same : value = (Update.retirement participant now failed).result session updatedAt)
    (distinct : (session.participants.map Participant.participantId).Nodup)
    (member : participant ∈ session.participants) (active : participant.state = .active)
    (guest : participant ∉ stale → participant.userId ≠ session.ownerUserId) :
    Session.Swept dependencies stale (participant :: rest) session final where
  sameSession := by rw [swept.sameSession, same, Update.result_sessionId]
  terminal := by
    intro item itemMember ended
    refine swept.terminal item ?_ ended
    rw [same]
    refine Update.retirement_other itemMember fun sameId => ?_
    rw [eq_of_key distinct itemMember member sameId, active] at ended
    cases ended
  retired := by
    intro item itemMember cause
    rcases List.mem_cons.mp itemMember with rfl | later
    · obtain ⟨entry, entryMember, entryId, ended⟩ :=
        Update.retirement_terminal now updatedAt failed member
      rw [← same] at entryMember
      exact ⟨entry, swept.terminal entry entryMember ended, entryId, ended⟩
    · exact swept.retired item later cause
  ownerFailed := by
    intro item itemMember fresh owner unready
    rcases List.mem_cons.mp itemMember with rfl | later
    · exact absurd owner (guest fresh)
    · refine swept.ownerFailed item later fresh ?_ unready
      rw [same, Update.result_ownerUserId]
      exact owner

/-- Closing the session ends the loop. -/
theorem Session.Swept.of_closed {dependencies : Dependencies} {stale items : List Participant}
    {session : Session} {reason : String} {now : Time}
    (members : ∀ item ∈ items, item ∈ session.participants) :
    Session.Swept dependencies stale items session ((Update.closed reason).result session now) where
  sameSession := rfl
  terminal := by
    intro item itemMember ended
    refine List.mem_map.mpr ⟨item, itemMember, ?_⟩
    rw [Update.retire, if_pos ended]
  retired := by
    intro item itemMember _
    refine ⟨Update.retire now item, List.mem_map_of_mem (members item itemMember), ?_,
      Update.retire_terminal now item⟩
    unfold Update.retire
    split <;> rfl
  ownerFailed _ _ _ _ _ := rfl

theorem World.Replaces.trans {before between after : World} {session value final : Session}
    (first : before.Replaces between value) (second : between.Replaces after final)
    (sameValue : value.sessionId = session.sessionId)
    (sameFinal : final.sessionId = session.sessionId) : before.Replaces after final := by
  refine ⟨second.1, fun id other => (second.2 id other).trans (first.2 id ?_)⟩
  rwa [sameValue, ← sameFinal]

section Sweep

variable {configuration : Configuration} {request : Request} {start world : World}
variable {session : Session} {onError : Error → World → Prop}

/-- The loop over the active participants, by induction on those still to come. -/
theorem Request.follows_sweepParticipants {now : Time} {stale items : List Participant}
    (cleaned : Nat) (cause : request.operation.sweeps = true)
    (read : request.dependencies.Read world now)
    (running : now < session.createdAt + configuration.sessionTtl)
    (idle : ∀ item ∈ stale,
      item.lastHeartbeat + configuration.participantIdleTimeout ≤ now)
    (stored : world.get session.sessionId = some session)
    (members : ∀ item ∈ items, item ∈ session.participants ∧ item.state = .active)
    (distinct : (items.map Participant.participantId).Nodup)
    (failed : ∀ error after, onError error after) :
    request.Follows configuration start world
      ((request.service configuration).sweepParticipants stale items session cleaned)
      (fun _ later => ∃ final, world.Replaces later final ∧
        Session.Swept request.dependencies stale items session final) onError := by
  induction items generalizing world session cleaned with
  | nil => exact follows_pure ⟨session, ⟨stored, fun _ _ => rfl⟩,
      ⟨rfl, fun _ member _ => member, by simp, by simp⟩⟩
  | cons participant rest inductionHypothesis =>
      refine follows_of_invariant fun coherent => ?_
      have ids := (coherent.sessions session (InMemorySessionRepository.get_mem stored).1).ids
      obtain ⟨member, active⟩ := members participant List.mem_cons_self
      have restMembers : ∀ item ∈ rest, item ∈ session.participants ∧
          item.state = .active :=
        fun item itemMember => members item (List.mem_cons_of_mem participant itemMember)
      rw [List.map_cons, List.nodup_cons] at distinct
      -- After a retirement the loop goes on with the replaced record.
      have continues : ∀ (isFailed : Bool) (value : Session) (after : World)
        (moment updatedAt : Time),
          value = (Update.retirement participant moment isFailed).result session updatedAt →
          world.Replaces after value →
          (participant ∉ stale → participant.userId ≠ session.ownerUserId) →
          world.history.length ≤ after.history.length →
          request.Follows configuration start after
            ((request.service configuration).sweepParticipants stale rest value (cleaned + 1))
            (fun _ later => ∃ final, world.Replaces later final ∧
              Session.Swept request.dependencies stale (participant :: rest) session final)
            onError := by
        intro isFailed value after moment updatedAt same replaces guest longer
        refine (inductionHypothesis (cleaned + 1) (read.later longer) ?_ replaces.1 ?_
          distinct.2).weakenValue ?_
        · rw [same, Update.result_createdAt]
          exact running
        · intro item itemMember
          refine ⟨?_, (restMembers item itemMember).2⟩
          rw [same]
          exact Update.retirement_other (restMembers item itemMember).1
            fun sameId => distinct.1 (List.mem_map.mpr ⟨item, itemMember, sameId⟩)
        · rintro - later ⟨final, replaced, swept⟩
          have sameValue : value.sessionId = session.sessionId := by
            rw [same, Update.result_sessionId]
          exact ⟨final, replaces.trans replaced sameValue (swept.sameSession.trans sameValue),
            swept.after_retirement same ids member active guest⟩
      unfold SessionService.sweepParticipants
      by_cases isStale : participant ∈ stale
      · rw [if_pos isStale]
        refine follows_bind (follows_retireParticipant stored member active (.swept (Or.inl cause))
          (fun moment between readMoment longer => .left participant moment
            (.idle now (read.later longer) running (idle participant isStale) cause) readMoment)
          failed) ?_
        rintro value after - ⟨moment, updatedAt, same, replaces, longer⟩
        exact continues false value after moment updatedAt same replaces (absurd isStale) longer
      · rw [if_neg isStale]
        refine follows_bind (follows_inspectOrNone participant.participantId failed) ?_
        rintro found after - ⟨quiet, unready, ready⟩
        have stored' : after.get session.sessionId = some session := (quiet.get _).trans stored
        by_cases isReady : found.any RuntimeHandle.ready = true
        · rw [if_pos isReady]
          refine (inductionHypothesis cleaned (read.later quiet.longer) running stored' restMembers
            distinct.2).weakenValue ?_
          rintro - later ⟨final, replaces, swept⟩
          refine ⟨final, quiet.replaces replaces, swept.sameSession, swept.terminal, ?_, ?_⟩
          · intro item itemMember reason
            rcases List.mem_cons.mp itemMember with rfl | others
            · exact absurd (ready isReady) (reason.resolve_left isStale)
            · exact swept.retired item others reason
          · intro item itemMember fresh owner notReady
            rcases List.mem_cons.mp itemMember with rfl | others
            · exact absurd (ready isReady) notReady
            · exact swept.ownerFailed item others fresh owner notReady
        · rw [if_neg isReady]
          have failure := unready (by simpa using isReady)
          by_cases isOwner : participant.userId = session.ownerUserId
          · rw [if_pos isOwner]
            have notClosed : session.state ≠ .closed := by
              have shape := (coherent.sessions session
                (InMemorySessionRepository.get_mem stored).1).shape
              rw [shape.open_of_active member active]
              decide
            refine follows_bind (follows_closeSession stored' notClosed (by decide)
              (.ownerFailed participant member active isOwner failure cause) failed) ?_
            rintro value later - ⟨⟨moment, -, rfl, replaces⟩, -⟩
            exact follows_pure ⟨_, quiet.replaces replaces,
              .of_closed fun item itemMember => (members item itemMember).1⟩
          · rw [if_neg isOwner]
            refine follows_bind (follows_retireParticipant stored' member active
              (.swept (Or.inl cause))
              (fun moment between readMoment _ =>
                .faulted participant moment cause failure readMoment) failed) ?_
            rintro value later - ⟨moment, updatedAt, same, replaces, longer⟩
            exact continues true value later moment updatedAt same (quiet.replaces replaces)
              (fun _ => isOwner) (quiet.longer.trans longer)

/-- One round: the session is settled and no other record changes. -/
theorem Request.follows_sweepSession (cause : request.operation.sweeps = true)
    (stored : world.get session.sessionId = some session)
    (failed : ∀ error after, onError error after) :
    request.Follows configuration start world
      ((request.service configuration).sweepSession session)
      (fun _ later => ∃ final, world.Replaces later final ∧
        (request.service configuration).Settles session final) onError := by
  refine follows_of_invariant fun coherent => ?_
  have ids := (coherent.sessions session (InMemorySessionRepository.get_mem stored).1).ids
  unfold SessionService.sweepSession
  by_cases closed : session.state = .closed
  · rw [if_pos closed]
    exact follows_pure ⟨session, ⟨stored, fun _ _ => rfl⟩, .closed closed rfl⟩
  · rw [if_neg closed]
    refine follows_bind follows_clock ?_
    rintro now after - ⟨shown, rfl, -⟩
    have quiet : world.Quiet (world.observe .clock) := .observe .clock rfl
    have stored' : (world.observe .clock).get session.sessionId = some session := stored
    have closes : ∀ reason, lengthBetween 0 64 reason = true →
        request.Closes configuration start (world.observe .clock) session reason →
        ((request.service configuration).due session now = true ∨
          (request.service configuration).ownerAbandoned session now = true) →
        request.Follows configuration start (world.observe .clock)
          (do let _ ← (request.service configuration).closeSession session reason; pure 1)
          (fun _ later => ∃ final, world.Replaces later final ∧
            (request.service configuration).Settles session final) onError := by
      intro reason length closes elapsed
      refine follows_bind (follows_closeSession stored' closed length closes failed) ?_
      rintro value later - ⟨⟨moment, -, rfl, replaces⟩, -⟩
      exact follows_pure ⟨_, quiet.replaces replaces,
        .ended now ⟨_, shown.symm⟩ elapsed rfl rfl⟩
    have read : request.dependencies.Read (world.observe .clock) now :=
      ⟨world.history.length, by simp, shown.symm⟩
    by_cases due : (request.service configuration).due session now = true
    · rw [if_pos due]
      exact closes "expired" (by decide) (.expired now read due cause) (Or.inl due)
    · rw [if_neg due]
      by_cases abandoned : (request.service configuration).ownerAbandoned session now = true
      · rw [if_pos abandoned]
        exact closes "owner_abandoned" (by decide)
          (.abandoned now read (by simpa using due) abandoned cause) (Or.inr abandoned)
      · rw [if_neg abandoned]
        refine (follows_sweepParticipants 0 cause read ?_ ?_ stored' ?_ ?_ failed).weakenValue ?_
        · have alive := due
          simp only [SessionService.due, Bool.or_eq_true, decide_eq_true_eq,
            not_or, not_le] at alive
          exact alive.2
        · intro item member
          simpa using (List.mem_filter.mp member).2
        · intro item member
          simpa using List.mem_filter.mp member
        · exact ids.sublist (List.filter_sublist.map _)
        · rintro - later ⟨final, replaces, swept⟩
          exact ⟨final, quiet.replaces replaces,
            .kept now ⟨_, shown.symm⟩ (by simpa using due)
            (by simpa using abandoned) swept⟩

/-- The loop over the sessions settles each of them and touches no other. -/
theorem Request.follows_sweepSessions {sessions : List Session}
    (cause : request.operation.sweeps = true)
    (stored : ∀ session ∈ sessions, world.get session.sessionId = some session)
    (distinct : (sessions.map Session.sessionId).Nodup)
    (failed : ∀ error after, onError error after) :
    request.Follows configuration start world
      ((request.service configuration).sweepSessions sessions)
      (fun _ later =>
        (∀ session ∈ sessions, ∃ final, later.get session.sessionId = some final ∧
          (request.service configuration).Settles session final) ∧
        ∀ id, id ∉ sessions.map Session.sessionId → later.get id = world.get id) onError := by
  induction sessions generalizing world with
  | nil => exact follows_pure ⟨by simp, fun _ _ => rfl⟩
  | cons session rest inductionHypothesis =>
      rw [List.map_cons, List.nodup_cons] at distinct
      unfold SessionService.sweepSessions
      refine follows_bind (follows_sweepSession cause (stored session List.mem_cons_self) failed) ?_
      rintro cleaned after - ⟨final, replaces, settles⟩
      have frame : ∀ id, id ≠ session.sessionId → after.get id = world.get id := by
        intro id other
        exact replaces.2 id (by rw [settles.sameSession]; exact other)
      have storedRest : ∀ other ∈ rest, after.get other.sessionId = some other := by
        intro other member
        rw [frame other.sessionId fun same =>
          distinct.1 (List.mem_map.mpr ⟨other, member, same⟩)]
        exact stored other (List.mem_cons_of_mem session member)
      refine follows_bind (inductionHypothesis storedRest distinct.2) ?_
      rintro others later - ⟨settled, untouched⟩
      refine follows_pure ⟨?_, ?_⟩
      · intro other member
        rcases List.mem_cons.mp member with rfl | later'
        · refine ⟨final, ?_, settles⟩
          rw [untouched _ distinct.1, ← settles.sameSession]
          exact replaces.1
        · exact settled other later'
      · intro id outside
        rw [List.map_cons, List.mem_cons, not_or] at outside
        rw [untouched id outside.2, frame id outside.1]

/-- What a listing of the repository is in a coherent world. -/
theorem Coherent.listed (coherent : Coherent world) :
    (∀ session ∈ InMemorySessionRepository.list world.sessions,
      (world.observe .repositoryList).get session.sessionId = some session) ∧
    ((InMemorySessionRepository.list world.sessions).map Session.sessionId).Nodup :=
  ⟨fun _ member => coherent.get_eq_of_mem (InMemorySessionRepository.mem_list.mp member),
    ((List.perm_insertionSort _ _).map Session.sessionId).nodup_iff.mpr coherent.sessionIds⟩

/-- A sweep that returns has settled every session. -/
theorem Request.follows_sweep (cause : request.operation.sweeps = true)
    (failed : ∀ error after, onError error after) :
    request.Follows configuration start world (request.service configuration).sweep
      (fun _ later => ∀ session ∈ world.sessions, ∃ final,
        later.get session.sessionId = some final ∧
          (request.service configuration).Settles session final) onError := by
  refine follows_of_invariant fun coherent => ?_
  have ⟨stored, distinct⟩ := Coherent.listed coherent
  refine follows_bind (follows_repositoryList fun error _ => failed error _) ?_
  rintro - after - ⟨rfl, rfl, -⟩
  refine (follows_sweepSessions cause stored distinct failed).weakenValue ?_
  rintro - later ⟨settled, -⟩ session member
  exact settled session (InMemorySessionRepository.mem_list.mpr member)

end Sweep

/-! ## Startup reconciliation -/

section Reconciliation

variable {configuration : Configuration} {request : Request} {start world : World}
variable {onError : Error → World → Prop}

/-- What closing needs: every live entry has reached `ACTIVE`. -/
def Session.Closable (session : Session) : Prop :=
  session.state = .closed ∨ ∀ item ∈ session.participants, item.live = true →
    item.state = .active

theorem Request.follows_reconcileSessions {sessions : List Session}
    (cause : request.operation = .reconcileStartup)
    (stored : ∀ session ∈ sessions, world.get session.sessionId = some session)
    (distinct : (sessions.map Session.sessionId).Nodup)
    (failed : ∀ error after, onError error after) :
    request.Follows configuration start world
      ((request.service configuration).reconcileSessions sessions)
      (fun _ later =>
        (∀ session ∈ sessions,
          (∃ final, later.get session.sessionId = some final ∧ final.state = .closed) ∧
          session.Closable) ∧
        ∀ id, id ∉ sessions.map Session.sessionId → later.get id = world.get id) onError := by
  induction sessions generalizing world with
  | nil => exact follows_pure ⟨by simp, fun _ _ => rfl⟩
  | cons session rest inductionHypothesis =>
      rw [List.map_cons, List.nodup_cons] at distinct
      have storedSession := stored session List.mem_cons_self
      -- The rest goes on from a world that differs in this session at most.
      have continues : ∀ (after : World) (final : Session), world.Replaces after final →
          final.sessionId = session.sessionId → final.state = .closed → session.Closable →
          request.Follows configuration start after
            ((request.service configuration).reconcileSessions rest)
            (fun _ later =>
              (∀ other ∈ session :: rest,
                (∃ final, later.get other.sessionId = some final ∧ final.state = .closed) ∧
                other.Closable) ∧
              ∀ id, id ∉ (session :: rest).map Session.sessionId →
                later.get id = world.get id) onError := by
        intro after final replaces same closed closable
        have frame : ∀ id, id ≠ session.sessionId → after.get id = world.get id := by
          intro id other
          exact replaces.2 id (by rw [same]; exact other)
        have storedRest : ∀ other ∈ rest, after.get other.sessionId = some other := by
          intro other member
          rw [frame other.sessionId fun same =>
            distinct.1 (List.mem_map.mpr ⟨other, member, same⟩)]
          exact stored other (List.mem_cons_of_mem session member)
        refine (inductionHypothesis storedRest distinct.2).weakenValue ?_
        rintro - later ⟨settled, untouched⟩
        refine ⟨?_, ?_⟩
        · intro other member
          rcases List.mem_cons.mp member with rfl | later'
          · refine ⟨⟨final, ?_, closed⟩, closable⟩
            rw [untouched _ distinct.1, ← same]
            exact replaces.1
          · exact settled other later'
        · intro id outside
          rw [List.map_cons, List.mem_cons, not_or] at outside
          rw [untouched id outside.2, frame id outside.1]
      unfold SessionService.reconcileSessions
      by_cases closed : session.state = .closed
      · rw [if_pos closed]
        exact continues world session ⟨storedSession, fun _ _ => rfl⟩ rfl closed (Or.inl closed)
      · rw [if_neg closed]
        refine follows_bind (follows_closeSession storedSession closed (by decide)
          (.restarted cause) failed) ?_
        rintro value after - ⟨⟨now, -, rfl, replaces⟩, active⟩
        refine follows_bind (continues after _ replaces rfl rfl (Or.inr active)) ?_
        rintro others later - settled
        exact follows_pure settled

theorem Request.follows_reconcileRuntimes {runtimes : List RuntimeHandle}
    (cause : request.operation = .reconcileStartup)
    (failed : ∀ error after, onError error after) :
    request.Follows configuration start world
      ((request.service configuration).reconcileRuntimes runtimes)
      (fun _ later => world.Quiet later ∧
        ∀ id ∈ later.runtimes, id ∉ runtimes.map RuntimeHandle.runtimeId) onError := by
  induction runtimes generalizing world with
  | nil => exact follows_pure ⟨.refl world, by simp⟩
  | cons runtime rest inductionHypothesis =>
      unfold SessionService.reconcileRuntimes
      refine follows_bind (follows_bestEffortRevoke runtime.runtimeId (.swept (Or.inr cause))) ?_
      rintro - after - ⟨applied, returned, rfl⟩
      refine follows_bind (follows_executionRemove runtime.runtimeId (.swept (Or.inr cause))
        fun error _ _ => failed error _) ?_
      rintro - after - rfl
      refine follows_bind inductionHypothesis ?_
      rintro others later - ⟨quiet, gone⟩
      refine follows_pure ⟨?_, fun id exists' => ?_⟩
      · exact (World.Quiet.record _ (by simp)).trans ((World.Quiet.discardRuntime _).trans
          ((World.Quiet.record _ (by simp)).trans quiet))
      · rw [List.map_cons, List.mem_cons, not_or]
        exact ⟨(World.mem_discardRuntime.mp (quiet.runtimes id exists')).2, gone id exists'⟩

/-- A reconciliation that returns leaves every session closed and no runtime,
and every session could be closed. -/
theorem Request.follows_reconcileStartup (cause : request.operation = .reconcileStartup)
    (failed : ∀ error after, onError error after) :
    request.Follows configuration start world (request.service configuration).reconcileStartup
      (fun _ later => later.runtimes = [] ∧
        (∀ session ∈ later.sessions, session.state = .closed) ∧
        ∀ session ∈ world.sessions, session.Closable) onError := by
  refine follows_of_invariant fun coherent => ?_
  have ⟨stored, distinct⟩ := Coherent.listed coherent
  refine follows_bind (follows_repositoryList fun error _ => failed error _) ?_
  rintro - after - ⟨rfl, rfl, -⟩
  refine follows_bind (follows_reconcileSessions cause stored distinct failed) ?_
  rintro closed after reached ⟨settled, untouched⟩
  refine follows_bind (follows_executionList fun error _ => failed error _) ?_
  rintro runtimes after' - ⟨names, rfl, -⟩
  refine follows_bind (follows_reconcileRuntimes cause failed) ?_
  rintro removed later - ⟨quiet, gone⟩
  refine follows_pure ⟨?_, fun session member => ?_, fun session member => ?_⟩
  · refine List.eq_nil_iff_forall_not_mem.mpr fun id exists' => gone id exists' ?_
    rw [names]
    exact quiet.runtimes id exists'
  · rw [quiet.sessions] at member
    have found := Coherent.get_eq_of_mem reached member
    by_cases listed : session.sessionId ∈
        (InMemorySessionRepository.list world.sessions).map Session.sessionId
    · obtain ⟨before, beforeMember, same⟩ := List.mem_map.mp listed
      obtain ⟨⟨final, finalFound, closed⟩, -⟩ := settled before beforeMember
      rw [same, found] at finalFound
      cases finalFound
      exact closed
    · rw [untouched _ listed] at found
      exact absurd (List.mem_map_of_mem
        (InMemorySessionRepository.mem_list.mpr (InMemorySessionRepository.get_mem found).1)) listed
  · exact (settled session (InMemorySessionRepository.mem_list.mpr member)).2

end Reconciliation

end RetroBrowser.SessionManager
