import RetroBrowser.SessionManager.Services.Frames
import RetroBrowser.SessionManager.Services.Working

/-!
Owns how a sweep fails. No round of the sweep handles the errors of another:
the loop goes through the sessions in the order of their creation and ends with
the first error. Contract: a sweep that raises has settled the sessions before
the one that failed and has not touched those after it, and the operations that
sweep first raise the same error; a sweep that returns has settled them all.
-/

namespace RetroBrowser.SessionManager

open RetroBrowser.Foundation ActionSystem

/-! ## One round touches one session -/

/-- Records of other sessions and runtimes of other participants stay as they are. -/
def World.confined (sessionId : UUID) (participantIds : List UUID) : Frame World where
  Keeps before after :=
    (∀ id, id ≠ sessionId → after.get id = before.get id) ∧
      ∀ id, id ∉ participantIds → (id ∈ after.runtimes ↔ id ∈ before.runtimes)
  refl _ := ⟨fun _ _ => rfl, fun _ _ => Iff.rfl⟩
  trans first second := ⟨fun id other => (second.1 id other).trans (first.1 id other),
    fun id outside => (second.2 id outside).trans (first.2 id outside)⟩

/-- A version of the session whose entries have these identifiers. -/
structure Session.Within (sessionId : UUID) (participantIds : List UUID) (session : Session) :
    Prop where
  same : session.sessionId = sessionId
  ids : ∀ item ∈ session.participants, item.participantId ∈ participantIds

namespace SessionService

open Frame

variable {self : SessionService} {sessionId : UUID} {participantIds : List UUID}
variable {session : Session} {participant : Participant}

section Confined

private theorem confined_record (world : World) (event : Event) :
    (World.confined sessionId participantIds).Keeps world (world.record event) :=
  (World.confined sessionId participantIds).refl world

theorem confined_clock :
    (World.confined sessionId participantIds).Holds self.clock fun _ => True := by
  refine holds_ask fun index world => ?_
  unfold observe
  split
  · exact ⟨Frame.refl _ world, trivial⟩
  · exact ⟨confined_record world _, trivial⟩

theorem confined_streamRevoke (participantId : UUID) :
    (World.confined sessionId participantIds).Holds (self.streamRevoke participantId)
      fun _ => True := by
  refine holds_invoke (fun world _ _ => confined_record world _) ?_
  rintro world - after ⟨⟩
  exact Frame.refl _ world

theorem confined_executionRemove {participantId : UUID}
    (inside : participantId ∈ participantIds) :
    (World.confined sessionId participantIds).Holds (self.executionRemove participantId)
      fun _ => True := by
  refine holds_invoke (fun world _ _ => confined_record world _) ?_
  rintro world - after ⟨⟩
  refine ⟨fun _ _ => rfl, fun id outside => ?_⟩
  rw [World.mem_discardRuntime]
  exact and_iff_left fun same => outside (same ▸ inside)

theorem confined_executionInspect (participantId : UUID) :
    (World.confined sessionId participantIds).Holds (self.executionInspect participantId)
      fun _ => True := by
  refine holds_ask fun index => holds_invoke (fun world _ _ => confined_record world _)
    fun before value after answer => ?_
  cases inspected : self.dependencies.runtimeInspected index participantId with
  | ok handle =>
      rw [inspected] at answer
      cases answer
      exact Frame.refl _ before
  | error error =>
      rw [inspected] at answer
      cases answer

theorem confined_repositorySave (updated : Session) (same : updated.sessionId = sessionId)
    (revision : Nat) : (World.confined sessionId participantIds).Holds
      (self.repositorySave updated revision) fun _ => True := by
  refine holds_invoke (fun world _ _ => confined_record world _) ?_
  intro world value after answer
  cases saved : InMemorySessionRepository.save world.sessions updated revision with
  | error error =>
      rw [saved] at answer
      cases answer
  | ok sessions =>
      rw [saved] at answer
      cases answer
      refine ⟨fun id other => ?_, fun _ _ => Iff.rfl⟩
      rw [World.get, InMemorySessionRepository.eq_overwrite_of_save saved]
      exact (InMemorySessionRepository.get_overwrite id).trans (if_neg (same ▸ other))

theorem confined_bestEffortRevoke (participantId : UUID) :
    (World.confined sessionId participantIds).Holds (self.bestEffortRevoke participantId)
      fun _ => True :=
  holds_tryCatch (confined_streamRevoke participantId) fun _ => holds_pure trivial

theorem confined_retireRuntime {participantId : UUID} (inside : participantId ∈ participantIds) :
    (World.confined sessionId participantIds).Holds (self.retireRuntime participantId)
      fun _ => True :=
  holds_bind (confined_bestEffortRevoke participantId) fun _ _ => confined_executionRemove inside

theorem confined_replaceParticipant (within : session.Within sessionId participantIds)
    (inside : participant.participantId ∈ participantIds) (state : SessionState) :
    (World.confined sessionId participantIds).Holds
      (self.replaceParticipant session participant state false none)
      (Session.Within sessionId participantIds) := by
  refine holds_bind confined_clock fun now _ => ?_
  refine holds_bind (confined_repositorySave _ (by exact within.same) _) fun _ _ =>
    holds_pure ⟨within.same, ?_⟩
  intro item member
  obtain ⟨before, stored, rfl⟩ := List.mem_map.mp member
  split
  · exact inside
  · exact within.ids before stored

theorem leftParticipant_id {now : Time} {left : Participant}
    (accepted : leftParticipant now participant = .ok left) :
    left.participantId = participant.participantId := by
  rw [(leftParticipant_ok accepted).1, Update.retire]
  split <;> rfl

theorem confined_retireParticipant (within : session.Within sessionId participantIds)
    (inside : participant.participantId ∈ participantIds) (failed : Bool) :
    (World.confined sessionId participantIds).Holds
      (self.retireParticipant session participant failed)
      (Session.Within sessionId participantIds) := by
  refine holds_bind (confined_retireRuntime inside) fun _ _ => ?_
  refine holds_bind confined_clock fun now _ => ?_
  cases failed with
  | true =>
      simp only [if_true]
      exact holds_pure_bind (confined_replaceParticipant within (by exact inside) session.state)
  | false =>
      simp only [Bool.false_eq_true, if_false]
      refine holds_bind (holds_ofExcept _ fun left accepted => leftParticipant_id accepted) ?_
      intro left sameId
      exact confined_replaceParticipant within (by rwa [sameId]) session.state

theorem confined_closeSession (within : session.Within sessionId participantIds)
    (reason : String) : (World.confined sessionId participantIds).Holds
      (self.closeSession session reason) fun _ => True := by
  unfold closeSession
  refine holds_ite (fun _ => holds_pure trivial) fun _ => ?_
  refine holds_bind (holds_ofExcept _ fun _ _ => trivial) fun _ _ => ?_
  refine holds_bind confined_clock fun now _ => ?_
  refine holds_bind (holds_forM fun item member => ?_) fun _ _ => ?_
  · exact holds_ite (fun _ => confined_retireRuntime (within.ids item member))
      fun _ => holds_pure trivial
  · refine holds_bind (holds_ofExcept _ fun _ _ => trivial) fun _ _ => ?_
    exact holds_bind (confined_repositorySave _ (by exact within.same) _) fun _ _ =>
      holds_pure trivial

theorem confined_inspectOrNone (participantId : UUID) :
    (World.confined sessionId participantIds).Holds (self.inspectOrNone participantId)
      fun _ => True :=
  holds_tryCatch (holds_map (confined_executionInspect participantId) fun _ _ => trivial)
    fun error => holds_ite (fun _ => holds_pure trivial) fun _ => holds_throw error

theorem confined_sweepParticipants {stale items : List Participant} (cleaned : Nat)
    (within : session.Within sessionId participantIds)
    (inside : ∀ item ∈ items, item.participantId ∈ participantIds) :
    (World.confined sessionId participantIds).Holds
      (self.sweepParticipants stale items session cleaned) fun _ => True := by
  induction items generalizing session cleaned with
  | nil => exact holds_pure trivial
  | cons participant rest inductionHypothesis =>
      have first := inside participant List.mem_cons_self
      have others : ∀ item ∈ rest, item.participantId ∈ participantIds :=
        fun item member => inside item (List.mem_cons_of_mem participant member)
      have continues : ∀ failed, (World.confined sessionId participantIds).Holds
          (do
            let current ← self.retireParticipant session participant failed
            self.sweepParticipants stale rest current (cleaned + 1)) fun _ => True :=
        fun failed => holds_bind (confined_retireParticipant within first failed)
          fun current within' => inductionHypothesis (cleaned + 1) within' others
      unfold sweepParticipants
      refine holds_ite (fun _ => continues false) fun _ => ?_
      refine holds_bind (confined_inspectOrNone participant.participantId) fun runtime _ => ?_
      refine holds_ite (fun _ => inductionHypothesis cleaned within others) fun _ => ?_
      refine holds_ite (fun _ => ?_) fun _ => continues true
      exact holds_bind (confined_closeSession within _) fun _ _ => holds_pure trivial

/-- A round of the sweep is confined to its session. -/
theorem confined_sweepSession (within : session.Within sessionId participantIds) :
    (World.confined sessionId participantIds).Holds (self.sweepSession session)
      fun _ => True := by
  unfold sweepSession
  refine holds_ite (fun _ => holds_pure trivial) fun _ => ?_
  refine holds_bind confined_clock fun now _ => ?_
  refine holds_ite (fun _ => holds_bind (confined_closeSession within _) fun _ _ =>
    holds_pure trivial) fun _ => ?_
  refine holds_ite (fun _ => holds_bind (confined_closeSession within _) fun _ _ =>
    holds_pure trivial) fun _ => ?_
  exact confined_sweepParticipants 0 within fun item member =>
    within.ids item (List.mem_of_mem_filter member)

end Confined

/-! ## The loop over the sessions -/

/-- A loop that raises went through some sessions and raised at the next one. -/
theorem sweepSessions_raised {sessions : List Session} {world after : World} {error : Error}
    (run : self.sweepSessions sessions world = (.raised error, after)) :
    ∃ earlier failing later cleaned between, sessions = earlier ++ failing :: later ∧
      self.sweepSessions earlier world = (.returned cleaned, between) ∧
      self.sweepSession failing between = (.raised error, after) := by
  induction sessions generalizing world with
  | nil => cases run
  | cons session rest inductionHypothesis =>
      rw [sweepSessions, Program.bind_apply] at run
      rcases first : self.sweepSession session world with ⟨outcome, between⟩
      rw [first] at run
      cases outcome with
      | returned cleaned =>
          dsimp only at run
          rw [Program.bind_apply] at run
          rcases others : self.sweepSessions rest between with ⟨outcome, later⟩
          rw [others] at run
          cases outcome with
          | raised raised =>
              cases run
              obtain ⟨earlier, failing, behind, count, middle, rfl, settled, raises⟩ :=
                inductionHypothesis others
              refine ⟨session :: earlier, failing, behind, cleaned + count,
                middle, rfl, ?_, raises⟩
              rw [sweepSessions, Program.bind_returned first, Program.bind_returned settled]
              rfl
          | returned _ | stopped => cases run
      | raised raised =>
          cases run
          exact ⟨[], session, rest, 0, world, rfl, rfl, first⟩
      | stopped => cases run

end SessionService

/-- The existence of one runtime stays as it is. -/
def World.runtimeKept (id : UUID) : Frame World where
  Keeps before after := id ∈ after.runtimes ↔ id ∈ before.runtimes
  refl _ := Iff.rfl
  trans first second := second.trans first

namespace SessionService

variable {self : SessionService}

/-- Rounds for other participants' sessions keep a runtime. -/
theorem sweepSessions_keeps_runtime {sessions : List Session} {id : UUID}
    (outside : ∀ session ∈ sessions, ∀ item ∈ session.participants,
      item.participantId ≠ id) :
    (World.runtimeKept id).Holds (self.sweepSessions sessions) fun _ => True := by
  induction sessions with
  | nil => exact Frame.holds_pure trivial
  | cons session rest inductionHypothesis =>
      have within : session.Within session.sessionId
          (session.participants.map Participant.participantId) :=
        ⟨rfl, fun item member => List.mem_map_of_mem member⟩
      have other : id ∉ session.participants.map Participant.participantId := by
        intro member
        obtain ⟨item, stored, same⟩ := List.mem_map.mp member
        exact outside session List.mem_cons_self item stored same
      have round : (World.runtimeKept id).Holds (self.sweepSession session) fun _ => True :=
        fun world => ⟨(confined_sweepSession within world).1.2 id other,
          (confined_sweepSession within world).2⟩
      exact Frame.holds_bind round fun _ _ => Frame.holds_bind
        (inductionHypothesis fun later member =>
          outside later (List.mem_cons_of_mem session member))
          fun _ _ => Frame.holds_pure trivial

/-- How a sweep that raises went: the listing raised, or the round of one
session did, after the sessions created before it were settled and before the
ones created later were looked at. -/
inductive SweepFails (service : SessionService) (world after : World) (error : Error) : Prop
  | unlisted (sessions : after.sessions = world.sessions)
      (runtimes : after.runtimes = world.runtimes)
  | stoppedAt (earlier later : List Session) (failing : Session) (between : World)
      (listed : InMemorySessionRepository.list world.sessions = earlier ++ failing :: later)
      (settled : ∀ session ∈ earlier, ∃ final, after.get session.sessionId = some final ∧
        service.Settles session final)
      (stored : between.get failing.sessionId = some failing)
      (raised : service.sweepSession failing between = (.raised error, after))
      (untouched : ∀ session ∈ later, after.get session.sessionId = some session ∧
        ∀ item ∈ session.participants,
          (item.participantId ∈ after.runtimes ↔ item.participantId ∈ world.runtimes))

end SessionService

section Order

variable {configuration : Configuration} {dependencies : Dependencies} {world after : World}

/-- Entries of different sessions have different identifiers. -/
theorem Coherent.separate (coherent : Coherent world) {session other : Session}
    (member : session ∈ world.sessions) (otherMember : other ∈ world.sessions)
    (different : session.sessionId ≠ other.sessionId) :
    ∀ item ∈ session.participants, ∀ entry ∈ other.participants,
      item.participantId ≠ entry.participantId :=
  fun item itemMember entry entryMember same =>
    different
      (coherent.disjoint session member other otherMember item itemMember entry entryMember same)

/-- The loop over the listed sessions, where it raises. -/
theorem SessionService.sweepSessions_fails (coherent : Coherent world) {error : Error}
    (run : (SessionService.mk configuration dependencies).sweepSessions
      (InMemorySessionRepository.list world.sessions) (world.observe .repositoryList) =
        (.raised error, after)) :
    (SessionService.mk configuration dependencies).SweepFails world after error := by
  obtain ⟨earlier, failing, later, cleaned, between, listed, before, raised⟩ :=
    sweepSessions_raised run
  have ⟨stored, distinct⟩ := coherent.listed
  rw [listed] at stored distinct
  have members : ∀ session ∈ earlier ++ failing :: later, session ∈ world.sessions :=
    fun session member => InMemorySessionRepository.mem_list.mp (listed ▸ member)
  rw [List.map_append, List.map_cons, List.nodup_append, List.nodup_cons] at distinct
  obtain ⟨distinctEarlier, ⟨failingOther, distinctLater⟩, across⟩ := distinct
  have within : failing.Within failing.sessionId
      (failing.participants.map Participant.participantId) :=
    ⟨rfl, fun item member => List.mem_map_of_mem member⟩
  obtain ⟨⟨records, runtimes⟩, -⟩ := confined_sweepSession within between
  rw [raised] at records runtimes
  let request : Request := ⟨.sweep, dependencies⟩
  have rounds : request.Follows configuration world (world.observe .repositoryList)
      ((request.service configuration).sweepSessions earlier) _ fun _ _ => True :=
    Request.follows_sweepSessions rfl
      (fun session member => stored session (List.mem_append_left _ member)) distinctEarlier
      fun _ _ => trivial
  have listedCoherent : Coherent (world.observe .repositoryList) := coherent.record _ (by simp)
  obtain ⟨-, settled, kept⟩ := rounds.returned listedCoherent before
  have failingMember : failing ∈ world.sessions := members failing (by simp)
  have otherId : ∀ session ∈ later, session.sessionId ≠ failing.sessionId :=
    fun session member same => failingOther (List.mem_map.mpr ⟨session, member, same⟩)
  refine .stoppedAt earlier later failing between listed ?_ ?_ raised ?_
  · intro session member
    obtain ⟨final, found, settles⟩ := settled session member
    refine ⟨final, (records _ fun same => ?_).trans found, settles⟩
    exact across _ (List.mem_map_of_mem member) _ List.mem_cons_self same
  · rw [kept]
    · exact stored failing (by simp)
    · exact fun taken => across _ taken _ List.mem_cons_self rfl
  · intro session member
    have sessionMember := members session (by simp [member])
    refine ⟨?_, fun item itemMember => ?_⟩
    · rw [records _ (otherId session member), kept]
      · exact stored session (by simp [member])
      · exact fun taken =>
          across _ taken _ (List.mem_cons_of_mem _ (List.mem_map_of_mem member)) rfl
    · have outside : ∀ other ∈ earlier, ∀ entry ∈ other.participants,
          entry.participantId ≠ item.participantId := by
        intro other otherMember entry entryMember
        refine coherent.separate (members other (by simp [otherMember])) sessionMember
          (fun same => ?_)
          entry entryMember item itemMember
        exact across _ (List.mem_map_of_mem otherMember) _
          (List.mem_cons_of_mem _ (List.mem_map_of_mem member)) same
      have before' : (World.runtimeKept item.participantId).Holds
          ((request.service configuration).sweepSessions earlier) fun _ => True :=
        sweepSessions_keeps_runtime outside
      have unchanged := (before' (world.observe .repositoryList)).1
      rw [show (request.service configuration).sweepSessions earlier _ = _ from before] at unchanged
      refine (runtimes item.participantId fun taken => ?_).trans unchanged
      obtain ⟨entry, entryMember, same⟩ := List.mem_map.mp taken
      exact coherent.separate failingMember sessionMember (otherId session member).symm entry
        entryMember item itemMember same

/-- A sweep that returns has settled every session. A sweep that raises stopped
at one session, and so do the operations that sweep first. -/
theorem sweep_in_creation_order (configuration : Configuration) (dependencies : Dependencies)
    (world : World) (coherent : Coherent world) :
    (∀ cleaned after, SessionService.sweep ⟨configuration, dependencies⟩ world =
        (.returned cleaned, after) →
      ∀ session ∈ world.sessions, ∃ final, after.get session.sessionId = some final ∧
        SessionService.Settles ⟨configuration, dependencies⟩ session final) ∧
    ∀ error after, SessionService.sweep ⟨configuration, dependencies⟩ world =
        (.raised error, after) →
      SessionService.SweepFails ⟨configuration, dependencies⟩ world after error ∧
        SessionService.discover ⟨configuration, dependencies⟩ world = (.raised error, after) ∧
        ∀ actor creation, SessionService.create ⟨configuration, dependencies⟩
          actor creation world =
          (.raised error, after) := by
  let request : Request := ⟨.sweep, dependencies⟩
  have follows : request.Follows configuration world world
      (request.service configuration).sweep _ fun _ _ => True :=
    Request.follows_sweep rfl fun _ _ => trivial
  refine ⟨fun cleaned after run => (follows.returned coherent run).2, fun error after run => ?_⟩
  refine ⟨?_, Program.bind_raised run, fun _ _ => Program.bind_raised run⟩
  have listing : request.Follows configuration world world
      (request.service configuration).repositoryList
      (fun found later => found = InMemorySessionRepository.list world.sessions ∧
        later = world.observe .repositoryList ∧
        request.dependencies.Answers world.history.length .repositoryList)
      (fun _ later => later.sessions = world.sessions ∧ later.runtimes = world.runtimes) :=
    Request.follows_repositoryList fun _ _ => ⟨rfl, rfl⟩
  have meets := (listing coherent).2
  rw [SessionService.sweep, Program.bind_apply] at run
  rcases listed : (request.service configuration).repositoryList world with ⟨outcome, between⟩
  rw [listed] at meets
  rw [show SessionService.repositoryList ⟨configuration, dependencies⟩ world =
    _ from listed] at run
  cases outcome with
  | returned sessions =>
      obtain ⟨rfl, rfl, -⟩ := meets
      exact SessionService.sweepSessions_fails coherent run
  | raised raised =>
      cases run
      exact .unlisted meets.1 meets.2
  | stopped => cases run

end Order

/-! ## Two expired lobbies -/

/-- The second player creates a lobby next to the first one. -/
def twoLobbies : World :=
  (Request.mk (.create secondActor ⟨"Sunday NES", 42, 2⟩) (Dependencies.fakes fun _ => 0)).after
    .default createdLobby

theorem twoLobbies_reachable : Reachable .default twoLobbies :=
  .request createdLobby_reachable
    ⟨.create secondActor ⟨"Sunday NES", 42, 2⟩, Dependencies.fakes fun _ => 0⟩ trivial

/-- A day later, when the runtime of the first lobby cannot be removed. -/
def stuckRemoval : Dependencies :=
  { Dependencies.fakes fun _ => 86400000000 with
    fault := fun _ call =>
      if call = .executionRemove 9 then
        some ⟨.orchestration "runtime agent is unavailable", false⟩
      else none }

/-- A sweep then. -/
def stuckSweep : Outcome Error Nat × World :=
    SessionService.sweep ⟨.default, stuckRemoval⟩ twoLobbies

theorem stuck_sweep_fails :
    SessionService.SweepFails ⟨.default, stuckRemoval⟩ twoLobbies stuckSweep.2
      (.orchestration "runtime agent is unavailable") := by
  have raises : stuckSweep.1 = .raised (.orchestration "runtime agent is unavailable") := by
    decide +kernel
  have run :
      stuckSweep = (.raised (.orchestration "runtime agent is unavailable"), stuckSweep.2) := by
    rw [← raises]
  exact ((sweep_in_creation_order .default stuckRemoval twoLobbies
    twoLobbies_reachable.coherent).2 _ _ run).1

/-- Both lobbies have expired and only the removal for the first one fails. The
sweep leaves both open, although the round of the second one alone would close
it, and neither a listing nor a creation by a third user works. -/
theorem failing_lobby_blocks_the_other :
    Reachable .default twoLobbies ∧
      (∀ session ∈ twoLobbies.sessions,
        SessionService.due ⟨.default, stuckRemoval⟩ session 86400000000 = true) ∧
      stuckSweep.1 = .raised (.orchestration "runtime agent is unavailable") ∧
      stuckSweep.2.sessions = twoLobbies.sessions ∧
      (∀ session ∈ twoLobbies.sessions, session.ownerUserId = "user-2" →
        (SessionService.sweepSession ⟨.default, stuckRemoval⟩ session twoLobbies).1 =
          .returned 1) ∧
      (SessionService.discover ⟨.default, stuckRemoval⟩ twoLobbies).1 =
        .raised (.orchestration "runtime agent is unavailable") ∧
      (SessionService.create ⟨.default, stuckRemoval⟩ ⟨"user-3", "Player 3"⟩
        ⟨"Monday NES", 42, 2⟩ twoLobbies).1 =
          .raised (.orchestration "runtime agent is unavailable") :=
  ⟨twoLobbies_reachable, by decide +kernel, by decide +kernel, by decide +kernel,
    by decide +kernel, by decide +kernel, by decide +kernel⟩

end RetroBrowser.SessionManager
