import RetroBrowser.SessionManager.Services.Calls

/-!
Owns the parts of the service that end participants and sessions: retirement of
one runtime, the two kinds of save they need, closing, lease expiry and the
sweep. Between two saves these programs are *quiet*: they read, revoke and
remove, so every condition under which a change is saved survives them.
-/

namespace RetroBrowser.SessionManager

open RetroBrowser.Foundation ActionSystem

/-! ## Quiet stretches -/

/-- `after` differs from `before` by calls that touch no stored record, draw no
identifier and start no runtime. -/
structure World.Quiet (before after : World) : Prop where
  sessions : after.sessions = before.sessions
  issued : after.issued = before.issued
  runtimes : ∀ id ∈ after.runtimes, id ∈ before.runtimes
  history : ∃ newer, after.history = newer ++ before.history ∧
    ∀ event ∈ newer, ∀ request, event.call ≠ .executionCreate request

namespace World.Quiet

variable {before between after : World}

theorem refl (world : World) : world.Quiet world :=
  ⟨rfl, rfl, fun _ exists' => exists', [], rfl, by simp⟩

theorem trans (first : before.Quiet between) (second : between.Quiet after) :
    before.Quiet after where
  sessions := second.sessions.trans first.sessions
  issued := second.issued.trans first.issued
  runtimes id exists' := first.runtimes id (second.runtimes id exists')
  history := by
    obtain ⟨newer, extended, quiet⟩ := first.history
    obtain ⟨newest, extended', quiet'⟩ := second.history
    refine ⟨newest ++ newer, by rw [extended', extended, List.append_assoc], ?_⟩
    intro event member
    exact (List.mem_append.mp member).elim (quiet' event) (quiet event)

theorem record (event : Event) (quiet : ∀ request, event.call ≠ .executionCreate request) :
    before.Quiet (before.record event) :=
  ⟨rfl, rfl, fun _ exists' => exists', [event], rfl, by simpa using quiet⟩

theorem observe (call : Call) (reads : call.readOnly = true) :
    before.Quiet (before.observe call) :=
  record _ fun request same => by
    rw [show call = .executionCreate request from same] at reads
    cases reads

theorem discardRuntime (id : UUID) : before.Quiet (before.discardRuntime id) :=
  ⟨rfl, rfl, fun _ exists' => (World.mem_discardRuntime.mp exists').1, [], rfl, by simp⟩

theorem get (quiet : before.Quiet after) (id : UUID) : after.get id = before.get id := by
  rw [World.get, quiet.sessions]
  rfl

theorem started_iff (quiet : before.Quiet after) (id : UUID) :
    Started after.history id ↔ Started before.history id := by
  obtain ⟨newer, extended, creates⟩ := quiet.history
  rw [extended]
  constructor
  · rintro ⟨event, member, request, call, same⟩
    rcases List.mem_append.mp member with newly | earlier
    · exact absurd call (creates event newly request)
    · exact ⟨event, earlier, request, call, same⟩
  · rintro ⟨event, member, request, call, same⟩
    exact ⟨event, List.mem_append_right newer member, request, call, same⟩

theorem retired (quiet : before.Quiet after) {id : UUID} (retired : before.Retired id) :
    after.Retired id := by
  obtain ⟨newer, extended, -⟩ := quiet.history
  obtain ⟨⟨later, between, earlier, applied, returned, history, started⟩, gone⟩ := retired
  refine ⟨⟨newer ++ later, between, earlier, applied, returned, ?_, started⟩, ?_⟩
  · rw [extended, history, List.append_assoc]
  · exact fun exists' => gone (quiet.runtimes id exists')

theorem unused (quiet : before.Quiet after) {id : UUID} (unused : before.Unused id) :
    after.Unused id where
  stored := by
    rw [quiet.sessions]
    exact unused.stored
  started := by
    rw [quiet.started_iff]
    exact unused.started
  runtime exists' := unused.runtime (quiet.runtimes id exists')

theorem activeSessions (quiet : before.Quiet after) :
    after.activeSessions = before.activeSessions := by
  rw [World.activeSessions, quiet.sessions]
  rfl

/-- A change stays enabled through a quiet stretch. -/
theorem enabled {configuration : Configuration} {session : Session} {update : Update}
    (quiet : before.Quiet after) (enabled : update.Enabled configuration before session) :
    update.Enabled configuration after session := by
  cases update with
  | joined participant =>
      obtain ⟨state, allocating, belongs, noPath, valid, unused, issued, absent, room, quota,
        slot⟩ := enabled
      refine ⟨state, allocating, belongs, noPath, valid, quiet.unused unused,
        ?_, absent, room, ?_, slot⟩
      · rw [quiet.issued]
        exact issued
      · rw [quiet.activeSessions]
        exact quota
  | active participant activeAt expiresAt =>
      obtain ⟨member, starting, state, started, expiry⟩ := enabled
      exact ⟨member, starting, state, (quiet.started_iff _).mpr started, expiry⟩
  | starting _ | running _ _ | failed _ _ | renewed _ _ _ => exact enabled
  | left _ _ | faulted _ _ =>
      obtain ⟨member, active, retired⟩ := enabled
      exact ⟨member, active, quiet.retired retired⟩
  | closed _ =>
      obtain ⟨open', reason, live⟩ := enabled
      refine ⟨open', reason, fun item member isLive => ?_⟩
      obtain ⟨active, retired⟩ := live item member isLive
      exact ⟨active, quiet.retired retired⟩

theorem longer (quiet : before.Quiet after) : before.history.length ≤ after.history.length := by
  obtain ⟨newer, extended, -⟩ := quiet.history
  rw [extended, List.length_append]
  exact Nat.le_add_left _ _

/-- A reason to tear down a runtime holds through a quiet stretch. -/
theorem tears {configuration : Configuration} {request : Request} {start : World}
    {participantId : UUID} (quiet : before.Quiet after)
    (tears : request.Tears configuration start before participantId) :
    request.Tears configuration start after participantId := by
  cases tears with
  | swept cause => exact .swept cause
  | closing session reason participant stored member same closes =>
      exact .closing session reason participant ((quiet.get _).trans stored) member same
        (closes.later quiet.longer)
  | retiring session participant stored member same retires =>
      exact .retiring session participant ((quiet.get _).trans stored) member same
        (retires.later quiet.longer)
  | failing session participant stored member same fresh cause =>
      exact .failing session participant ((quiet.get _).trans stored) member same fresh cause

end World.Quiet

/-- `after` stores `session` and keeps every other record of `before`. -/
def World.Replaces (before after : World) (session : Session) : Prop :=
  after.get session.sessionId = some session ∧
    ∀ id, id ≠ session.sessionId → after.get id = before.get id

theorem World.get_overwrite {world : World} {session updated : Session}
    (stored : world.get session.sessionId = some session)
    (same : updated.sessionId = session.sessionId) :
    (world.overwrite updated).get session.sessionId = some updated := by
  show InMemorySessionRepository.get (InMemorySessionRepository.overwrite world.sessions updated)
    session.sessionId = some updated
  rw [InMemorySessionRepository.get_overwrite, if_pos same.symm,
    show InMemorySessionRepository.get world.sessions session.sessionId = some session from stored]
  rfl

theorem World.save_replaces {world : World} {session updated : Session} {revision : Nat}
    (stored : world.get session.sessionId = some session)
    (same : updated.sessionId = session.sessionId) :
    world.Replaces (world.save updated revision) updated := by
  constructor
  · rw [same]
    exact World.get_overwrite stored same
  · intro id other
    show InMemorySessionRepository.get (InMemorySessionRepository.overwrite world.sessions updated)
      id = world.get id
    rw [InMemorySessionRepository.get_overwrite, if_neg other]
    rfl

theorem World.Quiet.replaces {before between after : World} {session : Session}
    (quiet : before.Quiet between) (replaces : between.Replaces after session) :
    before.Replaces after session :=
  ⟨replaces.1, fun id other => (replaces.2 id other).trans (quiet.get id)⟩

/-! ## Saves -/

section Rules

variable {configuration : Configuration} {request : Request} {start world : World}
variable {session : Session} {onError : Error → World → Prop}

/-- The rule of a replaced participant, for the change it amounts to. -/
theorem Request.follows_replaceParticipant {participant : Participant} {state : SessionState}
    {append : Bool} {expiresAt : Option Time} (update : Update)
    (same : ∀ now, SessionService.replacement session participant state append expiresAt now =
      update.result session now)
    (stored : world.get session.sessionId = some session)
    (enabled : update.Enabled configuration world session)
    (saves : request.dependencies.stops world.history.length = false →
      request.dependencies.stops (world.history.length + 1) = false →
      request.Saves configuration start (world.observe .clock) session update)
    (failed : ∀ error (applied : Bool) updated,
      updated = update.result session (request.dependencies.clock world.history.length) →
      onError error ((if applied then (world.observe .clock).overwrite updated
        else world.observe .clock).record ⟨.repositorySave updated session.revision,
          applied, false⟩)) :
    request.Follows configuration start world
      ((request.service configuration).replaceParticipant session participant state append
        expiresAt)
      (fun updated later =>
        updated = update.result session (request.dependencies.clock world.history.length) ∧
          later = (world.observe .clock).save updated session.revision ∧
          request.dependencies.stops world.history.length = false ∧
          request.dependencies.Answers (world.history.length + 1)
            (.repositorySave updated session.revision)) onError := by
  refine follows_bind follows_clock fun now after _ reached => ?_
  obtain ⟨rfl, rfl, running⟩ := reached
  have quiet : world.Quiet (world.observe .clock) := .observe .clock rfl
  rw [same]
  refine follows_bind (Request.follows_repositorySave update stored (quiet.enabled enabled)
    ⟨world.history.length, by simp, rfl⟩ (fun reached => saves running reached)
    fun error applied => failed error applied _ rfl) ?_
  rintro - after - ⟨rfl, answers⟩
  exact follows_pure ⟨rfl, rfl, running, answers⟩

/-! ## One runtime -/

/-- A retired runtime was revoked and then removed; nothing else changed. -/
theorem Request.follows_retireRuntime (participantId : UUID)
    (tears : request.Tears configuration start world participantId)
    (failed : ∀ error after, onError error after) :
    request.Follows configuration start world
      ((request.service configuration).retireRuntime participantId)
      (fun _ later => world.Quiet later ∧
        (Started world.history participantId → later.Retired participantId)) onError := by
  refine follows_bind (Request.follows_bestEffortRevoke participantId tears)
    fun _ between _ reached => ?_
  obtain ⟨applied, returned, rfl⟩ := reached
  have revoked : world.Quiet (world.record ⟨.streamRevoke participantId, applied, returned⟩) :=
    .record _ (by simp)
  refine (Request.follows_executionRemove participantId (revoked.tears tears)
    fun error applied _ => failed error _).weakenValue ?_
  rintro - later rfl
  constructor
  · exact (World.Quiet.record _ (by simp)).trans
      ((World.Quiet.discardRuntime participantId).trans (World.Quiet.record _ (by simp)))
  · intro started
    refine ⟨⟨[], [], world.history, applied, returned, rfl, started⟩, fun exists' => ?_⟩
    exact (World.mem_discardRuntime.mp exists').2 rfl

end Rules

/-! ## Leaving -/

namespace SessionService

/-- Only an active entry can be put to `LEFT`. -/
theorem leftParticipant_ok {now : Time} {item left : Participant}
    (accepted : leftParticipant now item = .ok left) :
    left = Update.retire now item ∧ (item.live = true → item.state = .active) := by
  unfold leftParticipant at accepted
  by_cases final : item.state.terminal = true
  · rw [if_pos final] at accepted
    cases accepted
    exact ⟨by rw [Update.retire, if_pos final], fun live => by
      simp [Participant.live, final] at live⟩
  · rw [if_neg final] at accepted
    have active : item.state = .active := by
      cases state : item.state <;> rw [state] at accepted final <;>
        first | rfl | exact absurd rfl final | cases accepted
    rw [active] at accepted
    cases accepted
    exact ⟨by rw [Update.retire, if_neg final], fun _ => active⟩

theorem mapM_leftParticipant_ok {now : Time} {items left : List Participant}
    (accepted : items.mapM (leftParticipant now) = .ok left) :
    left = items.map (Update.retire now) ∧
      ∀ item ∈ items, item.live = true → item.state = .active := by
  induction items generalizing left with
  | nil =>
      cases accepted
      exact ⟨rfl, by simp⟩
  | cons head tail inductionHypothesis =>
      rw [List.mapM_cons] at accepted
      cases first : leftParticipant now head with
      | error error => simp [first, bind, Except.bind] at accepted
      | ok headLeft =>
          cases rest : tail.mapM (leftParticipant now) with
          | error error => simp [first, rest, bind, Except.bind] at accepted
          | ok tailLeft =>
              simp only [first, rest, bind, Except.bind, pure, Except.pure, Except.ok.injEq]
                at accepted
              subst accepted
              obtain ⟨rfl, headActive⟩ := leftParticipant_ok first
              obtain ⟨rfl, tailActive⟩ := inductionHypothesis rest
              exact ⟨rfl, by simpa using ⟨headActive, tailActive⟩⟩

end SessionService

theorem Update.retire_terminal (now : Time) (item : Participant) :
    (retire now item).state.terminal = true := by
  unfold retire
  split
  · assumption
  · rfl

/-- Every entry of a closed record is terminal. -/
theorem Update.closed_terminal {session : Session} {reason : String} {now : Time}
    {item : Participant}
    (member : item ∈ ((Update.closed reason).result session now).participants) :
    item.state.terminal = true := by
  obtain ⟨before, -, rfl⟩ := List.mem_map.mp member
  exact retire_terminal now before

/-! ## Closing -/

section Closing

variable {configuration : Configuration} {request : Request} {start world : World}
variable {session : Session} {onError : Error → World → Prop}

/-- Closing retires the runtime of every live entry. -/
theorem Request.follows_retireLive {participants : List Participant}
    (started : ∀ item ∈ participants, item.state = .active →
      Started world.history item.participantId)
    (tears : ∀ item ∈ participants, request.Tears configuration start world item.participantId)
    (failed : ∀ error after, onError error after) :
    request.Follows configuration start world
      (participants.forM fun participant =>
        if participant.live then
          (request.service configuration).retireRuntime participant.participantId
        else pure ())
      (fun _ later => world.Quiet later ∧
        ∀ item ∈ participants, item.state = .active → later.Retired item.participantId)
      onError := by
  -- Each active entry met so far is retired.
  refine (follows_forM
    (fun rest later => world.Quiet later ∧ ∀ item ∈ participants,
      item.state = .active → item ∈ rest ∨ later.Retired item.participantId)
    ⟨.refl world, fun item member _ => Or.inl member⟩ ?_).weakenValue
    fun _ later reached => ⟨reached.1, fun item member active =>
      (reached.2 item member active).resolve_left List.not_mem_nil⟩
  rintro item rest between - member ⟨quiet, retired⟩
  refine follows_ite (fun live => ?_) fun ended => ?_
  · refine (follows_retireRuntime item.participantId (quiet.tears (tears item member))
      failed).weakenValue ?_
    rintro - later ⟨quiet', retires⟩
    refine ⟨quiet.trans quiet', fun other otherMember active => ?_⟩
    rcases retired other otherMember active with waiting | done
    · rcases List.mem_cons.mp waiting with rfl | waiting
      · exact Or.inr (retires ((quiet.started_iff _).mpr (started other otherMember active)))
      · exact Or.inl waiting
    · exact Or.inr (quiet'.retired done)
  · refine follows_pure ⟨quiet, fun other otherMember active => ?_⟩
    rcases retired other otherMember active with waiting | done
    · rcases List.mem_cons.mp waiting with rfl | waiting
      · exact absurd (by rw [Participant.live, active]; rfl) ended
      · exact Or.inl waiting
    · exact Or.inr done

/-- Closing a session that is not closed stores its closed record, and needs
every live entry to be active. -/
theorem Request.follows_closeSession {reason : String}
    (stored : world.get session.sessionId = some session) (notClosed : session.state ≠ .closed)
    (length : lengthBetween 0 64 reason = true)
    (closes : request.Closes configuration start world session reason)
    (failed : ∀ error after, onError error after) :
    request.Follows configuration start world
      ((request.service configuration).closeSession session reason)
      (fun value later => (∃ now, request.dependencies.Shows now ∧
        value = (Update.closed reason).result session now ∧ world.Replaces later value) ∧
        ∀ item ∈ session.participants, item.live = true → item.state = .active) onError := by
  refine follows_of_invariant fun coherent => ?_
  have starts := (coherent.sessions session (InMemorySessionRepository.get_mem stored).1).started
  unfold SessionService.closeSession
  rw [if_neg notClosed]
  refine follows_ofExcept_bind (fun _ _ => ?_) fun error _ => failed error _
  refine follows_bind follows_clock ?_
  rintro now after - ⟨shown, rfl, -⟩
  have read : world.Quiet (world.observe .clock) := .observe .clock rfl
  refine follows_bind (follows_retireLive (fun item member active =>
    (starts item member active).cons _) (fun item member =>
      read.tears (.closing session reason item stored member rfl closes)) failed) ?_
  rintro - between - ⟨quiet', retired⟩
  have quiet : world.Quiet between := read.trans quiet'
  refine follows_ofExcept_bind (fun participants accepted => ?_) fun error _ => failed error _
  obtain ⟨rfl, active⟩ := SessionService.mapM_leftParticipant_ok accepted
  have enabled : (Update.closed reason).Enabled configuration between session :=
    ⟨notClosed, length, fun item member live =>
      ⟨active item member live, retired item member (active item member live)⟩⟩
  have stored' : between.get session.sessionId = some session := (quiet.get _).trans stored
  have longer : world.history.length < between.history.length := quiet'.longer
  refine follows_bind (follows_repositorySave (.closed reason) stored' enabled
    ⟨world.history.length, longer, shown.symm⟩
    (fun _ => .closed reason (closes.later quiet.longer)) fun error applied => failed error _) ?_
  rintro - later - ⟨rfl, -⟩
  exact follows_pure ⟨⟨now, ⟨_, shown.symm⟩, rfl,
    quiet.replaces (World.save_replaces stored' rfl)⟩, active⟩

end Closing

/-! ## Expiry -/

/-- Lease expiry leaves a session whose lease still runs as it is, one clock
reading later, or answers with a closed record. -/
def Request.Expires (request : Request) (world : World) (session value : Session)
    (later : World) : Prop :=
  (session.state ≠ .closed ∧ value = session ∧ later = world.observe .clock ∧
    request.dependencies.clock world.history.length < session.expiresAt ∧
    request.dependencies.stops world.history.length = false) ∨
  (value.state = .closed ∧ (∀ item ∈ value.participants, item.state.terminal = true) ∧
    later.get session.sessionId = some value)

section Expiry

variable {configuration : Configuration} {request : Request} {start world : World}
variable {session : Session} {onError : Error → World → Prop}

theorem Request.follows_expire (began : world.history.length = start.history.length + 1)
    (first : start.get session.sessionId = some session)
    (stored : world.get session.sessionId = some session)
    (addressed : request.operation.addressed = some session.sessionId)
    (failed : ∀ error after, onError error after) :
    request.Follows configuration start world ((request.service configuration).expire session)
      (request.Expires world session) onError := by
  refine follows_of_invariant fun coherent => ?_
  have shape := (coherent.sessions session (InMemorySessionRepository.get_mem stored).1).shape
  unfold SessionService.expire
  by_cases closed : session.state = .closed
  · rw [if_pos closed]
    exact follows_pure (Or.inr ⟨closed, fun item member => shape.terminal (Or.inl closed) member,
      stored⟩)
  · rw [if_neg closed]
    refine follows_bind follows_clock ?_
    rintro now after - ⟨rfl, rfl, running⟩
    by_cases elapsed : session.expiresAt ≤ request.dependencies.clock world.history.length
    · rw [if_pos elapsed]
      have stored' : (world.observe .clock).get session.sessionId = some session := stored
      refine (follows_closeSession stored' closed (by decide)
        (.lapsed addressed first (by rw [← began]; exact elapsed)) failed).weakenValue ?_
      rintro value later ⟨⟨ended, -, rfl, replaces⟩, -⟩
      exact Or.inr ⟨rfl, fun item member => Update.closed_terminal member, replaces.1⟩
    · rw [if_neg elapsed]
      exact follows_pure (Or.inl ⟨closed, rfl, rfl, not_le.mp elapsed, running⟩)

end Expiry

/-! ## The sweep -/

section Sweep

variable {configuration : Configuration} {request : Request} {start world : World}
variable {session : Session} {onError : Error → World → Prop}

/-- The change that retires a participant in the sweep. -/
def Update.retirement (participant : Participant) (now : Time) (failed : Bool) : Update :=
  if failed then .faulted participant now else .left participant now

theorem Request.follows_retireParticipant {participant : Participant} {failed : Bool}
    (stored : world.get session.sessionId = some session)
    (member : participant ∈ session.participants) (active : participant.state = .active)
    (tears : request.Tears configuration start world participant.participantId)
    (saves : ∀ now (between : World), request.dependencies.Read between now →
      world.history.length ≤ between.history.length →
      request.Saves configuration start between session (.retirement participant now failed))
    (raised : ∀ error after, onError error after) :
    request.Follows configuration start world
      ((request.service configuration).retireParticipant session participant failed)
      (fun value later => ∃ now updatedAt,
        value = (Update.retirement participant now failed).result session updatedAt ∧
          world.Replaces later value ∧ world.history.length ≤ later.history.length)
            onError := by
  refine follows_of_invariant fun coherent => ?_
  have started := (coherent.sessions session (InMemorySessionRepository.get_mem stored).1).started
    participant member active
  refine follows_bind (follows_retireRuntime participant.participantId tears raised) ?_
  rintro - after - ⟨quiet, retires⟩
  refine follows_bind follows_clock ?_
  rintro now after' - ⟨shown, rfl, -⟩
  have quiet' : world.Quiet (after.observe .clock) := quiet.trans (.observe .clock rfl)
  have read : world.Quiet ((after.observe .clock).observe .clock) :=
    quiet'.trans (.observe .clock rfl)
  have retired : (after.observe .clock).Retired participant.participantId :=
    (World.Quiet.observe .clock rfl).retired (retires started)
  have stored' : (after.observe .clock).get session.sessionId = some session :=
    (quiet'.get _).trans stored
  have saved : ∀ retiredEntry,
      (∀ updatedAt, SessionService.replacement session retiredEntry session.state false none
        updatedAt = (Update.retirement participant now failed).result session updatedAt) →
      request.Follows configuration start (after.observe .clock)
        ((request.service configuration).replaceParticipant session retiredEntry session.state
          false none)
        (fun value later => ∃ now updatedAt,
          value = (Update.retirement participant now failed).result session updatedAt ∧
            world.Replaces later value ∧ world.history.length ≤ later.history.length)
              onError := by
    intro retiredEntry same
    have enabled : (Update.retirement participant now failed).Enabled configuration
        (after.observe .clock) session := by
      cases failed <;> exact ⟨member, active, retired⟩
    refine (follows_replaceParticipant _ same stored' enabled
      (fun _ _ => saves now _ ⟨after.history.length, by
        simp only [World.observe_history, List.length_cons]
        omega, shown.symm⟩ read.longer)
      fun error _ _ _ => raised error _).weakenValue ?_
    rintro value later ⟨rfl, rfl, -⟩
    refine ⟨now, _, rfl, quiet'.replaces (((World.Quiet.observe .clock rfl).replaces
      (World.save_replaces (((World.Quiet.observe .clock rfl).get _).trans stored')
        (Update.result_sessionId _ _ _)))), ?_⟩
    exact read.longer.trans (Nat.le_succ _)
  cases failed with
  | true =>
      simp only [if_true]
      exact follows_pure_bind (saved _ fun _ => rfl)
  | false =>
      have left : SessionService.leftParticipant now participant =
          .ok { participant with state := .left, lastHeartbeat := now } := by
        simp only [SessionService.leftParticipant, active]
        rfl
      simp only [Bool.false_eq_true, if_false, left]
      exact follows_pure_bind (saved _ fun _ => rfl)

theorem Request.follows_inspectOrNone (participantId : UUID)
    (failed : ∀ error after, onError error after) :
    request.Follows configuration start world
      ((request.service configuration).inspectOrNone participantId)
      (fun found later => world.Quiet later ∧
        (found.any RuntimeHandle.ready = false →
          request.dependencies.FindsFailed participantId) ∧
        (found.any RuntimeHandle.ready = true → request.dependencies.FindsReady participantId))
      onError := by
  have quiet : ∀ applied returned,
      world.Quiet (world.record ⟨.executionInspect participantId, applied, returned⟩) :=
    fun _ _ => .record _ (by simp)
  refine follows_tryCatch
    (fun _ later => world.Quiet later ∧ request.dependencies.FindsFailed participantId)
    ?_ ?_
  · refine follows_bind (follows_executionInspect participantId fun error applied failure =>
      ⟨quiet applied false, failure⟩) ?_
    rintro handle later - ⟨notReady, ready, rfl⟩
    exact follows_pure ⟨quiet true true, by simpa using notReady, by simpa using ready⟩
  · rintro error later - ⟨reached, failure⟩
    by_cases orchestration : error.isOrchestration = true
    · rw [if_pos orchestration]
      exact follows_pure ⟨reached, fun _ => failure, by simp⟩
    · rw [if_neg orchestration]
      exact follows_throw (failed error later)

end Sweep

end RetroBrowser.SessionManager
