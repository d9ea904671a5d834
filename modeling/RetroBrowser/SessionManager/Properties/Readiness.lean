import Mathlib.Data.Rat.Floor
import RetroBrowser.Foundation.Polling
import RetroBrowser.SessionManager.Services.Outcomes
import RetroBrowser.SessionManager.Services.Working

/-!
Owns the wait for a runtime that starts. The loop has no counter: each round
reads the clock, pauses and inspects, so its measure is the remaining time.
Contract: where the clock moves on by each pause, the wait makes no more
inspections than poll intervals fit in the timeout, rounded up, and it returns
exactly where a ready handle is observed before a failed one and before the
deadline.
-/

namespace RetroBrowser.SessionManager

open RetroBrowser.Foundation Program

/-- The states and health in which a starting runtime is given up. -/
def RuntimeHandle.failed (handle : RuntimeHandle) : Bool :=
  handle.state ∉ ["created", "running", "restarting"] || handle.healthStatus = .unhealthy

/-- The clock of a run never goes back and moves on by each sleep of the history. -/
structure Dependencies.Advances (dependencies : Dependencies) (history : List Event) : Prop where
  monotone : ∀ earlier later, earlier ≤ later →
    dependencies.monotonic earlier ≤ dependencies.monotonic later
  slept : ∀ after seconds before, history = after ++
    ⟨.sleep seconds, true, true⟩ :: before →
    dependencies.monotonic before.length + seconds ≤ dependencies.monotonic (before.length + 1)

/-! ## Rounds -/

/-- A wait that begins as call number `start`. -/
structure Wait where
  service : SessionService
  handle : RuntimeHandle
  timeout : Duration
  start : Nat

namespace Wait

variable (wait : Wait)

def interval : Rat :=
  SessionService.totalSeconds wait.service.configuration.pollInterval

def deadline : Rat :=
  wait.service.dependencies.monotonic wait.start + SessionService.totalSeconds wait.timeout

/-- The instant a round compares with the deadline. -/
def reading (round : Nat) : Rat :=
  wait.service.dependencies.monotonic (wait.start + 3 * round + 1)

/-- How long a round sleeps. -/
def pause (round : Nat) : Rat := min wait.interval (wait.deadline - wait.reading round)

/-- The handle the wait is given, then what each inspection answers. -/
def observed : Nat → Except Error RuntimeHandle
  | 0 => .ok wait.handle
  | round + 1 =>
      wait.service.dependencies.inspected (wait.start + 3 * round + 3) wait.handle.runtimeId

/-- The round ends with a pause and another inspection. -/
structure GoesOn (round : Nat) : Prop where
  pending : ∃ handle, wait.observed round = .ok handle ∧ handle.ready = false ∧
    handle.failed = false
  early : wait.reading round < wait.deadline

/-- The calls of the first rounds, newest first. -/
def rounds : Nat → List Event
  | 0 => []
  | round + 1 =>
      ⟨.executionInspect wait.handle.runtimeId, true, true⟩ ::
        ⟨.sleep (wait.pause round), true, true⟩ :: ⟨.monotonic, true, true⟩ :: rounds round

/-- How the wait ends after so many rounds, and its calls in the last one. -/
inductive Ends (rounds : Nat) : Outcome Error Unit → List Event → Prop
  | ready {handle : RuntimeHandle} (answer : wait.observed rounds = .ok handle)
      (ready : handle.ready = true) : Ends rounds (.returned ()) []
  | failed {handle : RuntimeHandle} (message : String)
      (answer : wait.observed rounds = .ok handle) (unready : handle.ready = false)
      (failed : handle.failed = true) : Ends rounds (.raised (.orchestration message)) []
  | late {handle : RuntimeHandle} (message : String)
      (answer : wait.observed rounds = .ok handle) (unready : handle.ready = false)
      (late : wait.deadline ≤ wait.reading rounds) :
      Ends rounds (.raised (.orchestration message)) [⟨.monotonic, true, true⟩]
  | raised {error : Error} (applied : Bool) (goesOn : wait.GoesOn rounds)
      (answer : wait.observed (rounds + 1) = .error error) :
      Ends rounds (.raised error)
        [⟨.executionInspect wait.handle.runtimeId, applied, false⟩,
          ⟨.sleep (wait.pause rounds), true, true⟩, ⟨.monotonic, true, true⟩]
  | unobserved (spent : rounds = wait.service.dependencies.pollRounds) : Ends rounds .stopped []

/-- The wait passed some rounds and ended, with these calls on top of `history`. -/
def Reaches (history : List Event) (outcome : Outcome Error Unit) (after : World) : Prop :=
  ∃ rounds last, (∀ round < rounds, wait.GoesOn round) ∧ wait.Ends rounds outcome last ∧
    after.history = last ++ (wait.rounds rounds ++ history)

theorem rounds_length (round : Nat) : (wait.rounds round).length = 3 * round := by
  induction round with
  | zero => rfl
  | succ round inductionHypothesis =>
      simp only [rounds, List.length_cons, inductionHypothesis]
      omega

/-- The sleep of each round stands on the calls before it. -/
theorem rounds_sleep {round total : Nat} (within : round < total) :
    ∃ after, wait.rounds total = after ++ ⟨.sleep (wait.pause round), true, true⟩ ::
      ⟨.monotonic, true, true⟩ :: wait.rounds round := by
  induction total with
  | zero => omega
  | succ total inductionHypothesis =>
      by_cases last : round = total
      · exact ⟨[⟨.executionInspect wait.handle.runtimeId, true, true⟩], by rw [last]; rfl⟩
      · have ⟨after, split⟩ := inductionHypothesis (by omega)
        refine ⟨⟨.executionInspect wait.handle.runtimeId, true, true⟩ ::
          ⟨.sleep (wait.pause total), true, true⟩ :: ⟨.monotonic, true, true⟩ :: after,
            ?_⟩
        rw [rounds, split]
        rfl

end Wait

namespace SessionService

variable {wait : Wait} {history : List Event} {world : World}

/-- The loop, by induction on the rounds it may still take. -/
theorem waitReadyLoop_reaches (running : ∀ index, wait.service.dependencies.stops index = false)
    (begun : history.length = wait.start + 1) {round remaining : Nat} {current : RuntimeHandle}
    (budget : round + remaining = wait.service.dependencies.pollRounds)
    (passed : ∀ earlier < round, wait.GoesOn earlier) (answer : wait.observed round = .ok current)
    (so : world.history = wait.rounds round ++ history) :
    (wait.service.waitReadyLoop wait.handle.runtimeId wait.deadline remaining current).Ensures
      ⟨fun _ => wait.Reaches history (.returned ()), fun error =>
        wait.Reaches history (.raised error), wait.Reaches history .stopped⟩ world := by
  induction remaining generalizing round current world with
  | zero => exact ⟨round, [], passed, .unobserved (by omega), so⟩
  | succ remaining inductionHypothesis =>
      unfold waitReadyLoop
      refine ensures_ite.mpr ⟨fun ready => ?_, fun unready => ?_⟩
      · exact ⟨round, [], passed, .ready answer ready, so⟩
      have unready : current.ready = false := by simpa using unready
      refine ensures_ite.mpr ⟨fun stopped => ?_, fun going => ?_⟩
      · exact ⟨round, [], passed,
          .failed _ answer unready (by simp [RuntimeHandle.failed, stopped]), so⟩
      refine ensures_ite.mpr ⟨fun unhealthy => ?_, fun healthy => ?_⟩
      · exact ⟨round, [], passed,
          .failed _ answer unready (by simp [RuntimeHandle.failed, unhealthy]), so⟩
      have sound : current.failed = false := by
        simp only [not_not] at going
        simp [RuntimeHandle.failed, going, healthy]
      have length : world.history.length = wait.start + 3 * round + 1 := by
        rw [so, List.length_append, wait.rounds_length, begun]
        omega
      refine ensures_bind.mpr (ensures_monotonic (fun _ => ?_) fun stops => ?_)
      swap
      · rw [running] at stops
        cases stops
      rw [length]
      refine ensures_ite.mpr ⟨fun late => ?_, fun early => ?_⟩
      · refine ⟨round, [⟨.monotonic, true, true⟩], passed,
          .late _ answer unready (sub_nonpos.mp late), ?_⟩
        rw [World.observe_history, so]
        rfl
      have goesOn : wait.GoesOn round :=
        ⟨⟨current, answer, unready, sound⟩, sub_pos.mp (not_le.mp early)⟩
      refine ensures_bind.mpr (ensures_sleep (fun _ => ?_) fun stops => ?_)
      swap
      · rw [running] at stops
        cases stops
      have inspectedAt : ((world.observe .monotonic).observe
          (.sleep (wait.pause round))).history.length = wait.start + 3 * round + 3 := by
        simp only [World.observe_history, List.length_cons]
        omega
      refine ensures_bind.mpr (ensures_executionInspect ?_ ?_ fun stops => ?_)
      · intro next shown answers
        have passed' : ∀ earlier < round + 1, wait.GoesOn earlier := by
          intro earlier before
          by_cases this : earlier = round
          · rw [this]
            exact goesOn
          · exact passed earlier (by omega)
        apply inductionHypothesis (by omega) passed'
        · show wait.service.dependencies.inspected (wait.start + 3 * round + 3) _ = _
          rw [← inspectedAt]
          exact answers.inspected shown
        · simp only [World.observe_history, so]
          rfl
      · intro error applied _ raises
        refine ⟨round, _, passed, .raised applied goesOn ?_, ?_⟩
        · show wait.service.dependencies.inspected (wait.start + 3 * round + 3) _ = _
          rw [← inspectedAt]
          exact raises.inspected
        · simp only [World.record_history, World.observe_history, so]
          rfl
      · rw [running] at stops
        cases stops

/-- The wait as a whole. -/
theorem waitReady_reaches (self : SessionService) (handle : RuntimeHandle) (timeout : Duration)
    (world : World) (running : ∀ index, self.dependencies.stops index = false) :
    (Wait.mk self handle timeout world.history.length).Reaches
      (⟨.monotonic, true, true⟩ :: world.history) (self.waitReady handle timeout world).1
      (self.waitReady handle timeout world).2 := by
  let wait : Wait := ⟨self, handle, timeout, world.history.length⟩
  have reaches : (self.waitReady handle timeout).Ensures
      ⟨fun _ => wait.Reaches (⟨.monotonic, true, true⟩ :: world.history) (.returned ()),
        fun error => wait.Reaches (⟨.monotonic, true, true⟩ :: world.history) (.raised error),
        wait.Reaches (⟨.monotonic, true, true⟩ :: world.history) .stopped⟩ world := by
    refine ensures_bind.mpr (ensures_monotonic (fun _ => ?_) fun stops => ?_)
    · show (wait.service.waitReadyLoop wait.handle.runtimeId wait.deadline
        self.dependencies.pollRounds handle).Ensures _ _
      apply waitReadyLoop_reaches running rfl (Nat.zero_add _)
      · intro earlier before
        omega
      · rfl
      · rfl
    · rw [running] at stops
      cases stops
  unfold Program.Ensures at reaches
  rcases run : self.waitReady handle timeout world with ⟨outcome, after⟩
  rw [run] at reaches
  cases outcome <;> exact reaches

end SessionService

/-! ## What a wait promises -/

/-- The call inspects a runtime. -/
def Call.isInspect : Call → Bool
  | .executionInspect _ => true
  | _ => false

/-- The number of inspections in a history. -/
def inspections (history : List Event) : Nat := history.countP fun event => event.call.isInspect

theorem inspections_cons (event : Event) (history : List Event) :
    inspections (event :: history) = inspections history + if event.call.isInspect then 1 else 0 :=
  List.countP_cons

namespace Wait

variable (wait : Wait)

/-- The poll intervals that fit in the timeout, rounded up. -/
def limit : Nat := ⌈SessionService.totalSeconds wait.timeout / wait.interval⌉₊

/-- A ready handle is observed before a failed one and before the deadline. -/
def Succeeds : Prop :=
  ∃ round handle, wait.observed round = .ok handle ∧ handle.ready = true ∧
    ∀ earlier < round, (∃ before, wait.observed earlier = .ok before ∧
      before.failed = false) ∧
      wait.reading earlier < wait.deadline

/-- The result of a wait and the calls it made. -/
structure Exact (before : World) (outcome : Outcome Error Unit) (after : World) : Prop where
  bounded : inspections after.history ≤ inspections before.history + wait.limit
  /-- A sleep comes right after a reading of the clock and ends by the deadline. -/
  sleeps : ∀ later seconds earlier,
    after.history = later ++ ⟨.sleep seconds, true, true⟩ :: (earlier ++ before.history) →
      0 < seconds ∧ ∃ rest, earlier = ⟨.monotonic, true, true⟩ :: rest ∧
        wait.service.dependencies.monotonic (rest ++ before.history).length +
          seconds ≤ wait.deadline
  returns : outcome = .returned () ↔ wait.Succeeds
  /-- Otherwise it raises an orchestration error, unless an inspection raises another one. -/
  raises : outcome ≠ .returned () →
    (∃ message, outcome = .raised (.orchestration message)) ∨
      ∃ round error, wait.observed round = .error error ∧ outcome = .raised error

variable {wait}

theorem pause_positive (positive : 0 < wait.interval) {round : Nat}
    (early : wait.reading round < wait.deadline) : 0 < wait.pause round :=
  lt_min positive (sub_pos.mpr early)

theorem reading_pause_le (round : Nat) :
    wait.reading round + wait.pause round ≤ wait.deadline := by
  have short : wait.pause round ≤ wait.deadline - wait.reading round := min_le_right _ _
  linarith

theorem interval_positive : 0 < wait.interval := by
  have positive := (Settings.check_ok wait.service.configuration.accepted).1.2.2.2.2.2
  unfold interval SessionService.totalSeconds
  exact div_pos (by exact_mod_cast positive) (by norm_num)

variable {history : List Event} {after : World} {outcome : Outcome Error Unit} {rounds : Nat}

/-- Rounds whose sleeps the clock followed: no more than the limit. -/
theorem rounds_le_limit (goesOn : ∀ round < rounds, wait.GoesOn round)
    (begun : history.length = wait.start + 1)
    (advances : wait.service.dependencies.Advances after.history)
    (slept : ∀ round < rounds, ∃ later, after.history = later ++
      ⟨.sleep (wait.pause round), true, true⟩ :: ⟨.monotonic, true, true⟩ ::
        (wait.rounds round ++ history)) : rounds ≤ wait.limit := by
  have advances' : ∀ round, round + 1 < rounds →
      wait.reading round + min wait.interval (wait.deadline - wait.reading round) ≤
        wait.reading (round + 1) := by
    intro round before
    have ⟨later, split⟩ := slept round (by omega)
    have moved := advances.slept later _ _ split
    have at' : (⟨.monotonic, true, true⟩ :: (wait.rounds round ++ history) :
      List Event).length =
        wait.start + 3 * round + 2 := by
      rw [List.length_cons, List.length_append, wait.rounds_length, begun]
      omega
    rw [at'] at moved
    have read := advances.monotone (wait.start + 3 * round + 1) (wait.start + 3 * round + 2)
      (Nat.le_succ _)
    have next := advances.monotone (wait.start + 3 * round + 2 + 1)
      (wait.start + 3 * (round + 1) + 1) (by omega)
    show wait.service.dependencies.monotonic (wait.start + 3 * round + 1) + wait.pause round ≤
      wait.service.dependencies.monotonic (wait.start + 3 * (round + 1) + 1)
    linarith
  have within := rounds_le_ceil wait.interval_positive
    (fun round before => (goesOn round before).early) advances'
  apply within.trans
  apply Nat.ceil_mono
  · apply div_le_div_of_nonneg_right _ wait.interval_positive.le
    have started := advances.monotone wait.start (wait.start + 1) (Nat.le_succ _)
    show wait.service.dependencies.monotonic wait.start + _ - wait.service.dependencies.monotonic
      (wait.start + 1) ≤ _
    linarith

theorem inspections_rounds (round : Nat) : inspections (wait.rounds round) = round := by
  induction round with
  | zero => rfl
  | succ round inductionHypothesis =>
      simp [rounds, inspections_cons, Call.isInspect, inductionHypothesis]

/-- The rounds that paused, the one an inspection failed in included. -/
theorem Reaches.paused (reaches : wait.Reaches history outcome after) :
    ∃ rounds total, rounds ≤ total ∧ (∃ last, wait.Ends rounds outcome last) ∧
      (∀ round < total, wait.GoesOn round) ∧
      (∀ round < total, ∃ later, after.history = later ++
        ⟨.sleep (wait.pause round), true, true⟩ :: ⟨.monotonic, true, true⟩ ::
          (wait.rounds round ++ history)) ∧
      inspections after.history = total + inspections history := by
  obtain ⟨rounds, last, goesOn, ends, so⟩ := reaches
  have slept : ∀ round < rounds, ∃ later, after.history = later ++
      ⟨.sleep (wait.pause round), true, true⟩ :: ⟨.monotonic, true, true⟩ ::
        (wait.rounds round ++ history) := by
    intro round within
    have ⟨later, split⟩ := wait.rounds_sleep within
    refine ⟨last ++ later, ?_⟩
    rw [so, split]
    simp
  have count : inspections (wait.rounds rounds ++ history) = rounds + inspections history := by
    rw [inspections, List.countP_append]
    exact congrArg (· + inspections history) (inspections_rounds rounds)
  have ended := ends
  cases ends with
  | raised applied goes answer =>
      refine ⟨rounds, rounds + 1, Nat.le_succ _, ⟨_, .raised applied goes answer⟩,
        ?_, ?_, ?_⟩
      · intro round within
        by_cases this : round = rounds
        · exact this ▸ goes
        · exact goesOn round (by omega)
      · intro round within
        by_cases this : round = rounds
        · rw [this]
          exact ⟨[⟨.executionInspect wait.handle.runtimeId, applied, false⟩], so⟩
        · exact slept round (by omega)
      · rw [so]
        simp only [List.cons_append, List.nil_append, inspections_cons, Call.isInspect, if_true,
          Bool.false_eq_true, if_false, count]
        omega
  | ready _ _ | failed _ _ _ _ | unobserved _ | late _ _ _ _ =>
      refine ⟨rounds, rounds, le_refl _, ⟨_, ended⟩, goesOn, slept, ?_⟩
      rw [so]
      exact count

/-- Where a sleep stands among the calls of some rounds. -/
theorem sleep_of_split {total : Nat} {seconds : Rat} {later earlier base : List Event}
    (awake : ∀ event ∈ base, event.call ≠ .sleep seconds)
    (split : wait.rounds total ++ base = later ++ ⟨.sleep seconds, true, true⟩ :: earlier) :
    ∃ round < total, seconds = wait.pause round ∧
      earlier = ⟨.monotonic, true, true⟩ :: (wait.rounds round ++ base) := by
  induction total generalizing later with
  | zero =>
      have member : (⟨.sleep seconds, true, true⟩ : Event) ∈ base := by
        rw [rounds, List.nil_append] at split
        simp [split]
      exact absurd rfl (awake _ member)
  | succ total inductionHypothesis =>
      simp only [rounds, List.cons_append] at split
      match later with
      | [] => simp at split
      | [inspection] =>
          simp only [List.cons_append, List.nil_append, List.cons.injEq, Event.mk.injEq,
            Call.sleep.injEq] at split
          exact ⟨total, Nat.lt_succ_self _, split.2.1.1.symm, split.2.2.symm⟩
      | [inspection, sleep] => simp at split
      | inspection :: sleep :: reading :: rest =>
          simp only [List.cons_append, List.cons.injEq] at split
          have ⟨round, within, found⟩ := inductionHypothesis split.2.2.2
          exact ⟨round, by omega, found⟩

/-- Every sleep of a wait pauses a round that goes on. -/
theorem Reaches.sleep {base : List Event} {seconds : Rat} {later earlier : List Event}
    (reaches : wait.Reaches (⟨.monotonic, true, true⟩ :: base) outcome after)
    (split : after.history = later ++ ⟨.sleep seconds, true, true⟩ :: (earlier ++ base)) :
    ∃ round, wait.GoesOn round ∧ seconds = wait.pause round ∧
      earlier = ⟨.monotonic, true, true⟩ ::
        (wait.rounds round ++ [⟨.monotonic, true, true⟩]) := by
  obtain ⟨rounds, last, goesOn, ends, so⟩ := reaches
  have calls : last ++ (wait.rounds rounds ++ [⟨.monotonic, true, true⟩]) =
      later ++ ⟨.sleep seconds, true, true⟩ :: earlier := by
    apply (List.append_left_inj base).mp
    rw [so] at split
    simpa using split
  have passed : ∀ {later : List Event}, wait.rounds rounds ++ [⟨.monotonic, true, true⟩] =
      later ++ ⟨.sleep seconds, true, true⟩ :: earlier → ∃ round, wait.GoesOn round ∧
        seconds = wait.pause round ∧ earlier = ⟨.monotonic, true, true⟩ ::
          (wait.rounds round ++ [⟨.monotonic, true, true⟩]) := by
    intro later split
    have ⟨round, within, found⟩ := sleep_of_split (by simp) split
    exact ⟨round, goesOn round within, found⟩
  cases ends with
  | ready _ _ | failed _ _ _ _ | unobserved _ => exact passed calls
  | late _ _ _ _ =>
      match later with
      | [] => simp at calls
      | reading :: rest =>
          simp only [List.cons_append, List.nil_append, List.cons.injEq] at calls
          exact passed calls.2
  | raised applied goes answer =>
      match later with
      | [] => simp at calls
      | [inspection] =>
          simp only [List.cons_append, List.nil_append, List.cons.injEq, Event.mk.injEq,
            Call.sleep.injEq] at calls
          exact ⟨rounds, goes, calls.2.1.1.symm, calls.2.2.symm⟩
      | [inspection, sleep] => simp at calls
      | inspection :: sleep :: reading :: rest =>
          simp only [List.cons_append, List.nil_append, List.cons.injEq] at calls
          exact passed calls.2.2.2

/-- A wait that passed some rounds and did not find a ready handle succeeds at a
later round or not at all. -/
theorem Succeeds.later (goesOn : ∀ round < rounds, wait.GoesOn round) (succeeds : wait.Succeeds)
    (unready : ∀ handle, wait.observed rounds = .ok handle → handle.ready = false) :
    (∃ before, wait.observed rounds = .ok before ∧ before.failed = false) ∧
      wait.reading rounds < wait.deadline ∧
        ∃ handle, wait.observed (rounds + 1) = .ok handle := by
  obtain ⟨round, handle, answer, ready, before⟩ := succeeds
  have past : rounds < round := by
    by_contra within
    have unready' : handle.ready = false := by
      by_cases this : round = rounds
      · exact unready handle (this ▸ answer)
      · have ⟨pending, answer', unready', _⟩ := (goesOn round (by omega)).pending
        rw [answer] at answer'
        cases answer'
        exact unready'
    rw [ready] at unready'
    cases unready'
  refine ⟨(before rounds past).1, (before rounds past).2, ?_⟩
  by_cases this : round = rounds + 1
  · exact ⟨handle, this ▸ answer⟩
  · have ⟨next, answer', _⟩ := (before (rounds + 1) (by omega)).1
    exact ⟨next, answer'⟩

/-- How a wait ended decides whether it could succeed. -/
theorem Ends.returned_iff {last : List Event} (goesOn : ∀ round < rounds, wait.GoesOn round)
    (ends : wait.Ends rounds outcome last)
    (observed : rounds < wait.service.dependencies.pollRounds) :
    outcome = .returned () ↔ wait.Succeeds := by
  cases ends with
  | ready answer ready =>
      refine ⟨fun _ => ⟨rounds, _, answer, ready, fun earlier before => ?_⟩, fun _ => rfl⟩
      have ⟨pending, answer', _, sound⟩ := (goesOn earlier before).pending
      exact ⟨⟨pending, answer', sound⟩, (goesOn earlier before).early⟩
  | failed message answer unready failed =>
      refine iff_of_false (by simp) fun succeeds => ?_
      have ⟨⟨handle, answer', sound⟩, _⟩ := succeeds.later goesOn fun handle answer' => by
        rw [answer] at answer'
        cases answer'
        exact unready
      rw [answer] at answer'
      cases answer'
      rw [failed] at sound
      cases sound
  | late message answer unready late =>
      refine iff_of_false (by simp) fun succeeds => ?_
      have ⟨_, early, _⟩ := succeeds.later goesOn fun handle answer' => by
        rw [answer] at answer'
        cases answer'
        exact unready
      exact absurd early (not_lt.mpr late)
  | raised applied goes answer =>
      refine iff_of_false (by simp) fun succeeds => ?_
      have ⟨_, _, handle, answer'⟩ := succeeds.later goesOn fun handle answer' => by
        have ⟨pending, shown, unready, _⟩ := goes.pending
        rw [shown] at answer'
        cases answer'
        exact unready
      rw [answer] at answer'
      cases answer'
  | unobserved spent => omega

theorem Ends.raises {last : List Event} (ends : wait.Ends rounds outcome last)
    (observed : rounds < wait.service.dependencies.pollRounds) (ended : outcome ≠ .returned ()) :
    (∃ message, outcome = .raised (.orchestration message)) ∨
      ∃ round error, wait.observed round = .error error ∧ outcome = .raised error := by
  cases ends with
  | ready _ _ => exact absurd rfl ended
  | failed message _ _ _ | late message _ _ _ => exact .inl ⟨message, rfl⟩
  | raised applied _ answer => exact .inr ⟨rounds + 1, _, answer, rfl⟩
  | unobserved spent => omega

/-- A wait that the clock follows and that is observed for long enough has an end. -/
theorem Reaches.ended {base : List Event}
    (reaches : wait.Reaches (⟨.monotonic, true, true⟩ :: base) outcome after)
    (begun : base.length = wait.start)
    (advances : wait.service.dependencies.Advances after.history)
    (observed : wait.limit < wait.service.dependencies.pollRounds) : outcome ≠ .stopped := by
  have ⟨rounds, total, fewer, ⟨last, ends⟩, paused, slept, _⟩ := reaches.paused
  have within := rounds_le_limit paused (by simp [begun]) advances slept
  cases ends with
  | unobserved spent => omega
  | ready _ _ | failed _ _ _ _ | late _ _ _ _ | raised _ _ _ => simp

end Wait

/-- The readiness wait makes a bounded number of inspections, never sleeps past
its deadline and decides exactly, where the process runs on, the clock follows
its sleeps and the run is observed for long enough. -/
theorem readiness_wait_exact (self : SessionService) (handle : RuntimeHandle) (timeout : Duration)
    (world : World) (running : ∀ index, self.dependencies.stops index = false)
    (advances : self.dependencies.Advances (self.waitReady handle timeout world).2.history)
    (observed : (Wait.mk self handle timeout world.history.length).limit <
      self.dependencies.pollRounds) :
    (Wait.mk self handle timeout world.history.length).Exact world
      (self.waitReady handle timeout world).1 (self.waitReady handle timeout world).2 := by
  have reaches := SessionService.waitReady_reaches self handle timeout world running
  have ⟨rounds, total, fewer, ⟨last, ends⟩, paused, slept, count⟩ := reaches.paused
  have within := Wait.rounds_le_limit paused rfl advances slept
  have passed : ∀ round < rounds,
      (Wait.mk self handle timeout world.history.length).GoesOn round :=
    fun round before => paused round (by omega)
  have enough : rounds < self.dependencies.pollRounds := by omega
  constructor
  · rw [count, inspections_cons]
    simp only [Call.isInspect, Bool.false_eq_true, if_false]
    omega
  · intro later seconds earlier split
    have ⟨round, goesOn, amount, calls⟩ := reaches.sleep split
    rw [amount, calls]
    refine ⟨Wait.pause_positive Wait.interval_positive goesOn.early, _, rfl, ?_⟩
    have at' : ((Wait.mk self handle timeout world.history.length).rounds round ++
        [(⟨.monotonic, true, true⟩ : Event)] ++ world.history).length = world.history.length +
          3 * round + 1 := by
      simp only [List.length_append, Wait.rounds_length, List.length_singleton]
      omega
    rw [at']
    exact Wait.reading_pause_le round
  · exact ends.returned_iff passed enough
  · exact ends.raises enough

/-- A clock that shows two seconds more at every call. -/
def pollingService : SessionService :=
  ⟨.default, { Dependencies.fakes fun _ => 0 with
    monotonic := fun index => 2 * index
    pollRounds := 24 }⟩

/-- A runtime that is ready at the first inspection. -/
theorem starting_runtime_awaited :
    (Wait.mk pollingService ⟨9, "created", .starting⟩ 45000000 0).Exact World.empty
      (pollingService.waitReady ⟨9, "created", .starting⟩ 45000000 World.empty).1
      (pollingService.waitReady ⟨9, "created", .starting⟩ 45000000 World.empty).2 := by
  have calls :
    (pollingService.waitReady ⟨9, "created", .starting⟩ 45000000 World.empty).2.history =
      [⟨.executionInspect 9, true, true⟩, ⟨.sleep 2, true, true⟩,
        ⟨.monotonic, true, true⟩, ⟨.monotonic, true, true⟩] := by decide +kernel
  refine readiness_wait_exact pollingService ⟨9, "created", .starting⟩ 45000000 World.empty
    (fun _ => rfl) ⟨?_, ?_⟩ ?_
  · intro earlier later before
    show (2 * earlier : Rat) ≤ 2 * later
    have ordered : (earlier : Rat) ≤ later := by exact_mod_cast before
    linarith
  · intro after seconds before split
    have slept : (⟨.sleep seconds, true, true⟩ : Event) ∈
        (pollingService.waitReady ⟨9, "created", .starting⟩ 45000000
          World.empty).2.history := by
      rw [split]
      simp
    rw [calls] at slept
    have amount : seconds = 2 := by simpa using slept
    show (2 * before.length : Rat) + seconds ≤ 2 * ((before.length + 1 : Nat) : Rat)
    rw [amount]
    push_cast
    linarith
  · apply Nat.lt_succ_of_le
    apply Nat.ceil_le.mpr
    norm_num [Wait.interval, SessionService.totalSeconds, pollingService, Configuration.default]

end RetroBrowser.SessionManager
