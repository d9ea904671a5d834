import Mathlib.Data.List.Induction
import Mathlib.Data.List.Nodup
import Mathlib.Logic.Function.Basic

/-!
Owns linearizability. Clients call one object at the same time; a history shows
when each call begins and what it is answered. A linearization lists the answered
calls, and perhaps some more, in one order in which the object answers the same
when it is called once at a time, and in which no call stands before one that was
answered before it began.

Contract: the atomic system performs every call at one moment between its
beginning and its answer. The histories of the atomic system have linearizations,
and so do those of every system that it simulates.
-/

namespace RetroBrowser.Foundation.Concurrent

/-- An object that is called once at a time: what a call answers, and the state it leaves. -/
structure Object (σ ι ρ : Type) where
  initial : σ
  perform : ι → σ → ρ × σ

/-- The beginning of a call, known by its token, or its answer. -/
inductive Event (κ ι ρ : Type) where
  | called (token : κ) (operation : ι)
  | answered (token : κ) (answer : ρ)
deriving DecidableEq, Repr

/-- A call with its answer. -/
structure Call (κ ι ρ : Type) where
  token : κ
  operation : ι
  answer : ρ
deriving DecidableEq, Repr

/-- A system with labelled moves. -/
structure System (σ ℓ : Type) where
  initial : σ
  Step : σ → List ℓ → σ → Prop

variable {κ σ τ ι ρ ℓ : Type}

/-- The labels of a run, in order, and the state it has reached. -/
inductive System.Run (system : System σ ℓ) : List ℓ → σ → Prop
  | start : Run system [] system.initial
  | step {shown labels : List ℓ} {before after : σ} (run : Run system shown before)
      (step : system.Step before labels after) : Run system (shown ++ labels) after

/-- What every step keeps, every run keeps. -/
theorem System.Run.keeps {system : System σ ℓ} {shown : List ℓ} {state : σ}
    (run : system.Run shown state) (fact : List ℓ → σ → Prop)
    (start : fact [] system.initial)
    (step : ∀ shown labels before after, system.Run shown before → fact shown before →
      system.Step before labels after → fact (shown ++ labels) after) : fact shown state := by
  induction run with
  | start => exact start
  | step run move inductionHypothesis => exact step _ _ _ _ run inductionHypothesis move

/-- The calls, one after the other, and the state they leave. -/
inductive Object.Sequence (object : Object σ ι ρ) : List (Call κ ι ρ) → σ → Prop
  | start : Sequence object [] object.initial
  | call {calls : List (Call κ ι ρ)} {state : σ} (earlier : Sequence object calls state)
      (token : κ) (operation : ι) :
      Sequence object (calls ++ [⟨token, operation, (object.perform operation state).1⟩])
        (object.perform operation state).2

section Orders

variable (history : List (Event κ ι ρ)) (calls : List (Call κ ι ρ)) (first second : κ)

/-- The first call is answered before the second begins. -/
def Precedes : Prop :=
  ∃ early late answer operation, history = early ++ late ∧ .answered first answer ∈ early ∧
    .called second operation ∈ late

/-- The first call stands before the second. -/
def Before : Prop :=
  ∃ early late, calls = early ++ late ∧ first ∈ early.map Call.token ∧
    second ∈ late.map Call.token

end Orders

/-- An order of the calls that explains the answers. -/
structure Linearizes (object : Object σ ι ρ) (history : List (Event κ ι ρ))
    (calls : List (Call κ ι ρ)) : Prop where
  sequential : ∃ state, object.Sequence calls state
  once : (calls.map Call.token).Nodup
  called : ∀ call ∈ calls, .called call.token call.operation ∈ history
  answered : ∀ token answer, .answered token answer ∈ history →
    ∃ operation, ⟨token, operation, answer⟩ ∈ calls
  realTime : ∀ first second, Precedes history first second → second ∈ calls.map Call.token →
    Before calls first second

/-- How far a call is. -/
inductive Phase (ι ρ : Type) where
  | idle
  | calling (operation : ι)
  | settled (operation : ι) (answer : ρ)
  | finished
deriving DecidableEq, Repr

/-- The state of the object and of all calls. -/
structure Atomic (κ σ ι ρ : Type) where
  value : σ
  phase : κ → Phase ι ρ

section AtomicSystem

variable [DecidableEq κ] (object : Object σ ι ρ)

/-- A call begins, is performed, or is answered. -/
inductive Atomic.Step : Atomic κ σ ι ρ → List (Event κ ι ρ) → Atomic κ σ ι ρ → Prop
  | call {state : Atomic κ σ ι ρ} {token : κ} (idle : state.phase token = .idle)
      (operation : ι) :
      Step state [.called token operation]
        ⟨state.value, Function.update state.phase token (.calling operation)⟩
  | settle {state : Atomic κ σ ι ρ} {token : κ} {operation : ι}
      (calling : state.phase token = .calling operation) :
      Step state []
        ⟨(object.perform operation state.value).2, Function.update state.phase token
          (.settled operation (object.perform operation state.value).1)⟩
  | answer {state : Atomic κ σ ι ρ} {token : κ} {operation : ι} {answer : ρ}
      (settled : state.phase token = .settled operation answer) :
      Step state [.answered token answer]
        ⟨state.value, Function.update state.phase token .finished⟩

/-- Every call is performed at one moment between its beginning and its answer. -/
def Object.atomic : System (Atomic κ σ ι ρ) (Event κ ι ρ) where
  initial := ⟨object.initial, fun _ => .idle⟩
  Step := Atomic.Step object

/-- Any number of moves. -/
inductive Atomic.Path : Atomic κ σ ι ρ → List (Event κ ι ρ) → Atomic κ σ ι ρ → Prop
  | refl (state : Atomic κ σ ι ρ) : Path state [] state
  | step {start between finish : Atomic κ σ ι ρ} {events more : List (Event κ ι ρ)}
      (path : Path start events between) (step : Atomic.Step object between more finish) :
      Path start (events ++ more) finish

variable {object}

theorem Atomic.Path.single {before after : Atomic κ σ ι ρ} {events : List (Event κ ι ρ)}
    (step : Atomic.Step object before events after) : Atomic.Path object before events after :=
  .step (.refl before) step

theorem Atomic.Path.trans {start between finish : Atomic κ σ ι ρ}
    {events more : List (Event κ ι ρ)} (path : Atomic.Path object start events between)
    (further : Atomic.Path object between more finish) :
    Atomic.Path object start (events ++ more) finish := by
  induction further with
  | refl => rwa [List.append_nil]
  | step _ move inductionHypothesis =>
      rw [← List.append_assoc]
      exact .step inductionHypothesis move

/-- A run of the atomic system goes on along a path. -/
theorem Atomic.Path.run {before after : Atomic κ σ ι ρ} {history events : List (Event κ ι ρ)}
    (path : Atomic.Path object before events after) (run : object.atomic.Run history before) :
    object.atomic.Run (history ++ events) after := by
  induction path with
  | refl => rwa [List.append_nil]
  | step _ move inductionHypothesis =>
      rw [← List.append_assoc]
      exact .step inductionHypothesis move

/-- A call that begins, is performed and is answered with nothing in between. -/
theorem Atomic.Path.whole {state : Atomic κ σ ι ρ} {token : κ}
    (idle : state.phase token = .idle) (operation : ι) :
    Atomic.Path object state
      [.called token operation, .answered token (object.perform operation state.value).1]
      ⟨(object.perform operation state.value).2,
        Function.update state.phase token .finished⟩ := by
  have called : Atomic.Step object state [.called token operation]
      ⟨state.value, Function.update state.phase token (.calling operation)⟩ :=
        .call idle operation
  have settled : Atomic.Step object
      ⟨state.value, Function.update state.phase token (.calling operation)⟩ [] _ :=
    .settle (Function.update_self ..)
  rw [Function.update_idem] at settled
  have answered : Atomic.Step object
      ⟨(object.perform operation state.value).2, Function.update state.phase token
        (.settled operation (object.perform operation state.value).1)⟩ _ _ :=
    .answer (Function.update_self ..)
  rw [Function.update_idem] at answered
  exact ((Atomic.Path.single called).trans (.single settled)).trans (.single answered)

/-- Calls that leave the object as it is can be performed together. -/
theorem Atomic.Path.settleAll {state : Atomic κ σ ι ρ} (tokens : List κ)
    {phase : κ → Phase ι ρ}
    (others : ∀ token, token ∉ tokens → phase token = state.phase token)
    (each : ∀ token, phase token = state.phase token ∨
      ∃ operation answer, state.phase token = .calling operation ∧
        object.perform operation state.value = (answer, state.value) ∧
        phase token = .settled operation answer) :
    Atomic.Path object state [] ⟨state.value, phase⟩ := by
  induction tokens generalizing state with
  | nil =>
      have same : phase = state.phase := funext fun token => others token List.not_mem_nil
      rw [same]
      exact .refl state
  | cons head tail inductionHypothesis =>
      have behind : ∀ between : Atomic κ σ ι ρ, between.value = state.value →
          between.phase = Function.update state.phase head (phase head) →
          Atomic.Path object between [] ⟨state.value, phase⟩ := by
        intro between value phases
        rw [← value]
        apply inductionHypothesis
        · intro token outside
          rw [phases]
          by_cases same : token = head
          · rw [same, Function.update_self]
          · rw [Function.update_of_ne same, others token (by simp [same, outside])]
        · intro token
          rw [phases, value]
          by_cases same : token = head
          · rw [same, Function.update_self]
            exact Or.inl rfl
          · rw [Function.update_of_ne same]
            exact each token
      cases each head with
      | inl unchanged => exact behind state rfl (by rw [unchanged, Function.update_eq_self])
      | inr settles =>
          have ⟨operation, answer, calling, performed, becomes⟩ := settles
          have step : Atomic.Step object state [] _ := .settle calling
          rw [performed] at step
          exact (Atomic.Path.single step).trans (behind _ rfl (by rw [becomes]))

end AtomicSystem

section Orders

variable {history : List (Event κ ι ρ)} {calls : List (Call κ ι ρ)} {first second : κ}

theorem Before.extend (before : Before calls first second) (call : Call κ ι ρ) :
    Before (calls ++ [call]) first second := by
  have ⟨early, late, equal, earlier, later⟩ := before
  refine ⟨early, late ++ [call], by rw [equal, List.append_assoc], earlier, ?_⟩
  rw [List.map_append]
  exact List.mem_append_left _ later

theorem Before.last (call : Call κ ι ρ) (member : first ∈ calls.map Call.token) :
    Before (calls ++ [call]) first call.token :=
  ⟨calls, [call], rfl, member, List.mem_singleton.mpr rfl⟩

/-- What is answered before something else has been answered. -/
theorem Precedes.answered (precedes : Precedes history first second) :
    ∃ answer, .answered first answer ∈ history := by
  have ⟨early, late, answer, operation, equal, answered, called⟩ := precedes
  rw [equal]
  exact ⟨answer, List.mem_append_left _ answered⟩

/-- An event that does not begin the later call adds nothing to the order. -/
theorem Precedes.shorten {event : Event κ ι ρ}
    (precedes : Precedes (history ++ [event]) first second)
    (other : ∀ operation, event ≠ .called second operation) :
    Precedes history first second := by
  have ⟨early, late, answer, operation, equal, answered, called⟩ := precedes
  cases List.eq_nil_or_concat late with
  | inl none =>
      rw [none] at called
      exact absurd called List.not_mem_nil
  | inr more =>
      have ⟨rest, last, split⟩ := more
      rw [split, List.concat_eq_append, ← List.append_assoc] at equal
      have ⟨whole, same⟩ := List.append_inj' equal rfl
      have same : event = last := List.head_eq_of_cons_eq same
      rw [split, List.concat_eq_append, ← same] at called
      cases List.mem_append.mp called with
      | inl inside => exact ⟨early, rest, answer, operation, whole, answered, inside⟩
      | inr alone => exact absurd (List.mem_singleton.mp alone).symm (other operation)

variable (history calls) in
/-- What the history and the calls performed say of a call. -/
def Recorded (token : κ) : Phase ι ρ → Prop
  | .idle => ∀ operation, .called token operation ∉ history
  | .calling operation => .called token operation ∈ history ∧ token ∉ calls.map Call.token
  | .settled operation answer => ⟨token, operation, answer⟩ ∈ calls
  | .finished => True

/-- An event adds nothing for a call that it does not begin. -/
theorem Recorded.event {token : κ} {phase : Phase ι ρ}
    (recorded : Recorded history calls token phase)
    {event : Event κ ι ρ} (other : ∀ operation, event ≠ .called token operation) :
    Recorded (history ++ [event]) calls token phase := by
  cases phase with
  | idle =>
      intro operation member
      cases List.mem_append.mp member with
      | inl earlier => exact recorded operation earlier
      | inr last => exact other operation (List.mem_singleton.mp last).symm
  | calling operation => exact ⟨List.mem_append_left _ recorded.1, recorded.2⟩
  | settled operation answer => exact recorded
  | finished => trivial

theorem Recorded.perform {token : κ} {phase : Phase ι ρ}
    (recorded : Recorded history calls token phase) {call : Call κ ι ρ}
    (other : token ≠ call.token) : Recorded history (calls ++ [call]) token phase := by
  cases phase with
  | idle => exact recorded
  | calling operation =>
      have ⟨begun, waiting⟩ := recorded
      refine ⟨begun, ?_⟩
      rw [List.map_append, List.mem_append, not_or]
      exact ⟨waiting, fun last => other (List.mem_singleton.mp last)⟩
  | settled operation answer => exact List.mem_append_left _ recorded
  | finished => trivial

end Orders

section Runs

variable [DecidableEq κ] {object : Object σ ι ρ}

/-- What holds of the calls performed so far, in the order in which they were. -/
structure Linearized (object : Object σ ι ρ) (history : List (Event κ ι ρ))
    (state : Atomic κ σ ι ρ) (calls : List (Call κ ι ρ)) : Prop
    extends Linearizes object history calls where
  reached : object.Sequence calls state.value
  recorded : ∀ token, Recorded history calls token (state.phase token)

variable {history : List (Event κ ι ρ)} {state : Atomic κ σ ι ρ}
  {calls : List (Call κ ι ρ)}

omit [DecidableEq κ] in
/-- A call that has not begun has not been performed. -/
theorem Linearized.unperformed (linearized : Linearized object history state calls) {token : κ}
    (idle : state.phase token = .idle) : token ∉ calls.map Call.token := by
  intro member
  have ⟨call, performed, same⟩ := List.mem_map.mp member
  have fresh := linearized.recorded token
  rw [idle, ← same] at fresh
  exact fresh _ (linearized.called call performed)

theorem Linearized.call (linearized : Linearized object history state calls) {token : κ}
    (idle : state.phase token = .idle) (operation : ι) :
    Linearized object (history ++ [.called token operation])
      ⟨state.value, Function.update state.phase token (.calling operation)⟩ calls where
  sequential := linearized.sequential
  once := linearized.once
  called := fun call member => List.mem_append_left _ (linearized.called call member)
  answered := by
    intro other answer member
    cases List.mem_append.mp member with
    | inl earlier => exact linearized.answered other answer earlier
    | inr last => cases List.mem_singleton.mp last
  realTime := by
    intro first second precedes member
    apply linearized.realTime first second _ member
    apply precedes.shorten
    intro operation same
    injection same with tokens
    rw [← tokens] at member
    exact linearized.unperformed idle member
  reached := linearized.reached
  recorded := by
    apply (Function.forall_update_iff _ (Recorded _ calls)).mpr
    constructor
    · exact ⟨by simp, linearized.unperformed idle⟩
    · intro other different
      apply (linearized.recorded other).event
      intro operation same
      injection same with tokens
      exact different tokens.symm

theorem Linearized.settle (linearized : Linearized object history state calls) {token : κ}
    {operation : ι} (calling : state.phase token = .calling operation) :
    Linearized object history
      ⟨(object.perform operation state.value).2, Function.update state.phase token
        (.settled operation (object.perform operation state.value).1)⟩
      (calls ++ [⟨token, operation, (object.perform operation state.value).1⟩]) := by
  have waits := linearized.recorded token
  rw [calling] at waits
  have ⟨begun, waiting⟩ := waits
  exact {
    sequential := ⟨_, linearized.reached.call token operation⟩
    once := by
      rw [List.map_append, List.nodup_append]
      refine ⟨linearized.once, List.nodup_singleton _, ?_⟩
      intro earlier member last single same
      rw [List.map_singleton, List.mem_singleton] at single
      rw [same, single] at member
      exact waiting member
    called := by
      intro call member
      cases List.mem_append.mp member with
      | inl earlier => exact linearized.called call earlier
      | inr last =>
          rw [List.mem_singleton.mp last]
          exact begun
    answered := by
      intro other answer member
      have ⟨performed, earlier⟩ := linearized.answered other answer member
      exact ⟨performed, List.mem_append_left _ earlier⟩
    realTime := by
      intro first second precedes member
      rw [List.map_append, List.mem_append] at member
      cases member with
      | inl earlier => exact (linearized.realTime first second precedes earlier).extend _
      | inr last =>
          -- What is answered already has been performed, so it stands before the new call.
          have ⟨answer, answered⟩ := precedes.answered
          have ⟨performed, earlier⟩ := linearized.answered first answer answered
          rw [List.mem_singleton.mp last]
          exact .last _ (List.mem_map_of_mem (f := Call.token) earlier)
    reached := linearized.reached.call token operation
    recorded := by
      apply (Function.forall_update_iff _ (Recorded history _)).mpr
      constructor
      · exact List.mem_append_right _ (List.mem_singleton.mpr rfl)
      · intro other different
        exact (linearized.recorded other).perform different }

theorem Linearized.answer (linearized : Linearized object history state calls) {token : κ}
    {operation : ι} {answer : ρ} (settled : state.phase token = .settled operation answer) :
    Linearized object (history ++ [.answered token answer])
      ⟨state.value, Function.update state.phase token .finished⟩ calls where
  sequential := linearized.sequential
  once := linearized.once
  called := fun call member => List.mem_append_left _ (linearized.called call member)
  answered := by
    intro other given member
    cases List.mem_append.mp member with
    | inl earlier => exact linearized.answered other given earlier
    | inr last =>
        have performed := linearized.recorded token
        rw [settled] at performed
        injection List.mem_singleton.mp last with tokens answers
        rw [tokens, answers]
        exact ⟨operation, performed⟩
  realTime := by
    intro first second precedes member
    exact linearized.realTime first second (precedes.shorten fun _ same => by cases same) member
  reached := linearized.reached
  recorded := by
    apply (Function.forall_update_iff _ (Recorded _ calls)).mpr
    constructor
    · trivial
    · intro other _
      exact (linearized.recorded other).event fun _ same => by cases same

theorem Linearized.start :
    Linearized object [] object.atomic.initial ([] : List (Call κ ι ρ)) where
  sequential := ⟨_, .start⟩
  once := List.nodup_nil
  called := by simp
  answered := by simp
  realTime := by simp
  reached := .start
  recorded := fun _ _ => List.not_mem_nil

/-- The calls of the atomic system, in the order in which they are performed. -/
theorem Atomic.linearized (run : object.atomic.Run history state) :
    ∃ calls, Linearized object history state calls := by
  apply run.keeps fun history state => ∃ calls, Linearized object history state calls
  · exact ⟨[], .start⟩
  · intro history events before after _ earlier move
    have ⟨calls, linearized⟩ := earlier
    cases move with
    | call idle operation => exact ⟨calls, linearized.call idle operation⟩
    | settle calling =>
        rw [List.append_nil]
        exact ⟨_, linearized.settle calling⟩
    | answer settled => exact ⟨calls, linearized.answer settled⟩

variable (visible : ℓ → Option (Event κ ι ρ))

/-- The atomic system can follow every move, showing what is visible of it. -/
structure Simulates (system : System τ ℓ) (object : Object σ ι ρ)
    (related : τ → Atomic κ σ ι ρ → Prop) : Prop where
  start : related system.initial object.atomic.initial
  step : ∀ shown before labels after abstract, system.Run shown before →
    related before abstract →
    system.Step before labels after →
    ∃ abstract', Atomic.Path object abstract (labels.filterMap visible) abstract' ∧
      related after abstract'

variable {visible} {system : System τ ℓ} {related : τ → Atomic κ σ ι ρ → Prop}

theorem Simulates.run (simulates : Simulates visible system object related) {shown : List ℓ}
    {state : τ} (run : system.Run shown state) :
    ∃ abstract, object.atomic.Run (shown.filterMap visible) abstract ∧
      related state abstract := by
  apply run.keeps fun shown state => ∃ abstract,
    object.atomic.Run (shown.filterMap visible) abstract ∧ related state abstract
  · exact ⟨_, .start, simulates.start⟩
  · intro shown labels before after run earlier move
    have ⟨abstract, atomic, holds⟩ := earlier
    have ⟨abstract', path, holds'⟩ :=
      simulates.step shown before labels after abstract run holds move
    rw [List.filterMap_append]
    exact ⟨abstract', path.run atomic, holds'⟩

/-- Every run of a simulated system has a linearization. -/
theorem Simulates.linearizes (simulates : Simulates visible system object related)
    {shown : List ℓ} {state : τ} (run : system.Run shown state) :
    ∃ calls, Linearizes object (shown.filterMap visible) calls := by
  have ⟨abstract, atomic, _⟩ := simulates.run run
  have ⟨calls, linearized⟩ := Atomic.linearized atomic
  exact ⟨calls, linearized.toLinearizes⟩

end Runs

section Sequences

variable {object : Object σ ι ρ} {calls early late : List (Call κ ι ρ)} {state : σ}

/-- The last call answers as it does in the state that the others leave. -/
theorem Object.Sequence.last {call : Call κ ι ρ}
    (sequence : object.Sequence (calls ++ [call]) state) :
    ∃ before, object.Sequence calls before ∧
      (object.perform call.operation before).1 = call.answer := by
  generalize all : calls ++ [call] = performed at sequence
  cases sequence with
  | start => exact absurd all (by simp)
  | @call earlier before sequence token operation =>
      have ⟨same, lasts⟩ := List.append_inj' all rfl
      have same_call := List.head_eq_of_cons_eq lasts
      rw [same, same_call]
      exact ⟨before, sequence, rfl⟩

/-- Every call answers as it does in the state that the earlier ones leave. -/
theorem Object.Sequence.performed {call : Call κ ι ρ}
    (sequence : object.Sequence (early ++ call :: late) state) :
    ∃ before, object.Sequence early before ∧
      (object.perform call.operation before).1 = call.answer := by
  induction late using List.reverseRecOn generalizing state with
  | nil => exact sequence.last
  | append_singleton rest final inductionHypothesis =>
      rw [← List.cons_append, ← List.append_assoc] at sequence
      have ⟨between, shorter, _⟩ := sequence.last
      exact inductionHypothesis shorter

/-- What one call establishes and every call keeps holds at the end. -/
theorem Object.Sequence.established (sequence : object.Sequence calls state)
    {first : Call κ ι ρ} (member : first ∈ calls) (fact : σ → Prop)
    (establishes : ∀ before, (object.perform first.operation before).1 = first.answer →
      fact (object.perform first.operation before).2)
    (keeps : ∀ call ∈ calls, ∀ before, fact before →
      fact (object.perform call.operation before).2) : fact state := by
  induction sequence with
  | start => exact absurd member List.not_mem_nil
  | @call earlier before sequence token operation inductionHypothesis =>
      have last :=
        keeps ⟨token, operation, _⟩ (List.mem_append_right _ (List.mem_singleton.mpr rfl))
      cases List.mem_append.mp member with
      | inl early =>
          apply last before
          exact inductionHypothesis early fun call inside =>
            keeps call (List.mem_append_left _ inside)
      | inr now =>
          rw [List.mem_singleton.mp now] at establishes
          exact establishes before rfl

/-- Of two calls, one stands before the other. -/
theorem Before.total {first second : Call κ ι ρ} (performed : first ∈ calls)
    (performed' : second ∈ calls) (different : first.token ≠ second.token) :
    Before calls first.token second.token ∨ Before calls second.token first.token := by
  have ⟨early, late, split⟩ := List.append_of_mem performed
  rw [split] at performed' ⊢
  cases List.mem_append.mp performed' with
  | inl before =>
      exact Or.inr ⟨early, first :: late, rfl, List.mem_map_of_mem before, List.mem_cons_self⟩
  | inr behind =>
      cases List.mem_cons.mp behind with
      | inl same => exact absurd (congrArg Call.token same).symm different
      | inr after =>
          refine Or.inl ⟨early ++ [first], late, by simp, ?_, List.mem_map_of_mem after⟩
          exact List.mem_map_of_mem (List.mem_append_right _ (List.mem_singleton.mpr rfl))

variable {history : List (Event κ ι ρ)}

/-- A call sees what an earlier one has established and every call keeps. -/
theorem Linearizes.sees (linearizes : Linearizes object history calls)
    {first second : Call κ ι ρ} (performed : first ∈ calls) (performed' : second ∈ calls)
    (before : Before calls first.token second.token) (fact : σ → Prop)
    (establishes : ∀ before, (object.perform first.operation before).1 = first.answer →
      fact (object.perform first.operation before).2)
    (keeps : ∀ call ∈ calls, ∀ before, fact before →
      fact (object.perform call.operation before).2) :
    ∃ before, fact before ∧ (object.perform second.operation before).1 = second.answer := by
  have ⟨early, late, split, firstEarly, secondLate⟩ := before
  have ⟨state, sequence⟩ := linearizes.sequential
  have once := linearizes.once
  rw [split, List.map_append, List.nodup_append] at once
  have apart := once.2.2
  rw [split] at performed performed' sequence keeps
  have earlier : first ∈ early := by
    refine (List.mem_append.mp performed).resolve_right fun late => ?_
    exact apart _ firstEarly _ (List.mem_map_of_mem late) rfl
  have later : second ∈ late := by
    refine (List.mem_append.mp performed').resolve_left fun early => ?_
    exact apart _ (List.mem_map_of_mem early) _ secondLate rfl
  have ⟨front, back, split'⟩ := List.append_of_mem later
  rw [split', ← List.append_assoc] at sequence
  have ⟨before, shorter, answered⟩ := sequence.performed
  refine ⟨before, ?_, answered⟩
  apply shorter.established (List.mem_append_left _ earlier) fact establishes
  intro call member
  apply keeps call
  rw [split']
  cases List.mem_append.mp member with
  | inl inside => exact List.mem_append_left _ inside
  | inr inside => exact List.mem_append_right _ (List.mem_append_left _ inside)

end Sequences

end RetroBrowser.Foundation.Concurrent
