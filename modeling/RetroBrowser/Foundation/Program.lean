import Mathlib.Logic.Basic

/-!
Owns programs that run against a mutable world and may fail. A program returns
a value, raises an error that a handler can catch, or is stopped: no handler
runs and the world stays as the last completed call left it. A stopped program
stands both for a process that dies and for a run that is observed only up to
some moment, so a fact about every outcome is a fact about every moment.
-/

namespace RetroBrowser.Foundation

/-- How a program ends. -/
inductive Outcome (ε α : Type) where
  | returned (value : α)
  | raised (error : ε)
  | stopped
deriving DecidableEq, Repr

namespace Outcome

variable {ε α : Type}

/-- The value meets `onValue`, the error meets `onError`; a stopped program
promises nothing. -/
def Meets (onValue : α → Prop) (onError : ε → Prop) : Outcome ε α → Prop
  | .returned value => onValue value
  | .raised error => onError error
  | .stopped => True

theorem Meets.weaken {onValue onValue' : α → Prop} {onError onError' : ε → Prop}
    {outcome : Outcome ε α} (meets : outcome.Meets onValue onError)
    (value : ∀ a, onValue a → onValue' a) (error : ∀ e, onError e → onError' e) :
    outcome.Meets onValue' onError' := by
  cases outcome with
  | returned a => exact value a meets
  | raised e => exact error e meets
  | stopped => trivial

end Outcome

/-- A program over the world `σ`: it raises errors `ε` and returns values `α`. -/
def Program (σ ε α : Type) : Type := σ → Outcome ε α × σ

namespace Program

variable {σ ε α β : Type}

/-- Raise an error. -/
def raise (error : ε) : Program σ ε α := fun world => (.raised error, world)

/-- Run a handler on the error a program raises; a stopped program is not handled. -/
def handle (program : Program σ ε α) (handler : ε → Program σ ε α) : Program σ ε α :=
  fun world =>
    match program world with
    | (.returned value, after) => (.returned value, after)
    | (.raised error, after) => handler error after
    | (.stopped, after) => (.stopped, after)

instance : Monad (Program σ ε) where
  pure value := fun world => (.returned value, world)
  bind program next := fun world =>
    match program world with
    | (.returned value, after) => next value after
    | (.raised error, after) => (.raised error, after)
    | (.stopped, after) => (.stopped, after)

instance : MonadExceptOf ε (Program σ ε) where
  throw := raise
  tryCatch := handle

/-- A pure computation that may raise. -/
def ofExcept : Except ε α → Program σ ε α
  | .ok value => pure value
  | .error error => raise error

/-- `if condition: raise error`. -/
def raiseIf (condition : Prop) [Decidable condition] (error : ε) : Program σ ε PUnit :=
  if condition then raise error else pure ⟨⟩

/-- `if condition: program`. -/
def runIf (condition : Prop) [Decidable condition] (program : Program σ ε PUnit) :
    Program σ ε PUnit :=
  if condition then program else pure ⟨⟩

theorem pure_apply (value : α) (world : σ) :
    (pure value : Program σ ε α) world = (.returned value, world) := rfl

theorem bind_apply (program : Program σ ε α) (next : α → Program σ ε β) (world : σ) :
    (program >>= next) world =
      match program world with
      | (.returned value, after) => next value after
      | (.raised error, after) => (.raised error, after)
      | (.stopped, after) => (.stopped, after) := rfl

theorem tryCatch_apply (program : Program σ ε α) (handler : ε → Program σ ε α)
    (world : σ) : (tryCatch program handler) world =
      match program world with
      | (.returned value, after) => (.returned value, after)
      | (.raised error, after) => handler error after
      | (.stopped, after) => (.stopped, after) := rfl

theorem bind_returned {program : Program σ ε α} {next : α → Program σ ε β}
    {world after : σ} {value : α} (run : program world = (.returned value, after)) :
    (program >>= next) world = next value after := by
  rw [bind_apply, run]

theorem bind_raised {program : Program σ ε α} {next : α → Program σ ε β} {world after : σ}
    {error : ε} (run : program world = (.raised error, after)) :
    (program >>= next) world = (.raised error, after) := by
  rw [bind_apply, run]

theorem tryCatch_returned {program : Program σ ε α} {handler : ε → Program σ ε α}
    {world after : σ} {value : α} (run : program world = (.returned value, after)) :
    (tryCatch program handler) world = (.returned value, after) := by
  rw [tryCatch_apply, run]

theorem tryCatch_raised {program : Program σ ε α} {handler : ε → Program σ ε α}
    {world after : σ} {error : ε} (run : program world = (.raised error, after)) :
    (tryCatch program handler) world = handler error after := by
  rw [tryCatch_apply, run]

/-- Mapping the value leaves the same world. -/
theorem map_after (transform : α → β) (program : Program σ ε α) (world : σ) :
    ((transform <$> program) world).2 = (program world).2 := by
  show ((program >>= fun value => pure (transform value)) world).2 = _
  rw [bind_apply]
  rcases program world with ⟨outcome, after⟩
  cases outcome <;> rfl

/-- The program returns normally. -/
def Returns (program : Program σ ε α) (world : σ) : Prop :=
  ∃ value after, program world = (.returned value, after)

theorem returns_pure (value : α) (world : σ) : (pure value : Program σ ε α).Returns world :=
  ⟨value, world, rfl⟩

theorem returns_bind {program : Program σ ε α} {next : α → Program σ ε β} {world : σ}
    (first : program.Returns world)
    (rest : ∀ value after, program world = (.returned value, after) →
      (next value).Returns after) : (program >>= next).Returns world := by
  obtain ⟨value, after, run⟩ := first
  obtain ⟨value', after', run'⟩ := rest value after run
  exact ⟨value', after', (bind_returned run).trans run'⟩

theorem returns_map {program : Program σ ε α} {transform : α → β} {world : σ}
    (first : program.Returns world) : (transform <$> program).Returns world :=
  returns_bind first fun value after _ => returns_pure (transform value) after

theorem returns_ofExcept_bind {result : Except ε α} {next : α → Program σ ε β} {world : σ}
    {value : α} (accepted : result = .ok value) (rest : (next value).Returns world) :
    (ofExcept result >>= next).Returns world := by
  rw [accepted]
  exact rest

/-- A loop whose rounds return from every world. -/
theorem returns_forM {ι : Type} {items : List ι} {body : ι → Program σ ε PUnit} {world : σ}
    (round : ∀ item ∈ items, ∀ after, (body item).Returns after) :
    (items.forM body).Returns world := by
  induction items generalizing world with
  | nil => exact returns_pure _ world
  | cons item rest inductionHypothesis =>
      exact returns_bind (round item List.mem_cons_self world) fun _ _ _ =>
        inductionHypothesis fun other member => round other (List.mem_cons_of_mem item member)

theorem returns_tryCatch {program : Program σ ε α} {handler : ε → Program σ ε α}
    {world : σ} (first : program.Returns world) : (tryCatch program handler).Returns world := by
  obtain ⟨value, after, run⟩ := first
  exact ⟨value, after, tryCatch_returned run⟩

theorem returns_ite {condition : Prop} [Decidable condition] {yes no : Program σ ε α}
    {world : σ}
    (holds : condition → yes.Returns world) (fails : ¬condition → no.Returns world) :
    (if condition then yes else no).Returns world := by
  split
  · exact holds ‹_›
  · exact fails ‹_›

end Program

end RetroBrowser.Foundation
