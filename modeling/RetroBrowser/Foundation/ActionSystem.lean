import Mathlib.Logic.Relation
import RetroBrowser.Foundation.Program

/-!
Owns guarded action systems and the rules that relate programs to them. An
action system says which actions are enabled in a world and what each one does
to it; a program *follows* the system when every world it passes through is
reached by enabled and permitted actions, whichever way the program ends.

The rules are syntax directed: one per program constructor, plus `follows_step`
for a program that is a single action. An invariant of the system is proved
once, action by action, and is then available before every call of a program.
-/

namespace RetroBrowser.Foundation

/-- Actions `α` over worlds `σ`, with the invariant every enabled action keeps. -/
structure ActionSystem (σ α : Type) where
  Enabled : σ → α → Prop
  apply : σ → α → σ
  Invariant : σ → Prop
  preserved : ∀ world action, Invariant world → Enabled world action →
    Invariant (apply world action)

namespace ActionSystem

variable {σ α ε β γ : Type} (system : ActionSystem σ α) (permitted : σ → α → Prop)

/-- One permitted and enabled action. -/
def Step (before after : σ) : Prop :=
  ∃ action, permitted before action ∧ system.Enabled before action ∧
    after = system.apply before action

/-- Any number of permitted and enabled actions. -/
def Path : σ → σ → Prop := Relation.ReflTransGen (system.Step permitted)

variable {system permitted}

theorem Path.invariant {before after : σ} (path : system.Path permitted before after)
    (holds : system.Invariant before) : system.Invariant after := by
  induction path with
  | refl => exact holds
  | tail _ step inductionHypothesis =>
      obtain ⟨action, -, enabled, rfl⟩ := step
      exact system.preserved _ action inductionHypothesis enabled

/-- A fact that every permitted action keeps holds at the end of a path. The
system's own invariant may be used at each action. -/
theorem Path.keeps (fact : σ → Prop) {before after : σ}
    (path : system.Path permitted before after) (invariant : system.Invariant before)
    (step : ∀ world action, system.Invariant world → permitted world action →
      system.Enabled world action → fact world → fact (system.apply world action))
    (holds : fact before) : fact after := by
  induction path with
  | refl => exact holds
  | tail path step' inductionHypothesis =>
      obtain ⟨action, allowed, enabled, rfl⟩ := step'
      exact step _ action (Path.invariant path invariant) allowed enabled inductionHypothesis

variable (system permitted)

/-- From `world`, which satisfies the invariant, the program moves by permitted
actions only, and its value or error meets the postcondition in the world it
leaves. -/
def Follows (world : σ) (program : Program σ ε β) (onValue : β → σ → Prop)
    (onError : ε → σ → Prop) : Prop :=
  system.Invariant world →
    system.Path permitted world (program world).2 ∧
      (program world).1.Meets (fun value => onValue value (program world).2)
        (fun error => onError error (program world).2)

variable {system permitted}
variable {world : σ} {onValue : β → σ → Prop} {onError : ε → σ → Prop}

/-- The invariant may be used to show that a program follows the system. -/
theorem follows_of_invariant {program : Program σ ε β}
    (follows : system.Invariant world → system.Follows permitted world program onValue onError) :
    system.Follows permitted world program onValue onError :=
  fun invariant => follows invariant invariant

theorem follows_pure {value : β} (holds : onValue value world) :
    system.Follows permitted world (pure value : Program σ ε β) onValue onError :=
  fun _ => ⟨Relation.ReflTransGen.refl, holds⟩

theorem follows_throw {error : ε} (holds : onError error world) :
    system.Follows permitted world (throw error : Program σ ε β) onValue onError :=
  fun _ => ⟨Relation.ReflTransGen.refl, holds⟩

theorem follows_pure_bind {value : γ} {next : γ → Program σ ε β}
    (rest : system.Follows permitted world (next value) onValue onError) :
    system.Follows permitted world (pure value >>= next) onValue onError :=
  rest

/-- A pure computation that may raise, and what follows it. -/
theorem follows_ofExcept_bind {result : Except ε γ} {next : γ → Program σ ε β}
    (value : ∀ c, result = .ok c → system.Follows permitted world (next c) onValue onError)
    (error : ∀ e, result = .error e → onError e world) :
    system.Follows permitted world (Program.ofExcept result >>= next) onValue onError := by
  cases result with
  | ok c => exact follows_pure_bind (value c rfl)
  | error e => exact fun _ => ⟨Relation.ReflTransGen.refl, error e rfl⟩

theorem follows_ite {condition : Prop} [Decidable condition] {yes no : Program σ ε β}
    (holds : condition → system.Follows permitted world yes onValue onError)
    (fails : ¬condition → system.Follows permitted world no onValue onError) :
    system.Follows permitted world (if condition then yes else no) onValue onError := by
  split
  · exact holds ‹_›
  · exact fails ‹_›

theorem follows_step {program : Program σ ε β} (outcome : Outcome ε β) (action : α)
    (run : program world = (outcome, system.apply world action))
    (allowed : permitted world action) (enabled : system.Enabled world action)
    (meets : outcome.Meets (fun value => onValue value (system.apply world action))
      (fun error => onError error (system.apply world action))) :
    system.Follows permitted world program onValue onError := by
  intro _
  rw [run]
  exact ⟨Relation.ReflTransGen.single ⟨action, allowed, enabled, rfl⟩, meets⟩

theorem follows_stay {program : Program σ ε β} (outcome : Outcome ε β)
    (run : program world = (outcome, world))
    (meets : outcome.Meets (fun value => onValue value world) (fun error => onError error world)) :
    system.Follows permitted world program onValue onError := by
  intro _
  rw [run]
  exact ⟨Relation.ReflTransGen.refl, meets⟩

theorem follows_bind {program : Program σ ε β} {next : β → Program σ ε γ}
    {onValue' : γ → σ → Prop}
    (first : system.Follows permitted world program onValue onError)
    (rest : ∀ value after, system.Invariant after → onValue value after →
      system.Follows permitted after (next value) onValue' onError) :
    system.Follows permitted world (program >>= next) onValue' onError := by
  intro invariant
  obtain ⟨path, meets⟩ := first invariant
  rw [Program.bind_apply]
  rcases run : program world with ⟨outcome, after⟩
  rw [run] at path meets
  cases outcome with
  | returned value =>
      have reached := path.invariant invariant
      obtain ⟨path', meets'⟩ := rest value after reached meets reached
      exact ⟨path.trans path', meets'⟩
  | raised error => exact ⟨path, meets⟩
  | stopped => exact ⟨path, trivial⟩

theorem follows_map {program : Program σ ε β} {transform : β → γ}
    {onValue' : γ → σ → Prop} (follows : system.Follows permitted world program
      (fun value => onValue' (transform value)) onError) :
    system.Follows permitted world (transform <$> program) onValue' onError :=
  follows_bind follows fun _ _ _ holds => follows_pure holds

/-- `follows_bind` with the assertion between the two programs written out. -/
theorem follows_via {program : Program σ ε β} {next : β → Program σ ε γ}
    {onValue' : γ → σ → Prop} (middle : β → σ → Prop)
    (first : system.Follows permitted world program middle onError)
    (rest : ∀ value after, system.Invariant after → middle value after →
      system.Follows permitted after (next value) onValue' onError) :
    system.Follows permitted world (program >>= next) onValue' onError :=
  follows_bind first rest

theorem follows_tryCatch {program : Program σ ε β} {handler : ε → Program σ ε β}
    (between : ε → σ → Prop)
    (body : system.Follows permitted world program onValue between)
    (handled : ∀ error after, system.Invariant after → between error after →
      system.Follows permitted after (handler error) onValue onError) :
    system.Follows permitted world (tryCatch program handler) onValue onError := by
  intro invariant
  obtain ⟨path, meets⟩ := body invariant
  rw [Program.tryCatch_apply]
  rcases run : program world with ⟨outcome, after⟩
  rw [run] at path meets
  cases outcome with
  | returned value => exact ⟨path, meets⟩
  | raised error =>
      have reached := path.invariant invariant
      obtain ⟨path', meets'⟩ := handled error after reached meets reached
      exact ⟨path.trans path', meets'⟩
  | stopped => exact ⟨path, trivial⟩

theorem Follows.weaken {program : Program σ ε β} {onValue' : β → σ → Prop}
    {onError' : ε → σ → Prop}
    (follows : system.Follows permitted world program onValue onError)
    (value : ∀ b after, onValue b after → onValue' b after)
    (error : ∀ e after, onError e after → onError' e after) :
    system.Follows permitted world program onValue' onError' := by
  intro invariant
  obtain ⟨path, meets⟩ := follows invariant
  exact ⟨path, meets.weaken (fun b => value b _) (fun e => error e _)⟩

theorem Follows.weakenValue {program : Program σ ε β} {onValue' : β → σ → Prop}
    (follows : system.Follows permitted world program onValue onError)
    (value : ∀ b after, onValue b after → onValue' b after) :
    system.Follows permitted world program onValue' onError :=
  follows.weaken value fun _ _ holds => holds

/-- The path a program took may be used in its postcondition. -/
theorem Follows.withPath {program : Program σ ε β}
    (follows : system.Follows permitted world program onValue onError) :
    system.Follows permitted world program
      (fun value after => system.Path permitted world after ∧ onValue value after) onError := by
  intro invariant
  obtain ⟨path, meets⟩ := follows invariant
  exact ⟨path, meets.weaken (fun _ holds => ⟨path, holds⟩) (fun _ holds => holds)⟩

/-- The postcondition of a program that returned. -/
theorem Follows.returned {program : Program σ ε β} {value : β} {after : σ}
    (follows : system.Follows permitted world program onValue onError)
    (invariant : system.Invariant world) (run : program world = (.returned value, after)) :
    system.Invariant after ∧ onValue value after := by
  obtain ⟨path, meets⟩ := follows invariant
  rw [run] at path meets
  exact ⟨path.invariant invariant, meets⟩

/-- A loop over a list: `fact` speaks of the items still to come. -/
theorem follows_forM {ι : Type} {items : List ι} {body : ι → Program σ ε PUnit}
    (fact : List ι → σ → Prop) (start : fact items world)
    (round : ∀ item rest after, system.Invariant after → item ∈ items →
      fact (item :: rest) after →
      system.Follows permitted after (body item) (fun _ => fact rest) onError) :
    system.Follows permitted world (items.forM body) (fun _ => fact []) onError := by
  induction items generalizing world with
  | nil => exact follows_pure start
  | cons item rest inductionHypothesis =>
      intro invariant
      refine follows_bind (round item rest world invariant List.mem_cons_self start)
        (fun _ after _ holds => inductionHypothesis holds ?_) invariant
      intro other others later reached member
      exact round other others later reached (List.mem_cons_of_mem item member)

end ActionSystem

end RetroBrowser.Foundation
