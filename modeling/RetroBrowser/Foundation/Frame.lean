import RetroBrowser.Foundation.WeakestPre

/-!
Owns frames: what a program leaves alone from every world and whichever way it
ends. A frame is a preorder on worlds; a program holds it when each of its runs
moves along the preorder. The rules follow the constructors of programs and
carry a fact about the returned value, which needs no invariant of the world.
-/

namespace RetroBrowser.Foundation

/-- What two worlds have in common. -/
structure Frame (σ : Type) where
  Keeps : σ → σ → Prop
  refl : ∀ world, Keeps world world
  trans : ∀ {before between after}, Keeps before between → Keeps between after →
    Keeps before after

namespace Frame

variable {σ ε α β ι : Type}

/-- Every run keeps the frame, and a returned value meets `onValue`. -/
def Holds (frame : Frame σ) (program : Program σ ε α) (onValue : α → Prop) : Prop :=
  ∀ world, frame.Keeps world (program world).2 ∧ (program world).1.Meets onValue fun _ => True

variable {frame : Frame σ} {onValue : α → Prop}

theorem holds_pure {value : α} (meets : onValue value) :
    frame.Holds (pure value : Program σ ε α) onValue :=
  fun world => ⟨frame.refl world, meets⟩

theorem holds_throw (error : ε) : frame.Holds (throw error : Program σ ε α) onValue :=
  fun world => ⟨frame.refl world, trivial⟩

theorem holds_ite {condition : Prop} [Decidable condition] {yes no : Program σ ε α}
    (holds : condition → frame.Holds yes onValue)
    (fails : ¬condition → frame.Holds no onValue) :
    frame.Holds (if condition then yes else no) onValue := by
  split
  · exact holds ‹_›
  · exact fails ‹_›

theorem holds_raiseIf {condition : Prop} [Decidable condition] {error : ε} :
    frame.Holds (Program.raiseIf condition error : Program σ ε PUnit) fun _ => ¬condition :=
  holds_ite (fun _ => holds_throw error) fun fails => holds_pure fails

theorem holds_runIf {condition : Prop} [Decidable condition] {program : Program σ ε PUnit}
    (holds : condition → frame.Holds program fun _ => True) :
    frame.Holds (Program.runIf condition program) fun _ => True :=
  holds_ite holds fun _ => holds_pure trivial

theorem Holds.weaken {onValue' : α → Prop} {program : Program σ ε α}
    (holds : frame.Holds program onValue) (implies : ∀ value, onValue value → onValue' value) :
    frame.Holds program onValue' :=
  fun world => ⟨(holds world).1, (holds world).2.weaken implies fun _ => id⟩

/-- A program that holds a frame holds each one it implies. -/
theorem Holds.imply {frame' : Frame σ} {program : Program σ ε α}
    (holds : frame.Holds program onValue)
    (implies : ∀ before after, frame.Keeps before after → frame'.Keeps before after) :
    frame'.Holds program onValue :=
  fun world => ⟨implies _ _ (holds world).1, (holds world).2⟩

theorem holds_bind {program : Program σ ε β} {next : β → Program σ ε α}
    {middle : β → Prop} (first : frame.Holds program middle)
    (rest : ∀ value, middle value → frame.Holds (next value) onValue) :
    frame.Holds (program >>= next) onValue := by
  intro world
  obtain ⟨keeps, meets⟩ := first world
  rw [Program.bind_apply]
  rcases run : program world with ⟨outcome, after⟩
  rw [run] at keeps meets
  cases outcome with
  | returned value =>
      obtain ⟨keeps', meets'⟩ := rest value meets after
      exact ⟨frame.trans keeps keeps', meets'⟩
  | raised error => exact ⟨keeps, trivial⟩
  | stopped => exact ⟨keeps, trivial⟩

theorem holds_pure_bind {value : β} {next : β → Program σ ε α}
    (rest : frame.Holds (next value) onValue) : frame.Holds (pure value >>= next) onValue :=
  rest

theorem holds_map {program : Program σ ε β} {transform : β → α} {middle : β → Prop}
    (first : frame.Holds program middle)
    (meets : ∀ value, middle value → onValue (transform value)) :
    frame.Holds (transform <$> program) onValue :=
  holds_bind first fun value holds => holds_pure (meets value holds)

theorem holds_ofExcept (result : Except ε α)
    (meets : ∀ value, result = .ok value → onValue value) :
    frame.Holds (Program.ofExcept result) onValue := by
  cases result with
  | ok value => exact holds_pure (meets value rfl)
  | error error => exact holds_throw error

theorem holds_tryCatch {program : Program σ ε α} {handler : ε → Program σ ε α}
    (body : frame.Holds program onValue)
    (handled : ∀ error, frame.Holds (handler error) onValue) :
    frame.Holds (tryCatch program handler) onValue := by
  intro world
  obtain ⟨keeps, meets⟩ := body world
  rw [Program.tryCatch_apply]
  rcases run : program world with ⟨outcome, after⟩
  rw [run] at keeps meets
  cases outcome with
  | returned value => exact ⟨keeps, meets⟩
  | raised error =>
      obtain ⟨keeps', meets'⟩ := handled error after
      exact ⟨frame.trans keeps keeps', meets'⟩
  | stopped => exact ⟨keeps, trivial⟩

theorem holds_forM {items : List ι} {body : ι → Program σ ε PUnit}
    (round : ∀ item ∈ items, frame.Holds (body item) fun _ => True) :
    frame.Holds (items.forM body) fun _ => True := by
  induction items with
  | nil => exact holds_pure trivial
  | cons item rest inductionHypothesis =>
      exact holds_bind (round item List.mem_cons_self) fun _ _ =>
        inductionHypothesis fun other member => round other (List.mem_cons_of_mem item member)

/-- A frame as a postcondition. -/
theorem Holds.ensures {program : Program σ ε α} (holds : frame.Holds program onValue)
    (world : σ) : program.Ensures ⟨fun value after => frame.Keeps world after ∧ onValue value,
      fun _ after => frame.Keeps world after, fun after => frame.Keeps world after⟩ world := by
  obtain ⟨keeps, meets⟩ := holds world
  unfold Program.Ensures
  rcases run : program world with ⟨outcome, after⟩
  rw [run] at keeps meets
  cases outcome with
  | returned value => exact ⟨keeps, meets⟩
  | raised error => exact keeps
  | stopped => exact keeps

/-- A fact that the frame keeps is maintained. -/
theorem Holds.maintains {program : Program σ ε α} (holds : frame.Holds program onValue)
    {fact : σ → Prop}
    (stable : ∀ before after, frame.Keeps before after → fact before → fact after) :
    program.Maintains fact := fun world fact' =>
  (holds.ensures world).mono (fun _ after both => stable world after both.1 fact')
    (fun _ after keeps => stable world after keeps fact') fun after keeps =>
      stable world after keeps fact'

end Frame

end RetroBrowser.Foundation
