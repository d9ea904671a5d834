import Mathlib.Data.List.Basic

/-!
Owns properties of traces. A trace is a list of events, most recent first, and
a trace property relates each event to the events before it.
-/

namespace RetroBrowser.Foundation

variable {α : Type}

/-- Every event of the trace stands in the relation to what came before it. -/
def Throughout (relation : α → List α → Prop) (trace : List α) : Prop :=
  ∀ later event earlier, trace = later ++ event :: earlier → relation event earlier

variable {relation relation' : α → List α → Prop} {trace : List α} {event : α}

theorem throughout_nil : Throughout relation [] := by
  intro later event earlier split
  simp at split

theorem throughout_cons :
    Throughout relation (event :: trace) ↔ relation event trace ∧
      Throughout relation trace := by
  constructor
  · intro holds
    refine ⟨holds [] event trace rfl, fun later other earlier split => ?_⟩
    exact holds (event :: later) other earlier (by rw [split, List.cons_append])
  · rintro ⟨first, rest⟩ later other earlier split
    cases later with
    | nil =>
        obtain ⟨rfl, rfl⟩ := List.cons.inj split
        exact first
    | cons newest others => exact rest others other earlier (List.cons.inj split).2

/-- A list splits in one way only at its single element of a kind. -/
theorem split_unique {kind : α → Prop} {later earlier later' earlier' : List α} {event' : α}
    (same : later ++ event :: earlier = later' ++ event' :: earlier') (own : kind event')
    (before : ∀ other ∈ later, ¬kind other)
    (after : ∀ other ∈ earlier, ¬kind other) : event = event' ∧ earlier = earlier' := by
  rcases List.append_eq_append_iff.mp same with ⟨middle, _, parts⟩ | ⟨middle, parts', parts⟩
  · cases middle with
    | nil => exact List.cons.inj parts
    | cons newest others =>
        have inside : event' ∈ earlier := by
          rw [(List.cons.inj parts).2]
          simp
        exact absurd own (after event' inside)
  · cases middle with
    | nil => exact ⟨(List.cons.inj parts).1.symm, (List.cons.inj parts).2.symm⟩
    | cons newest others =>
        have inside : event' ∈ later := by
          rw [parts', (List.cons.inj parts).1]
          simp
        exact absurd own (before event' inside)

end RetroBrowser.Foundation
