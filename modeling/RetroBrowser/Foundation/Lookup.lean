import Mathlib.Data.List.Nodup

/-!
Owns lookup by key in a list of records with distinct keys: the list model of a
dictionary's values.
-/

namespace RetroBrowser.Foundation

variable {α κ : Type} {key : α → κ} {items : List α} {item other : α}

/-- Distinct keys identify records. -/
theorem eq_of_key (distinct : (items.map key).Nodup) (member : item ∈ items)
    (otherMember : other ∈ items) (same : key item = key other) : item = other :=
  List.inj_on_of_nodup_map distinct member otherMember same

/-- Lookup by a record's key finds the record. -/
theorem find_key [DecidableEq κ] (distinct : (items.map key).Nodup) (member : item ∈ items) :
    items.find? (fun other => key other = key item) = some item := by
  induction items with
  | nil => simp at member
  | cons head tail inductionHypothesis =>
      rw [List.map_cons, List.nodup_cons] at distinct
      rcases List.mem_cons.mp member with rfl | later
      · simp
      · have differs : key head ≠ key item :=
          fun same => distinct.1 (List.mem_map.mpr ⟨item, later, same.symm⟩)
        simpa [differs] using inductionHypothesis distinct.2 later

end RetroBrowser.Foundation
