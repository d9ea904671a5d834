import Mathlib.Data.List.Basic

/-!
Owns the pieces of a text between the occurrences of a separator.
-/

namespace RetroBrowser.Foundation

/-- A piece holds characters of the text, but not the separator. -/
theorem plain_piece {separator : Char} {text piece : List Char}
    (listed : piece ∈ text.splitOn separator) : separator ∉ piece ∧ piece ⊆ text := by
  induction text generalizing piece with
  | nil =>
      rw [List.splitOn_nil, List.mem_singleton] at listed
      rw [listed]
      exact ⟨List.not_mem_nil, List.Subset.refl _⟩
  | cons head rest inductionHypothesis =>
      rw [List.splitOn_cons_eq_if_modifyHead] at listed
      by_cases same : head = separator
      · rw [if_pos (beq_iff_eq.mpr same)] at listed
        rcases List.mem_cons.mp listed with empty | later
        · rw [empty]
          exact ⟨List.not_mem_nil, List.nil_subset _⟩
        · have ⟨plain, inside⟩ := inductionHypothesis later
          exact ⟨plain, fun character member => List.mem_cons_of_mem head (inside member)⟩
      · rw [if_neg fun equal => same (beq_iff_eq.mp equal)] at listed
        cases pieces : rest.splitOn separator with
        | nil => exact absurd pieces (List.splitOn_ne_nil separator rest)
        | cons first others =>
            rw [pieces] at inductionHypothesis listed
            rcases List.mem_cons.mp listed with equal | later
            · have ⟨plain, inside⟩ := inductionHypothesis List.mem_cons_self
              rw [equal]
              refine ⟨fun member => ?_, List.cons_subset_cons head inside⟩
              rcases List.mem_cons.mp member with here | beyond
              · exact same here.symm
              · exact plain beyond
            · have ⟨plain, inside⟩ := inductionHypothesis (List.mem_cons_of_mem first later)
              exact ⟨plain, fun character member => List.mem_cons_of_mem head (inside member)⟩

/-- Every other character stands in a piece. -/
theorem mem_piece {separator character : Char} {text : List Char} (member : character ∈ text)
    (differs : character ≠ separator) :
    ∃ piece ∈ text.splitOn separator, character ∈ piece := by
  induction text with
  | nil => exact absurd member List.not_mem_nil
  | cons head rest inductionHypothesis =>
      rw [List.splitOn_cons_eq_if_modifyHead]
      by_cases same : head = separator
      · have later : character ∈ rest :=
          (List.mem_cons.mp member).resolve_left fun equal => differs (equal.trans same)
        have ⟨piece, listed, inside⟩ := inductionHypothesis later
        rw [if_pos (beq_iff_eq.mpr same)]
        exact ⟨piece, List.mem_cons_of_mem _ listed, inside⟩
      · rw [if_neg fun equal => same (beq_iff_eq.mp equal)]
        cases pieces : rest.splitOn separator with
        | nil => exact absurd pieces (List.splitOn_ne_nil separator rest)
        | cons first others =>
            rw [pieces] at inductionHypothesis
            rcases List.mem_cons.mp member with equal | later
            · exact ⟨head :: first, List.mem_cons_self, List.mem_cons.mpr (Or.inl equal)⟩
            · have ⟨piece, listed, inside⟩ := inductionHypothesis later
              rcases List.mem_cons.mp listed with here | beyond
              · exact ⟨head :: first, List.mem_cons_self,
                  List.mem_cons_of_mem _ (here ▸ inside)⟩
              · exact ⟨piece, List.mem_cons_of_mem _ beyond, inside⟩

theorem splitOn_map {separator : Char} {change : Char → Char}
    (keeps : ∀ character, change character = separator ↔ character = separator)
    (text : List Char) :
    (text.map change).splitOn separator = (text.splitOn separator).map (List.map change) := by
  induction text with
  | nil => rfl
  | cons character rest inductionHypothesis =>
      rw [List.map_cons, List.splitOn_cons_eq_if_modifyHead, List.splitOn_cons_eq_if_modifyHead,
        inductionHypothesis]
      by_cases same : character = separator
      · have kept := (keeps character).mpr same
        simp only [beq_iff_eq, kept, if_true]
        simp only [same, if_true, List.map_cons, List.map_nil]
      · have kept : change character ≠ separator := fun equal =>
          same ((keeps character).mp equal)
        simp only [beq_iff_eq, same, kept, if_false]
        cases rest.splitOn separator with
        | nil => rfl
        | cons piece pieces => rfl

/-- What stands before the first separator is determined. -/
theorem append_separator_inj {separator : Char} {front front' back back' : List Char}
    (plain : separator ∉ front) (plain' : separator ∉ front')
    (same : front ++ separator :: back = front' ++ separator :: back') :
    front = front' ∧ back = back' := by
  have pieces := congrArg (List.splitOn separator) same
  rw [List.splitOn_append_cons_self_of_not_mem plain,
    List.splitOn_append_cons_self_of_not_mem plain', List.cons.injEq] at pieces
  have equal := pieces.1
  subst equal
  exact ⟨rfl, (List.cons.inj (List.append_cancel_left same)).2⟩

end RetroBrowser.Foundation
