import Mathlib.Data.List.Basic

/-!
Owns texts that tell what they were written from although more text comes after
them. The rules follow how texts are put together: from codes that can be read
back, from runs of characters of one kind, and from items with separators.
-/

namespace RetroBrowser.Foundation

variable {α β : Type}

/-- Among the admitted values this one is told by its text, as long as what comes
after the text may follow. -/
def Told (admits : α → Prop) (follows : List Char → Prop)
    (write : α → List Char) (value : α) : Prop :=
  ∀ other rest rest', admits other → follows rest → follows rest' →
    write value ++ rest = write other ++ rest' → value = other ∧ rest = rest'

/-- Whatever follows. -/
def anything (_ : List Char) : Prop := True

variable {admits : α → Prop} {follows : List Char → Prop} {write : α → List Char}

/-- A value that is told has its text alone. -/
theorem Told.eq {value other : α} (told : Told admits follows write value) (nothing : follows [])
    (admitted : admits other) (same : write value = write other) : value = other :=
  (told other [] [] admitted nothing nothing (by rw [same])).1

/-- What can be read back is told. -/
theorem told_read {read : List Char → Option (α × List Char)}
    (undo : ∀ value rest, read (write value ++ rest) = some (value, rest)) (value : α) :
    Told (fun _ => True) anything write value := by
  intro other rest rest' _ _ _ same
  have reads : some (value, rest) = some (other, rest') := by rw [← undo, ← undo, same]
  simpa using reads

/-- A run of characters of one kind is told where no such character follows. -/
theorem told_run {accepts : Char → Bool}
    (run : ∀ value, ∀ character ∈ write value, accepts character)
    (injective : Function.Injective write) (value : α) :
    Told (fun _ => True) (fun rest => rest.takeWhile accepts = []) write value := by
  intro other rest rest' _ after after' same
  have texts := congrArg (List.takeWhile accepts) same
  rw [List.takeWhile_append_of_pos (run value), List.takeWhile_append_of_pos (run other), after,
    after', List.append_nil, List.append_nil] at texts
  rw [texts] at same
  exact ⟨injective texts, List.append_cancel_left same⟩

/-- The codes of a text up to a character with which no code starts. -/
theorem told_codes {stop : Char} (told : ∀ value, Told (fun _ => True) anything write value)
    (starts : ∀ value rest, (write value ++ rest).head? ≠ some stop) (values : List α) :
    Told (fun _ => True) anything (fun values => values.flatMap write ++ [stop]) values := by
  induction values with
  | nil =>
      intro others rest rest' _ _ _ same
      cases others with
      | nil => exact ⟨rfl, List.append_cancel_left same⟩
      | cons other others =>
          simp only [List.flatMap_cons, List.append_assoc] at same
          exact absurd (congrArg List.head? same).symm (starts other _)
  | cons value values inductionHypothesis =>
      intro others rest rest' _ _ _ same
      simp only [List.flatMap_cons, List.append_assoc] at same
      cases others with
      | nil => exact absurd (congrArg List.head? same) (starts value _)
      | cons other others =>
          simp only [List.flatMap_cons, List.append_assoc] at same
          have first := told value other _ _ trivial trivial trivial same
          have others := inductionHypothesis others rest rest' trivial trivial trivial
            (by simpa using first.2)
          exact ⟨by rw [first.1, others.1], others.2⟩

/-- The items after the first one, each behind a separator, up to the closing character. -/
def continued (separator close : Char) (write : α → List Char) : List α → List Char
  | [] => [close]
  | item :: rest => separator :: (write item ++ continued separator close write rest)

/-- Items with a separator between them, up to the closing character. -/
def enclosed (separator close : Char) (write : α → List Char) : List α → List Char
  | [] => [close]
  | item :: rest => write item ++ continued separator close write rest

section Items

variable {separator close : Char}

theorem continued_follows (separated : ∀ rest, follows (separator :: rest))
    (closed : ∀ rest, follows (close :: rest)) (items : List α) (rest : List Char) :
    follows (continued separator close write items ++ rest) := by
  cases items with
  | nil => exact closed rest
  | cons item items => exact separated _

theorem told_continued {items : List α} (differs : close ≠ separator)
    (each : ∀ item ∈ items, Told admits follows write item)
    (separated : ∀ rest, follows (separator :: rest))
    (closed : ∀ rest, follows (close :: rest)) :
    Told (fun items => ∀ item ∈ items, admits item) anything
      (continued separator close write) items := by
  induction items with
  | nil =>
      intro others rest rest' _ _ _ same
      cases others with
      | nil => exact ⟨rfl, (List.cons.inj same).2⟩
      | cons other others => exact absurd (List.cons.inj same).1 differs
  | cons item items inductionHypothesis =>
      intro others rest rest' admitted _ _ same
      cases others with
      | nil => exact absurd (List.cons.inj same).1.symm differs
      | cons other others =>
          have follow : ∀ items rest, follows (continued separator close write items ++ rest) :=
            continued_follows separated closed
          simp only [continued, List.cons_append, List.append_assoc,
            List.cons.injEq, true_and] at same
          have first := each item List.mem_cons_self other _ _ (admitted other List.mem_cons_self)
            (follow items rest) (follow others rest') same
          have inner := inductionHypothesis fun value member =>
            each value (List.mem_cons_of_mem item member)
          have others := inner others rest rest'
            (fun value member => admitted value (List.mem_cons_of_mem other member))
            trivial trivial first.2
          exact ⟨by rw [first.1, others.1], others.2⟩

/-- Items are told by their texts where none of them starts with the closing character. -/
theorem told_enclosed {items : List α} (differs : close ≠ separator)
    (each : ∀ item ∈ items, Told admits follows write item)
    (starts : ∀ item rest, admits item → (write item ++ rest).head? ≠ some close)
    (separated : ∀ rest, follows (separator :: rest)) (closed : ∀ rest, follows (close :: rest))
    (own : ∀ item ∈ items, admits item) :
    Told (fun items => ∀ item ∈ items, admits item) anything
      (enclosed separator close write) items := by
  intro others rest rest' admitted _ _ same
  cases items with
  | nil =>
      cases others with
      | nil => exact ⟨rfl, (List.cons.inj same).2⟩
      | cons other others =>
          rw [enclosed, enclosed, List.append_assoc] at same
          exact absurd (congrArg List.head? same).symm
            (starts other _ (admitted other List.mem_cons_self))
  | cons item items =>
      rw [enclosed, List.append_assoc] at same
      cases others with
      | nil =>
          exact absurd (congrArg List.head? same) (starts item _ (own item List.mem_cons_self))
      | cons other others =>
          have follow : ∀ items rest, follows (continued separator close write items ++ rest) :=
            continued_follows separated closed
          rw [enclosed, List.append_assoc] at same
          have first := each item List.mem_cons_self other _ _ (admitted other List.mem_cons_self)
            (follow items rest) (follow others rest') same
          have inner := told_continued differs
            (fun value member => each value (List.mem_cons_of_mem item member)) separated closed
          have others := inner others rest rest'
            (fun value member => admitted value (List.mem_cons_of_mem other member))
            trivial trivial first.2
          exact ⟨by rw [first.1, others.1], others.2⟩

end Items

end RetroBrowser.Foundation
