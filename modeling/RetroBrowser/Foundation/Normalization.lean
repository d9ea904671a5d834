import Mathlib.Data.List.Basic
import Mathlib.Data.Nat.Notation

/-!
Owns canonical composition of Unicode texts: decomposition, canonical order of marks and
composition, over the tables of the character database.

Contract: the tables are parameters; what every version of the database promises of them
is a field. Hangul syllables are part of the tables.
-/

namespace RetroBrowser.Foundation

/-- What `unicodedata` answers about characters. -/
structure UnicodeData where
  /-- The full canonical decomposition. -/
  decomposition : Char → List Char
  combiningClass : Char → ℕ
  /-- The primary composite of two characters. -/
  composition : Char → Char → Option Char
  category : Char → List Char
  decomposition_ne_nil : ∀ character, decomposition character ≠ []
  category_control : ∀ character : Char, character.toNat < 32 ∨ character.toNat = 127 →
    category character = ['C', 'c']

namespace UnicodeData

variable (data : UnicodeData)

def decompose (text : List Char) : List Char := text.flatMap data.decomposition

/-- A mark goes behind those of a lower class. -/
def insertMark (mark : Char) : List Char → List Char
  | [] => [mark]
  | character :: rest =>
    if 0 < data.combiningClass character ∧
        data.combiningClass character < data.combiningClass mark then
      character :: insertMark mark rest
    else mark :: character :: rest

/-- The canonical order. -/
def reorder (text : List Char) : List Char := text.foldr data.insertMark []

/-- A character is blocked from the starter by one between them that has no lower class. -/
def blocked (kept : List Char) (character : Char) : Bool :=
  kept.getLast?.any fun last => data.combiningClass character ≤ data.combiningClass last

/-- Composition behind a starter, of which the characters `kept` have not become part. -/
def composeFrom (starter : Char) (kept : List Char) : List Char → List Char
  | [] => starter :: kept
  | character :: rest =>
    match if data.blocked kept character then none else data.composition starter character with
    | some composite => composeFrom composite kept rest
    | none =>
      if data.combiningClass character = 0 then starter :: kept ++ composeFrom character [] rest
      else composeFrom starter (kept ++ [character]) rest

def compose : List Char → List Char
  | [] => []
  | character :: rest =>
    if data.combiningClass character = 0 then data.composeFrom character [] rest
    else character :: compose rest

/-- `normalize("NFC", text)`. -/
def normalize (text : List Char) : List Char := data.compose (data.reorder (data.decompose text))

theorem decompose_ne_nil {text : List Char} (nonempty : text ≠ []) :
    data.decompose text ≠ [] := by
  obtain ⟨character, rest, rfl⟩ := List.exists_cons_of_ne_nil nonempty
  intro empty
  exact data.decomposition_ne_nil character (List.append_eq_nil_iff.mp empty).1

theorem insertMark_ne_nil (mark : Char) (text : List Char) : data.insertMark mark text ≠ [] := by
  cases text with
  | nil => exact List.cons_ne_nil mark []
  | cons character rest =>
      rw [insertMark]
      split <;> exact List.cons_ne_nil _ _

theorem reorder_ne_nil {text : List Char} (nonempty : text ≠ []) : data.reorder text ≠ [] := by
  obtain ⟨character, rest, rfl⟩ := List.exists_cons_of_ne_nil nonempty
  exact data.insertMark_ne_nil character (rest.foldr data.insertMark [])

theorem composeFrom_ne_nil (starter : Char) (kept text : List Char) :
    data.composeFrom starter kept text ≠ [] := by
  induction text generalizing starter kept with
  | nil => exact List.cons_ne_nil starter kept
  | cons character rest inductionHypothesis =>
      rw [composeFrom]
      split
      · exact inductionHypothesis _ _
      · split
        · exact List.cons_ne_nil _ _
        · exact inductionHypothesis _ _

theorem compose_ne_nil {text : List Char} (nonempty : text ≠ []) : data.compose text ≠ [] := by
  obtain ⟨character, rest, rfl⟩ := List.exists_cons_of_ne_nil nonempty
  rw [compose]
  split
  · exact data.composeFrom_ne_nil character [] rest
  · exact List.cons_ne_nil _ _

/-- Normalising never makes a text empty. -/
theorem normalize_ne_nil {text : List Char} (nonempty : text ≠ []) : data.normalize text ≠ [] :=
  data.compose_ne_nil (data.reorder_ne_nil (data.decompose_ne_nil nonempty))

end UnicodeData

end RetroBrowser.Foundation
