import Mathlib
import RetroBrowser.Foundation.Splitting

/-!
Owns the grammar of host names over a class of letters: labels of letters and
hyphens, with letters at both ends, joined with dots.

Contract: a class agrees on ASCII when there it holds just the letters and digits.
-/

namespace RetroBrowser.Foundation.Hostname

abbrev Text := List Char

variable (letter : Char → Bool)

/-- One to 63 letters and hyphens, with letters at both ends. -/
structure IsLabel (label : Text) : Prop where
  nonempty : label ≠ []
  short : label.length ≤ 63
  inner : ∀ character ∈ label, letter character = true ∨ character = '-'
  first : ∀ character ∈ label.head?, letter character = true
  last : ∀ character ∈ label.getLast?, letter character = true

/-- One to 253 characters: labels with dots between them. -/
structure IsHostname (text : Text) : Prop where
  nonempty : text ≠ []
  short : text.length ≤ 253
  labels : ∃ labels, labels ≠ [] ∧ text = ['.'].intercalate labels ∧
    ∀ label ∈ labels, IsLabel letter label

/-- Among the ASCII characters the class holds the letters and digits. -/
def AgreesOnAscii : Prop :=
  ∀ character : Char, character.toNat < 128 → letter character = character.isAlphanum

/-- A letter of the class becomes the letter `a`. -/
def foldCharacter (character : Char) : Char := if letter character then 'a' else character

/-- Every letter of the class becomes the letter `a`. -/
def fold (text : Text) : Text := text.map (foldCharacter letter)

variable {letter}

/-- What there is to check of a label. -/
theorem isLabel_iff (label : Text) :
    IsLabel letter label ↔ label.length ≤ 63 ∧ label.head?.any letter = true ∧
      label.getLast?.any letter = true ∧
      ∀ character ∈ label, letter character = true ∨ character = '-' := by
  cases label with
  | nil => exact iff_of_false (fun empty => empty.nonempty rfl) (by simp)
  | cons head rest =>
      have ends : (head :: rest).getLast? =
          some ((head :: rest).getLast (List.cons_ne_nil head rest)) :=
        List.getLast?_eq_getLast_of_ne_nil _
      constructor
      · intro ⟨_, short, inner, first, last⟩
        exact ⟨short, first head rfl, by rw [ends]; exact last _ ends, inner⟩
      · intro ⟨short, first, last, inner⟩
        rw [ends] at last
        refine ⟨List.cons_ne_nil _ _, short, inner, ?_, ?_⟩
        · intro character member
          rw [← Option.some.inj member]
          exact first
        · intro character member
          rw [ends] at member
          rw [← Option.some.inj member]
          exact last

instance (label : Text) : Decidable (IsLabel letter label) :=
  have := List.decidableBAll (fun character => letter character = true ∨ character = '-') label
  decidable_of_iff' _ (isLabel_iff label)

/-- The labels are what stands between the dots. -/
theorem isHostname_iff (noDot : letter '.' = false) (text : Text) :
    IsHostname letter text ↔
      text ≠ [] ∧ text.length ≤ 253 ∧ ∀ label ∈ text.splitOn '.',
        IsLabel letter label := by
  constructor
  · intro ⟨nonempty, short, labels, present, equal, each⟩
    have plain : ∀ label ∈ labels, '.' ∉ label := by
      intro label member inside
      have kind := (each label member).inner '.' inside
      rw [noDot] at kind
      exact absurd kind (by decide)
    have split : text.splitOn '.' = labels := by
      rw [equal]
      exact List.splitOn_intercalate '.' plain present
    exact ⟨nonempty, short, split ▸ each⟩
  · intro ⟨nonempty, short, each⟩
    exact ⟨nonempty, short, text.splitOn '.', List.splitOn_ne_nil '.' text,
      (List.intercalate_splitOn '.').symm, each⟩

/-- Letters and digits are ASCII. -/
theorem toNat_lt_of_isAlphanum {character : Char} (alphanumeric : character.isAlphanum = true) :
    character.toNat < 128 := by
  simp only [Char.isAlphanum, Char.isAlpha, Char.isUpper, Char.isLower,
    Char.isDigit, Bool.or_eq_true,
    Bool.and_eq_true, decide_eq_true_eq, ge_iff_le, UInt32.le_iff_toNat_le] at alphanumeric
  have bounds : 'Z'.val.toNat = 90 ∧ 'z'.val.toNat = 122 ∧ '9'.val.toNat = 57 := by decide
  show character.val.toNat < 128
  omega

/-- A name over the letters and digits is ASCII. -/
theorem IsHostname.ascii {text : Text} (host : IsHostname Char.isAlphanum text) :
    ∀ character ∈ text, character.toNat < 128 := by
  have ⟨_, _, each⟩ := (isHostname_iff (by decide) text).mp host
  intro character member
  by_cases dot : character = '.'
  · rw [dot]
    decide
  · have ⟨label, listed, inside⟩ := mem_piece member dot
    rcases (each label listed).inner character inside with alphanumeric | hyphen
    · exact toNat_lt_of_isAlphanum alphanumeric
    · rw [hyphen]
      decide

section Fold

variable (agrees : AgreesOnAscii letter)

include agrees

theorem AgreesOnAscii.dot : letter '.' = false := agrees '.' (by decide)

theorem AgreesOnAscii.hyphen : letter '-' = false := agrees '-' (by decide)

/-- What is folded becomes a letter just where it was one. -/
theorem isAlphanum_fold (character : Char) :
    (foldCharacter letter character).isAlphanum = true ↔ letter character = true := by
  unfold foldCharacter
  by_cases isLetter : letter character = true
  · rw [if_pos isLetter]
    exact iff_of_true (by decide) isLetter
  · rw [if_neg isLetter]
    refine iff_of_false (fun alphanumeric => isLetter ?_) isLetter
    rw [agrees character (toNat_lt_of_isAlphanum alphanumeric)]
    exact alphanumeric

omit agrees in
/-- Other characters are kept, and none comes to be. -/
theorem foldCharacter_eq_iff {other : Char} (noLetter : letter other = false)
    (notFold : 'a' ≠ other)
    (character : Char) : foldCharacter letter character = other ↔ character = other := by
  unfold foldCharacter
  by_cases isLetter : letter character = true
  · rw [if_pos isLetter]
    refine iff_of_false notFold fun same => ?_
    rw [same, noLetter] at isLetter
    exact Bool.false_ne_true isLetter
  · rw [if_neg isLetter]

theorem isLabel_fold (label : Text) :
    IsLabel Char.isAlphanum (fold letter label) ↔ IsLabel letter label := by
  have one := isAlphanum_fold agrees
  have hyphen := foldCharacter_eq_iff agrees.hyphen (by decide)
  constructor
  · intro ⟨nonempty, short, inner, first, last⟩
    refine ⟨fun empty => nonempty (by rw [empty]; rfl), by simpa [fold] using short, ?_, ?_, ?_⟩
    · intro character member
      have kind := inner (foldCharacter letter character) (List.mem_map_of_mem member)
      rwa [one, hyphen] at kind
    · intro character member
      have kind := first (foldCharacter letter character) (by simp_all [fold])
      rwa [one] at kind
    · intro character member
      have kind := last (foldCharacter letter character) (by simp_all [fold])
      rwa [one] at kind
  · intro ⟨nonempty, short, inner, first, last⟩
    refine ⟨by simpa [fold] using nonempty, by simpa [fold] using short, ?_, ?_, ?_⟩
    · intro folded member
      have ⟨character, inside, equal⟩ := List.mem_map.mp member
      rw [← equal, one, hyphen]
      exact inner character inside
    · intro folded member
      simp only [fold, List.head?_map, Option.mem_def, Option.map_eq_some_iff] at member
      have ⟨character, inside, equal⟩ := member
      rw [← equal, one]
      exact first character inside
    · intro folded member
      simp only [fold, List.getLast?_map, Option.mem_def, Option.map_eq_some_iff] at member
      have ⟨character, inside, equal⟩ := member
      rw [← equal, one]
      exact last character inside

/-- Folding keeps host names. -/
theorem isHostname_fold (text : Text) :
    IsHostname Char.isAlphanum (fold letter text) ↔ IsHostname letter text := by
  have labels := splitOn_map (foldCharacter_eq_iff agrees.dot (by decide)) text
  rw [isHostname_iff (by decide), isHostname_iff agrees.dot]
  unfold fold
  rw [labels, List.length_map, List.forall_mem_map]
  have each : ∀ label, IsLabel Char.isAlphanum (label.map (foldCharacter letter)) ↔
      IsLabel letter label :=
    isLabel_fold agrees
  simp only [each, ne_eq, List.map_eq_nil_iff]

/-- On ASCII texts the class is that of the letters and digits. -/
theorem isHostname_ascii {text : Text} (ascii : ∀ character ∈ text, character.toNat < 128) :
    IsHostname letter text ↔ IsHostname Char.isAlphanum text := by
  have folds : fold letter text = fold Char.isAlphanum text := by
    refine List.map_congr_left fun character member => ?_
    rw [foldCharacter, foldCharacter, agrees character (ascii character member)]
  rw [← isHostname_fold agrees, folds, isHostname_fold fun _ _ => rfl]

/-- The class has no other host names just where it meets an ASCII text, or a text that
stays none with the letter `a` in the place of each letter. -/
theorem isHostname_exact (text : Text) :
    (IsHostname letter text ↔ IsHostname Char.isAlphanum text) ↔
      (∀ character ∈ text, character.toNat < 128) ∨
        ¬IsHostname Char.isAlphanum (fold letter text) := by
  rw [isHostname_fold agrees]
  constructor
  · intro same
    by_cases host : IsHostname letter text
    · exact Or.inl (same.mp host).ascii
    · exact Or.inr host
  · intro condition
    rcases condition with ascii | none
    · exact isHostname_ascii agrees ascii
    · exact iff_of_false none fun host => none ((isHostname_ascii agrees host.ascii).mpr host)

end Fold

end RetroBrowser.Foundation.Hostname
