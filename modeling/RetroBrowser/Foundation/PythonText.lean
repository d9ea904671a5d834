import Mathlib.Data.List.DropRight
import Mathlib.Data.Nat.Notation

/-!
Owns the text operations of Python's standard library that the programs use:
stripping, removal of a substring, and reading a number in base sixteen. Texts
are lists of code points.
-/

namespace RetroBrowser.Foundation.PythonText

/-- The code points for which `str.isspace` holds. -/
def spaces : List ℕ :=
  [0x9, 0xA, 0xB, 0xC, 0xD, 0x1C, 0x1D, 0x1E, 0x1F, 0x20, 0x85, 0xA0, 0x1680, 0x2000, 0x2001,
    0x2002, 0x2003, 0x2004, 0x2005, 0x2006, 0x2007, 0x2008, 0x2009, 0x200A, 0x2028, 0x2029, 0x202F,
    0x205F, 0x3000]

def isSpace (character : Char) : Bool := spaces.contains character.toNat

/-- What the Unicode tables of `str` answer: `isalnum` of one character and `lower`. -/
structure CharacterTables where
  isAlnum : Char → Bool
  lower : List Char → List Char

/-- The zeros of the decimal digits that `int` reads, ten code points each. -/
def decimalZeros : List ℕ :=
  [0x30, 0x660, 0x6F0, 0x7C0, 0x966, 0x9E6, 0xA66, 0xAE6, 0xB66, 0xBE6, 0xC66, 0xCE6, 0xD66, 0xDE6,
    0xE50, 0xED0, 0xF20, 0x1040, 0x1090, 0x17E0, 0x1810, 0x1946, 0x19D0, 0x1A80, 0x1A90, 0x1B50,
    0x1BB0, 0x1C40, 0x1C50, 0xA620, 0xA8D0, 0xA900, 0xA9D0, 0xA9F0, 0xAA50, 0xABF0, 0xFF10, 0x104A0,
    0x10D30, 0x10D40, 0x11066, 0x110F0, 0x11136, 0x111D0, 0x112F0, 0x11450, 0x114D0, 0x11650,
    0x116C0, 0x116D0, 0x116DA, 0x11730, 0x118E0, 0x11950, 0x11BF0, 0x11C50, 0x11D50, 0x11DA0,
    0x11F50, 0x16130, 0x16A60, 0x16AC0, 0x16B50, 0x16D70, 0x1CCF0, 0x1D7CE, 0x1D7D8, 0x1D7E2,
    0x1D7EC, 0x1D7F6, 0x1E140, 0x1E2F0, 0x1E4F0, 0x1E5F1, 0x1E950, 0x1FBF0]

/-- `text.strip()`, for the characters that are stripped. -/
def strip (stripped : Char → Bool) (text : List Char) : List Char :=
  (text.dropWhile stripped).rdropWhile stripped

/-- `text.replace(pattern, "")`; `skip` characters of a match are still to be dropped. -/
def removeFrom (pattern : List Char) : ℕ → List Char → List Char
  | _, [] => []
  | skip + 1, _ :: rest => removeFrom pattern skip rest
  | 0, character :: rest =>
    if pattern.isPrefixOf (character :: rest) then removeFrom pattern (pattern.length - 1) rest
    else character :: removeFrom pattern 0 rest

def remove (pattern text : List Char) : List Char := removeFrom pattern 0 text

/-- The value of a digit in base sixteen. -/
def hexDigit (character : Char) : Option ℕ :=
  let point := character.toNat
  if 0x61 ≤ point ∧ point ≤ 0x66 then some (point - 0x61 + 10)
  else if 0x41 ≤ point ∧ point ≤ 0x46 then some (point - 0x41 + 10)
  else
    (decimalZeros.find? fun first => first ≤ point ∧ point < first + 10).map fun first =>
      point - first

/-- Digits with single underscores between them. `total` is what was read so
far and `fresh` says that the next character must be a digit. -/
def hexNumber (total : ℕ) (fresh : Bool) : List Char → Option ℕ
  | [] => if fresh then none else some total
  | character :: rest =>
    if character = '_' then (if fresh then none else hexNumber total true rest)
    else match hexDigit character with
      | none => none
      | some digit => hexNumber (total * 16 + digit) false rest

/-- A leading plus sign is dropped. -/
def withoutPlus : List Char → List Char
  | '+' :: rest => rest
  | rest => rest

/-- `int(text, 16)` of a text without a minus sign. -/
def intBase16 (text : List Char) : Option ℕ :=
  match withoutPlus (strip isSpace text) with
  | '0' :: 'x' :: '_' :: rest | '0' :: 'X' :: '_' :: rest => hexNumber 0 true rest
  | '0' :: 'x' :: rest | '0' :: 'X' :: rest => hexNumber 0 true rest
  | rest => hexNumber 0 true rest

/-- The value of a decimal digit. -/
def decimalDigit (character : Char) : Option ℕ :=
  (decimalZeros.find? fun first =>
    first ≤ character.toNat ∧ character.toNat < first + 10).map fun first =>
      character.toNat - first

/-- The same for base ten. -/
def decimalNumber (total : ℕ) (fresh : Bool) : List Char → Option ℕ
  | [] => if fresh then none else some total
  | character :: rest =>
    if character = '_' then (if fresh then none else decimalNumber total true rest)
    else match decimalDigit character with
      | none => none
      | some digit => decimalNumber (total * 10 + digit) false rest

/-- `int(text)`, which reads 4300 digits at most. -/
def intBase10 (text : List Char) : Option ℤ :=
  let bare := strip isSpace text
  if 4300 < bare.countP fun character => (decimalDigit character).isSome then none
  else match bare with
    | '-' :: rest => (decimalNumber 0 true rest).map fun number => -(number : ℤ)
    | '+' :: rest => (decimalNumber 0 true rest).map fun number => (number : ℤ)
    | rest => (decimalNumber 0 true rest).map fun number => (number : ℤ)

/-! ## Texts the operations leave alone -/

theorem strip_of_none {stripped : Char → Bool} {text : List Char}
    (none : ∀ character ∈ text, stripped character = false) : strip stripped text = text := by
  have front : text.dropWhile stripped = text := by
    cases text with
    | nil => rfl
    | cons head tail => rw [List.dropWhile_cons_of_neg (by simp [none head])]
  rw [strip, front]
  refine List.rdropWhile_eq_self_iff.mpr fun nonempty => ?_
  simp [none _ (List.getLast_mem nonempty)]

theorem removeFrom_single (character : Char) (text : List Char) :
    removeFrom [character] 0 text = text.filter (· ≠ character) := by
  induction text with
  | nil => rfl
  | cons first rest inductionHypothesis =>
      by_cases same : first = character
      · rw [removeFrom, if_pos (by simp [same])]
        simpa [same] using inductionHypothesis
      · rw [removeFrom, if_neg (by simp [Ne.symm same]), inductionHypothesis]
        simp [same]

/-- Removing a single character. -/
theorem remove_single (character : Char) (text : List Char) :
    remove [character] text = text.filter (· ≠ character) :=
  removeFrom_single character text

/-- A pattern whose first character does not occur is not found. -/
theorem remove_of_notMem {head : Char} {tail text : List Char} (absent : head ∉ text) :
    remove (head :: tail) text = text := by
  unfold remove
  induction text with
  | nil => rfl
  | cons first rest inductionHypothesis =>
      rw [List.mem_cons, not_or] at absent
      rw [removeFrom, if_neg (by simp [absent.1]), inductionHypothesis absent.2]

/-! ## Numbers without signs, prefixes and underscores -/

theorem hexNumber_cons {total digit : ℕ} {fresh : Bool} {character : Char} {rest : List Char}
    (value : hexDigit character = some digit) (plain : character ≠ '_') :
    hexNumber total fresh (character :: rest) = hexNumber (total * 16 + digit) false rest := by
  rw [hexNumber, if_neg plain, value]

theorem withoutPlus_of_notMem {text : List Char} (absent : '+' ∉ text) :
    withoutPlus text = text := by
  unfold withoutPlus
  split
  · simp at absent
  · rfl

theorem intBase16_of_plain {text : List Char}
    (noSpace : ∀ character ∈ text, isSpace character = false) (noPlus : '+' ∉ text)
    (noPrefix : 'x' ∉ text ∧ 'X' ∉ text) : intBase16 text = hexNumber 0 true text := by
  rw [intBase16, strip_of_none noSpace, withoutPlus_of_notMem noPlus]
  split <;> simp_all

end RetroBrowser.Foundation.PythonText
