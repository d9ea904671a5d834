import RetroBrowser.Foundation.Digits
import RetroBrowser.Foundation.PurePath
import RetroBrowser.Foundation.PythonText

/-!
Owns 128-bit identifiers with their hexadecimal text, their dashed text and
their bytes, each of which determines the identifier, and the reader of texts.
-/

namespace RetroBrowser.Foundation

abbrev UUID := BitVec 128

instance : LawfulBEq UUID := inferInstance

namespace UUID

/-- The hexadecimal digits of an identifier, most significant first. -/
def hexDigits (id : UUID) : List Char :=
  (List.range 32).map fun position => Nat.digitChar (id.toNat / 16 ^ (31 - position) % 16)

/-- `uuid.hex`: no dashes. -/
def hex (id : UUID) : String := String.ofList (hexDigits id)

/-- `uuid.bytes`: sixteen bytes, most significant first. -/
def bytes (id : UUID) : List UInt8 := (digits 256 16 id.toNat).map UInt8.ofNat

theorem hex_length (id : UUID) : (hex id).length = 32 := by
  simp [hex, hexDigits]

@[simp] theorem bytes_length (id : UUID) : (bytes id).length = 16 := by
  simp [bytes]

theorem hexDigits_eq (id : UUID) : hexDigits id = hexText 32 id.toNat := by
  rw [hexText, digits, List.map_map]
  rfl

theorem hexDigits_injective : Function.Injective hexDigits := by
  intro left right same
  rw [hexDigits_eq, hexDigits_eq] at same
  have fits : ∀ id : UUID, id.toNat < 16 ^ 32 := fun id => id.isLt
  exact BitVec.eq_of_toNat_eq (hexText_injective (fits left) (fits right) same)

theorem hex_injective : Function.Injective hex := fun _ _ same =>
  hexDigits_injective (String.ofList_injective same)

theorem bytes_injective : Function.Injective bytes := by
  intro left right same
  have undo : ∀ digit < 256, (UInt8.ofNat digit).toNat = digit := fun digit small =>
    UInt8.toNat_ofNat_of_lt' small
  have values := congrArg (List.map UInt8.toNat) same
  rw [bytes, bytes, digits_read (by decide) undo, digits_read (by decide) undo] at values
  have fits : ∀ id : UUID, id.toNat < 256 ^ 16 := fun id => id.isLt
  exact BitVec.eq_of_toNat_eq (digits_injective (fits left) (fits right) values)

/-- `int.from_bytes` of the bytes. -/
theorem ofNat_bytes (id : UUID) :
    BitVec.ofNat 128 (digitValue 256 ((bytes id).map UInt8.toNat)) = id := by
  have undo : ∀ digit < 256, (UInt8.ofNat digit).toNat = digit := fun digit small =>
    UInt8.toNat_ofNat_of_lt' small
  have fits : id.toNat < 256 ^ 16 := id.isLt
  rw [bytes, digits_read (by decide) undo, digitValue_digits, Nat.mod_eq_of_lt fits]
  exact BitVec.ofNat_toNat 128 id

/-! ## The dashed text and the reader -/

/-- Groups of 8, 4, 4, 4 and 12 characters. -/
def dashed (text : List Char) : List Char :=
  text.take 8 ++ '-' :: ((text.drop 8).take 4 ++ '-' :: ((text.drop 12).take 4 ++
    '-' :: ((text.drop 16).take 4 ++ '-' :: text.drop 20)))

/-- `str(uuid)`. -/
def str (id : UUID) : String := String.ofList (dashed (hexDigits id))

/-- `UUID(text)`; no value stands for the `ValueError`. -/
def parse (text : String) : Option UUID :=
  let bare := PythonText.remove ['-'] (PythonText.strip (['\x7b', '\x7d'].contains ·)
    (PythonText.remove "uuid:".toList (PythonText.remove "urn:".toList text.toList)))
  if bare.length ≠ 32 then none
  else (PythonText.intBase16 bare).bind fun number =>
    if number < 2 ^ 128 then some (BitVec.ofNat 128 number) else none

theorem digitChar_plain : ∀ digit < 16, Nat.digitChar digit ∉
    ['-', '_', '+', 'x', 'X', 'u', '\x7b', '\x7d'] ∧
      PythonText.isSpace (Nat.digitChar digit) = false ∧
      PythonText.hexDigit (Nat.digitChar digit) = some digit := by
  decide

/-- The digits are no punctuation, no space and no letter beyond `f`. -/
theorem hexDigits_plain {id : UUID} {character : Char} (member : character ∈ hexDigits id) :
    character ∉ ['-', '_', '+', 'x', 'X', 'u', '\x7b', '\x7d'] ∧
      PythonText.isSpace character = false := by
  rw [hexDigits_eq] at member
  obtain ⟨digit, small, rfl⟩ := mem_hexText member
  exact ⟨(digitChar_plain digit small).1, (digitChar_plain digit small).2.1⟩

theorem mem_dashed {text : List Char} {character : Char} (member : character ∈ dashed text) :
    character ∈ text ∨ character = '-' := by
  simp only [dashed, List.mem_append, List.mem_cons] at member
  have inside : ∀ {start count : Nat}, character ∈ (text.drop start).take count →
      character ∈ text := fun taken => List.mem_of_mem_drop (List.mem_of_mem_take taken)
  rcases member with first | dash | second | dash | third | dash | fourth | dash | fifth
  · exact Or.inl (List.mem_of_mem_take first)
  · exact Or.inr dash
  · exact Or.inl (inside second)
  · exact Or.inr dash
  · exact Or.inl (inside third)
  · exact Or.inr dash
  · exact Or.inl (inside fourth)
  · exact Or.inr dash
  · exact Or.inl (List.mem_of_mem_drop fifth)

/-- Removing the dashes gives the digits back. -/
theorem filter_dashed {text : List Char} (plain : '-' ∉ text) :
    (dashed text).filter (· ≠ '-') = text := by
  have whole : ∀ piece : List Char, piece ⊆ text → piece.filter (· ≠ '-') = piece := by
    intro piece inside
    refine List.filter_eq_self.mpr fun character member => ?_
    have other : character ≠ '-' := fun same => plain (same ▸ inside member)
    simpa using other
  have taken : ∀ start count, (text.drop start).take count ⊆ text := fun start count =>
    fun _ member => List.mem_of_mem_drop (List.mem_of_mem_take member)
  simp only [dashed, List.filter_append, List.filter_cons, ne_eq, not_true_eq_false,
    decide_false, Bool.false_eq_true, if_false]
  have first := whole _ (List.take_subset 8 text)
  have second := whole _ (taken 8 4)
  have third := whole _ (taken 12 4)
  have fourth := whole _ (taken 16 4)
  have fifth := whole _ (List.drop_subset 20 text)
  simp only [ne_eq] at first second third fourth fifth
  rw [first, second, third, fourth, fifth]
  have join : ∀ start count, (text.drop start).take count ++ text.drop (start + count) =
      text.drop start := by
    intro start count
    rw [← List.drop_drop, List.take_append_drop]
  rw [join 16 4, join 12 4, join 8 4, List.take_append_drop]

/-- A number's own digits are read back. -/
theorem hexNumber_digits {items : List Nat} (small : ∀ digit ∈ items, digit < 16) (total : Nat)
    (fresh : Bool) (nonempty : items ≠ [] ∨ fresh = false) :
    PythonText.hexNumber total fresh (items.map Nat.digitChar) =
      some (items.foldl (fun value digit => value * 16 + digit) total) := by
  induction items generalizing total fresh with
  | nil =>
      have finished : fresh = false := nonempty.resolve_left fun differs => differs rfl
      simp [PythonText.hexNumber, finished]
  | cons digit rest inductionHypothesis =>
      have plain := digitChar_plain digit (small digit List.mem_cons_self)
      have noUnderscore : Nat.digitChar digit ≠ '_' := fun same => plain.1 (by simp [same])
      rw [List.map_cons, PythonText.hexNumber_cons plain.2.2 noUnderscore,
        inductionHypothesis (fun other member => small other (List.mem_cons_of_mem digit member)) _
          false (Or.inr rfl)]
      rfl

theorem intBase16_hexDigits (id : UUID) :
    PythonText.intBase16 (hexDigits id) = some id.toNat := by
  have absent : ∀ character ∈ ['-', '_', '+', 'x', 'X', 'u', '\x7b', '\x7d'],
      character ∉ hexDigits id := fun character listed member => (hexDigits_plain member).1 listed
  rw [PythonText.intBase16_of_plain (fun _ member => (hexDigits_plain member).2)
    (absent '+' (by simp)) ⟨absent 'x' (by simp), absent 'X' (by simp)⟩, hexDigits_eq, hexText,
    hexNumber_digits (fun _ member => digits_lt (by decide) member) 0 true
      (Or.inl (by simp [digits]))]
  have fits : id.toNat < 16 ^ 32 := id.isLt
  have value : ∀ items : List Nat, items.foldl (fun value digit => value * 16 + digit) 0 =
      digitValue 16 items := by
    intro items
    induction items using List.reverseRecOn with
    | nil => rfl
    | append_singleton items digit inductionHypothesis =>
        rw [List.foldl_append, inductionHypothesis, digitValue_append]
        simp only [List.foldl_cons, List.foldl_nil]
        omega
  rw [value, digitValue_digits, Nat.mod_eq_of_lt fits]

/-- Every identifier is read back from its dashed text. -/
theorem parse_str (id : UUID) : parse (str id) = some id := by
  have absent : ∀ character ∈ ['u', '\x7b', '\x7d'], character ∉ dashed (hexDigits id) := by
    intro character listed member
    rcases mem_dashed member with digit | dash
    · refine (hexDigits_plain digit).1 ?_
      simp only [List.mem_cons, List.not_mem_nil, or_false] at listed ⊢
      tauto
    · rw [dash] at listed
      simp at listed
  have noBraces : ∀ character ∈ dashed (hexDigits id),
      ['\x7b', '\x7d'].contains character = false := by
    intro character member
    refine Bool.eq_false_iff.mpr fun brace => ?_
    exact absent character (List.mem_cons_of_mem 'u' (List.contains_iff_mem.mp brace)) member
  have noDash : '-' ∉ hexDigits id := fun member => (hexDigits_plain member).1 (by simp)
  have bare : PythonText.remove ['-'] (PythonText.strip (['\x7b', '\x7d'].contains ·)
      (PythonText.remove "uuid:".toList (PythonText.remove "urn:".toList (str id).toList))) =
        hexDigits id := by
    have noU := absent 'u' (by simp)
    have urn : "urn:".toList = 'u' :: ['r', 'n', ':'] := rfl
    have uuid : "uuid:".toList = 'u' :: ['u', 'i', 'd', ':'] := rfl
    have whole : (str id).toList = dashed (hexDigits id) := String.toList_ofList
    rw [whole, urn, PythonText.remove_of_notMem noU, uuid,
      PythonText.remove_of_notMem noU, PythonText.strip_of_none noBraces,
      PythonText.remove_single, filter_dashed noDash]
  have wide : (hexDigits id).length = 32 := by simp [hexDigits]
  have fits : id.toNat < 2 ^ 128 := id.isLt
  rw [parse]
  simp only [bare, wide, ne_eq, not_true_eq_false, if_false, intBase16_hexDigits, Option.bind_some,
    fits, if_true]
  rw [BitVec.ofNat_toNat, BitVec.setWidth_eq]

theorem str_length (id : UUID) : (str id).length = 36 := by
  rw [← String.length_toList]
  simp [str, dashed, hexDigits]

theorem str_injective : Function.Injective str := by
  intro left right same
  have parsed := congrArg parse same
  rw [parse_str, parse_str] at parsed
  exact Option.some.inj parsed

/-- The dashed text consists of digits and dashes. -/
theorem mem_str {id : UUID} {character : Char} (member : character ∈ (str id).toList) :
    character = '-' ∨ ∃ digit < 16, character = Nat.digitChar digit := by
  have whole : (str id).toList = dashed (hexDigits id) := String.toList_ofList
  rw [whole] at member
  rcases mem_dashed member with digit | dash
  · rw [hexDigits_eq] at digit
    have ⟨value, small, same⟩ := mem_hexText digit
    exact Or.inr ⟨value, small, same.symm⟩
  · exact Or.inl dash

/-- The dashed text is a proper name. -/
theorem proper_str (id : UUID) : PurePath.Proper '/' (str id).toList := by
  have long : (str id).toList.length = 36 := by simp [str, dashed, hexDigits]
  refine ⟨fun empty => by simp [empty] at long, fun dot => by simp [dot] at long,
    fun slash => ?_⟩
  rcases mem_str slash with dash | ⟨value, small, same⟩
  · exact absurd dash (by decide)
  · revert value
    decide

end UUID

end RetroBrowser.Foundation
