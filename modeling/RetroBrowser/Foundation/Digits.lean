import Mathlib.Data.List.Induction
import Mathlib.Data.Nat.Digits.Defs

/-!
Owns fixed-width positional notation, most significant digit first. A number
below the capacity of the width and its digits determine each other.
-/

namespace RetroBrowser.Foundation

/-- The `count` digits of a number in a base, most significant first. -/
def digits (base count number : Nat) : List Nat :=
  (List.range count).map fun position => number / base ^ (count - 1 - position) % base

/-- The number with these digits. -/
def digitValue (base : Nat) (items : List Nat) : Nat := Nat.ofDigits base items.reverse

variable {base : Nat}

@[simp] theorem digits_length (base count number : Nat) :
    (digits base count number).length = count := by
  simp [digits]

theorem digits_succ (base count number : Nat) :
    digits base (count + 1) number = digits base count (number / base) ++ [number % base] := by
  unfold digits
  rw [List.range_succ, List.map_append]
  congr 1
  · refine List.map_congr_left fun position member => ?_
    have below : position < count := List.mem_range.mp member
    have shift : count + 1 - 1 - position = count - 1 - position + 1 := by omega
    rw [shift, pow_succ', Nat.div_div_eq_div_mul]
  · simp

theorem digitValue_append (base : Nat) (items : List Nat) (digit : Nat) :
    digitValue base (items ++ [digit]) = digit + base * digitValue base items := by
  simp [digitValue, Nat.ofDigits_cons]

theorem digits_lt (positive : 0 < base) {count number digit : Nat}
    (member : digit ∈ digits base count number) : digit < base := by
  obtain ⟨position, -, rfl⟩ := List.mem_map.mp member
  exact Nat.mod_lt _ positive

/-- The digits determine the number up to the capacity of the width. -/
theorem digitValue_digits (base count number : Nat) :
    digitValue base (digits base count number) = number % base ^ count := by
  induction count generalizing number with
  | zero => simp [digits, digitValue, Nat.mod_one]
  | succ count inductionHypothesis =>
      rw [digits_succ, digitValue_append, inductionHypothesis, pow_succ', Nat.mod_mul]

/-- Digits written by an invertible alphabet are read back. -/
theorem digits_read {α : Type} {write : Nat → α} {read : α → Nat} (positive : 0 < base)
    (undo : ∀ digit < base, read (write digit) = digit) (count number : Nat) :
    ((digits base count number).map write).map read = digits base count number := by
  rw [List.map_map]
  refine (List.map_congr_left fun digit member => ?_).trans (List.map_id _)
  exact undo digit (digits_lt positive member)

theorem digits_injective {count left right : Nat} (leftFits : left < base ^ count)
    (rightFits : right < base ^ count) (same : digits base count left = digits base count right) :
    left = right := by
  have values := congrArg (digitValue base) same
  rwa [digitValue_digits, digitValue_digits, Nat.mod_eq_of_lt leftFits,
    Nat.mod_eq_of_lt rightFits] at values

/-! ## Hexadecimal texts -/

/-- A number in `count` hexadecimal digits. -/
def hexText (count number : Nat) : List Char := (digits 16 count number).map Nat.digitChar

/-- The value of a lower-case hexadecimal digit. -/
def hexDigitValue (character : Char) : Nat :=
  if character.isDigit then character.toNat - '0'.toNat else character.toNat - 'a'.toNat + 10

theorem hexDigitValue_digitChar : ∀ digit < 16, hexDigitValue (Nat.digitChar digit) = digit := by
  decide

@[simp] theorem hexText_length (count number : Nat) : (hexText count number).length = count := by
  simp [hexText]

theorem hexText_injective {count left right : Nat} (leftFits : left < 16 ^ count)
    (rightFits : right < 16 ^ count) (same : hexText count left = hexText count right) :
    left = right := by
  have values := congrArg (List.map hexDigitValue) same
  rw [hexText, hexText, digits_read (by decide) hexDigitValue_digitChar,
    digits_read (by decide) hexDigitValue_digitChar] at values
  exact digits_injective leftFits rightFits values

/-- A digest of 256 bits. -/
abbrev Digest := BitVec 256

/-- `digest.hexdigest()`. -/
def Digest.hexdigest (digest : Digest) : String := String.ofList (hexText 64 digest.toNat)

theorem Digest.hexdigest_injective : Function.Injective Digest.hexdigest := by
  intro left right same
  have fits : ∀ digest : Digest, digest.toNat < 16 ^ 64 := fun digest => digest.isLt
  exact BitVec.eq_of_toNat_eq
    (hexText_injective (fits left) (fits right) (String.ofList_injective same))

theorem mem_hexText {count number : Nat} {character : Char}
    (member : character ∈ hexText count number) :
    ∃ digit < 16, Nat.digitChar digit = character := by
  obtain ⟨digit, digitMember, same⟩ := List.mem_map.mp member
  exact ⟨digit, digits_lt (by decide) digitMember, same⟩

end RetroBrowser.Foundation
