import Mathlib.Logic.Basic

/-!
Owns the shapes of text fields that validators ask for: bounded lengths, texts
over an alphabet with a first (and perhaps a last) character of its own.
-/

namespace RetroBrowser.Foundation.Pattern

/-- `min_length` and `max_length`. -/
def lengthBetween (low high : Nat) (value : String) : Bool :=
  low ≤ value.length && value.length ≤ high

/-- `^[lead][follow]*$`. -/
def leads (lead follow : Char → Bool) : List Char → Bool
  | [] => false
  | first :: rest => lead first && rest.all follow

/-- `^[edge](?:[inner]*[edge])?$`. -/
def edged (edge inner : Char → Bool) (text : List Char) : Bool :=
  leads edge inner text && text.getLast?.any edge

/-- `^prefix` and a pattern for the rest. -/
def after (start : String) (pattern : List Char → Bool) (value : String) : Bool :=
  start.toList.isPrefixOf value.toList && pattern (value.toList.drop start.length)

/-- `[0-9a-f]`. -/
def isLowerHex (character : Char) : Bool :=
  character.isDigit || "abcdef".toList.contains character

/-- `[a-z0-9]`. -/
def isLowerAlnum (character : Char) : Bool := character.isLower || character.isDigit

/-- `[a-z0-9-]`. -/
def isSlug (character : Char) : Bool := isLowerAlnum character || character == '-'

/-- The code points of `\s`. -/
def whiteSpace : List Nat :=
  [0x9, 0xA, 0xB, 0xC, 0xD, 0x20, 0x85, 0xA0, 0x1680, 0x2000, 0x2001, 0x2002, 0x2003, 0x2004,
    0x2005, 0x2006, 0x2007, 0x2008, 0x2009, 0x200A, 0x2028, 0x2029, 0x202F, 0x205F, 0x3000]

/-- `[^\s]`. -/
def isNonSpace (character : Char) : Bool := !whiteSpace.contains character.toNat

/-- `^[0-9a-f]{64}$`. -/
def sha256 (value : String) : Bool := value.length == 64 && value.toList.all isLowerHex

theorem leads_all {lead follow : Char → Bool}
    (covers : ∀ character, lead character → follow character)
    {text : List Char} (accepted : leads lead follow text = true) : text.all follow = true := by
  cases text with
  | nil => simp [leads] at accepted
  | cons first rest =>
      simp only [leads, Bool.and_eq_true] at accepted
      simp [covers first accepted.1, accepted.2]

end RetroBrowser.Foundation.Pattern
