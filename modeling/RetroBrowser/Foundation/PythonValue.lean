import Mathlib.Algebra.Group.Int.Defs
import RetroBrowser.Foundation.PythonText

/-!
Owns the values that `json.loads` returns, what `int` and `str` make of them, and why it
returns none.

Contract: a finite float is an integer times a power of two. A text that has half a surrogate
pair, which JSON can write, is kept by its code points. The text of floats, lists and
dictionaries is a parameter, which has none of a value that is nested too deeply.
-/

namespace RetroBrowser.Foundation

inductive PythonFloat where
  | nan
  | infinite (negative : Bool)
  | finite (significand exponent : ℤ)
deriving DecidableEq, Repr

/-- The code points of a text that no encoding has: one of them is half a pair. -/
structure Surrogates where
  points : List ℕ
  half : ∃ point ∈ points, 0xD800 ≤ point ∧ point < 0xE000
deriving DecidableEq, Repr

/-- A `str`. -/
inductive PythonStr where
  | text (value : String)
  | surrogates (value : Surrogates)
deriving DecidableEq, Repr

instance : Coe String PythonStr := ⟨.text⟩

/-- The characters; the replacement character stands for half a pair. -/
def PythonStr.characters : PythonStr → List Char
  | .text value => value.toList
  | .surrogates value => value.points.map fun point =>
    if 0xD800 ≤ point ∧ point < 0xE000 then Char.ofNat 0xFFFD else Char.ofNat point

inductive PythonValue where
  | null
  | bool (value : Bool)
  | int (value : ℤ)
  | float (value : PythonFloat)
  | str (value : PythonStr)
  | list (items : List PythonValue)
  | dict (items : List (PythonStr × PythonValue))

/-- The built-in exceptions that reading a value raises. -/
inductive ReadError where
  | key
  | type (message : String)
  | value (message : String)
  | overflow (message : String)
  | recursion
deriving DecidableEq, Repr

/-- What `json.loads` raises: `UnicodeDecodeError`, `JSONDecodeError`, the `ValueError` of `int`
for too many digits, or `RecursionError`. -/
inductive LoadsError where
  | unicodeDecode
  | jsonDecode
  | digits
  | recursion
deriving DecidableEq, Repr

/-- `json.loads` of bytes. -/
abbrev Loads := List UInt8 → Except LoadsError PythonValue

namespace PythonValue

/-- `significand * 2 ** exponent`, without its fraction. -/
def truncated (significand exponent : ℤ) : ℤ :=
  if 0 ≤ exponent then significand * 2 ^ exponent.toNat
  else significand.tdiv (2 ^ (-exponent).toNat)

/-- `int(value)`. -/
def toInt : PythonValue → Except ReadError ℤ
  | .int value => .ok value
  | .bool value => .ok (if value then 1 else 0)
  | .float .nan => .error (.value "cannot convert float NaN to integer")
  | .float (.infinite _) => .error (.overflow "cannot convert float infinity to integer")
  | .float (.finite significand exponent) => .ok (truncated significand exponent)
  | .str (.text value) =>
    match PythonText.intBase10 value.toList with
    | some number => .ok number
    | none => .error (.value "invalid literal for int() with base 10")
  | .str (.surrogates _) => .error (.value "invalid literal for int() with base 10")
  | .null | .list _ | .dict _ =>
    .error (.type "int() argument must be a string, a bytes-like object or a real number")

/-- `str(value)`; `repr` is the text of floats, lists and dictionaries, nothing where Python
raises `RecursionError`. -/
def toStr (repr : PythonValue → Option String) : PythonValue → Except ReadError PythonStr
  | .str value => .ok value
  | .null => .ok "None"
  | .bool value => .ok (if value then "True" else "False")
  | .int value => .ok (toString value)
  | other =>
    match repr other with
    | some text => .ok text
    | none => .error .recursion

/-- The value is nested too deeply for its text. -/
def TooDeep (repr : PythonValue → Option String) (value : PythonValue) : Prop :=
  value.toStr repr = .error .recursion

/-- `items[key]`. -/
def item (items : List (PythonStr × PythonValue)) (key : String) : Except ReadError PythonValue :=
  match items.lookup (.text key) with
  | some value => .ok value
  | none => .error .key

theorem toStr_error {repr : PythonValue → Option String} {value : PythonValue} {error : ReadError}
    (raises : value.toStr repr = .error error) : error = .recursion ∧ value.TooDeep repr := by
  have recursion : error = .recursion := by
    unfold toStr at raises
    split at raises
    · exact nomatch raises
    · exact nomatch raises
    · exact nomatch raises
    · exact nomatch raises
    · split at raises
      · exact nomatch raises
      · exact (Except.error.inj raises).symm
  exact ⟨recursion, raises.trans (congrArg Except.error recursion)⟩

/-- Only an infinite float makes `int` raise anything but `TypeError` and `ValueError`. -/
theorem toInt_error {value : PythonValue} {error : ReadError}
    (raises : value.toInt = .error error) :
    (∃ message, error = .type message ∨ error = .value message) ∨
      ∃ negative, value = .float (.infinite negative) := by
  cases value with
  | float number =>
      cases number with
      | infinite negative => exact Or.inr ⟨negative, rfl⟩
      | nan => exact Or.inl ⟨_, Or.inr (Except.error.inj raises).symm⟩
      | finite => exact nomatch raises
  | str value =>
      cases value with
      | text value =>
          simp only [toInt] at raises
          split at raises
          · exact nomatch raises
          · exact Or.inl ⟨_, Or.inr (Except.error.inj raises).symm⟩
      | surrogates => exact Or.inl ⟨_, Or.inr (Except.error.inj raises).symm⟩
  | bool | int => exact nomatch raises
  | null | list | dict => exact Or.inl ⟨_, Or.inl (Except.error.inj raises).symm⟩

end PythonValue

end RetroBrowser.Foundation
