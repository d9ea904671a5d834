import Mathlib.Data.List.TakeWhile
import RetroBrowser.Foundation.JsonText
import RetroBrowser.Foundation.PythonValue

/-!
Owns the reader of JSON texts and bytes, as `json.loads` with and without an `object_pairs_hook`
that refuses duplicate keys, and its round trip with the writer, whose text is ASCII.

Contract: nesting is not limited. The code of half a surrogate pair, for which no character
exists, is refused here; a field that takes a text refuses it otherwise.
-/

namespace RetroBrowser.Foundation.Json

mutual

/-- The value that a document stands for; `float` reads the text of a real number. -/
def toPython (float : List Char → PythonFloat) : Json → PythonValue
  | .null => .null
  | .bool value => .bool value
  | .number value => .int value
  | .real text => .float (float text)
  | .string value => .str (.text value)
  | .array items => .list (itemsToPython float items)
  | .object members => .dict (membersToPython float members)

def itemsToPython (float : List Char → PythonFloat) : List Json → List PythonValue
  | [] => []
  | item :: rest => toPython float item :: itemsToPython float rest

def membersToPython (float : List Char → PythonFloat) :
    List (String × Json) → List (PythonStr × PythonValue)
  | [] => []
  | (key, value) :: rest => (.text key, toPython float value) :: membersToPython float rest

end

/-- Why a text is not read: it is no JSON text, it has an integer with more digits than
`int` takes, or it repeats a key. -/
inductive LoadError where
  | malformed
  | digits
  | duplicate (key : String)
deriving DecidableEq, Repr

def isWhitespace (character : Char) : Bool :=
  character == ' ' || character == '\t' || character == '\n' || character == '\r'

/-- The text after white space. -/
def skip (text : List Char) : List Char := text.dropWhile isWhitespace

/-! ## Strings -/

def isHexDigit (character : Char) : Bool :=
  character.isDigit || ('a' ≤ character.toLower && character.toLower ≤ 'f')

/-- The code unit of four hexadecimal digits of either case. -/
def readUnit (text : List Char) : Option ℕ :=
  if text.all isHexDigit then some (unitValue (text.map Char.toLower)) else none

def isHigh (unit : ℕ) : Bool := 0xD800 ≤ unit && unit < 0xDC00

def isLow (unit : ℕ) : Bool := 0xDC00 ≤ unit && unit < 0xE000

/-- The character after a backslash that is not `u`. -/
def readEscaped : Char → Option Char
  | '"' => some '"'
  | '\\' => some '\\'
  | '/' => some '/'
  | 'b' => some (Char.ofNat 0x08)
  | 'f' => some (Char.ofNat 0x0C)
  | 'n' => some '\n'
  | 'r' => some '\r'
  | 't' => some '\t'
  | _ => none

/-- The character of a code unit; the first half of a pair takes the second one too. -/
def readPoint (unit : ℕ) (rest : List Char) : Option (Char × List Char) :=
  if isHigh unit then
    match rest with
    | '\\' :: 'u' :: first :: second :: third :: fourth :: rest =>
      match readUnit [first, second, third, fourth] with
      | some low =>
        if isLow low then
          some (Char.ofNat (0x10000 + (unit - 0xD800) * 0x400 + (low - 0xDC00)), rest)
        else none
      | none => none
    | _ => none
  else if isLow unit then none
  else some (Char.ofNat unit, rest)

/-- One character of a string. -/
def readCharacter : List Char → Option (Char × List Char)
  | '\\' :: 'u' :: first :: second :: third :: fourth :: rest =>
    (readUnit [first, second, third, fourth]).bind fun unit => readPoint unit rest
  | '\\' :: character :: rest => (readEscaped character).map fun value => (value, rest)
  | character :: rest => if character.toNat < 0x20 then none else some (character, rest)
  | [] => none

/-- The characters up to the closing quote. -/
def readText : ℕ → List Char → Option (List Char × List Char)
  | 0, _ => none
  | fuel + 1, text =>
    match text with
    | '"' :: rest => some ([], rest)
    | _ =>
      match readCharacter text with
      | none => none
      | some (character, rest) =>
        (readText fuel rest).map fun (characters, rest) => (character :: characters, rest)

/-- A string after its opening quote. -/
def readString (text : List Char) : Except LoadError (String × List Char) :=
  match readText (text.length + 1) text with
  | some (characters, rest) => .ok (String.ofList characters, rest)
  | none => .error .malformed

/-! ## Numbers -/

/-- `0|[1-9][0-9]*`. -/
def readDigits : List Char → Option (List Char × List Char)
  | '0' :: rest => some (['0'], rest)
  | text =>
    if text.takeWhile Char.isDigit = [] then none
    else some (text.takeWhile Char.isDigit, text.dropWhile Char.isDigit)

/-- `(\.[0-9]+)?`. -/
def readFraction (text : List Char) : List Char × List Char :=
  match text with
  | '.' :: rest =>
    if rest.takeWhile Char.isDigit = [] then ([], text)
    else ('.' :: rest.takeWhile Char.isDigit, rest.dropWhile Char.isDigit)
  | _ => ([], text)

def isExponent (character : Char) : Bool := character == 'e' || character == 'E'

/-- `[-+]?`. -/
def readSign : List Char → List Char × List Char
  | '-' :: rest => (['-'], rest)
  | '+' :: rest => (['+'], rest)
  | text => ([], text)

/-- `([eE][-+]?[0-9]+)?`. -/
def readExponent (text : List Char) : List Char × List Char :=
  match text with
  | mark :: rest =>
    if isExponent mark then
      let (sign, rest) := readSign rest
      if rest.takeWhile Char.isDigit = [] then ([], text)
      else (mark :: sign ++ rest.takeWhile Char.isDigit, rest.dropWhile Char.isDigit)
    else ([], text)
  | [] => ([], text)

/-- `sys.get_int_max_str_digits()`. -/
def maxDigits : ℕ := 4300

/-- A number without its sign. -/
def readUnsigned (negative : Bool) (text : List Char) : Except LoadError (Json × List Char) :=
  match readDigits text with
  | none => .error .malformed
  | some (digits, rest) =>
    let (fraction, rest) := readFraction rest
    let (exponent, rest) := readExponent rest
    if fraction ++ exponent = [] then
      if maxDigits < digits.length then .error .digits
      else
        let value : ℤ := Nat.ofDigitChars 10 digits 0
        .ok (.number (if negative then -value else value), rest)
    else
      .ok (.real ((if negative then ['-'] else []) ++ digits ++ fraction ++ exponent), rest)

/-! ## Documents -/

/-- The literals of `scan_once`, with the three that only Python reads. -/
def literals : List (List Char × Json) :=
  [("null".toList, .null), ("true".toList, .bool true), ("false".toList, .bool false),
    ("NaN".toList, .real "NaN".toList), ("Infinity".toList, .real "Infinity".toList),
    ("-Infinity".toList, .real "-Infinity".toList)]

/-- A literal or a number. -/
def readScalar (text : List Char) : Except LoadError (Json × List Char) :=
  match literals.find? fun literal => literal.1.isPrefixOf text with
  | some (literal, value) => .ok (value, text.drop literal.length)
  | none =>
    match text with
    | '-' :: rest => readUnsigned true rest
    | _ => readUnsigned false text

/-- An `object_pairs_hook`: what becomes of the pairs of an object. -/
abbrev PairsHook := List (String × Json) → Except LoadError (List (String × Json))

/-- The first key that was there before. -/
def repeatedKey : List (String × Json) → List String → Option String
  | [], _ => none
  | (key, _) :: rest, seen => if key ∈ seen then some key else repeatedKey rest (key :: seen)

/-- `_reject_duplicate_keys`. -/
def rejectDuplicateKeys : PairsHook := fun pairs =>
  match repeatedKey pairs [] with
  | some key => .error (.duplicate key)
  | none => .ok pairs

/-- `members[key] = value`: a key that is there keeps its place. -/
def setMember (members : List (String × Json)) (pair : String × Json) : List (String × Json) :=
  if pair.1 ∈ members.map Prod.fst then
    members.map fun member => if member.1 = pair.1 then pair else member
  else members ++ [pair]

/-- No hook: `dict(pairs)`. -/
def lastValues : PairsHook := fun pairs => .ok (pairs.foldl setMember [])

section Reader

variable (hook : PairsHook)

mutual

/-- `scan_once`. -/
def readValue : ℕ → List Char → Except LoadError (Json × List Char)
  | 0, _ => .error .malformed
  | fuel + 1, text =>
    match text with
    | '"' :: rest => (readString rest).map fun (value, rest) => (.string value, rest)
    | '[' :: rest =>
      match skip rest with
      | ']' :: rest => .ok (.array [], rest)
      | rest => (readItems fuel rest).map fun (items, rest) => (.array items, rest)
    | '\x7b' :: rest =>
      match skip rest with
      | '\x7d' :: rest => .ok (.object [], rest)
      | rest => do
        let (pairs, rest) ← readMembers fuel rest
        let members ← hook pairs
        pure (.object members, rest)
    | _ => readScalar text

/-- The items up to the closing bracket. -/
def readItems : ℕ → List Char → Except LoadError (List Json × List Char)
  | 0, _ => .error .malformed
  | fuel + 1, text => do
    let (item, rest) ← readValue fuel text
    match skip rest with
    | ']' :: rest => pure ([item], rest)
    | ',' :: rest => (readItems fuel (skip rest)).map fun (items, rest) => (item :: items, rest)
    | _ => .error .malformed

/-- The members up to the closing brace. -/
def readMembers : ℕ → List Char → Except LoadError (List (String × Json) × List Char)
  | 0, _ => .error .malformed
  | fuel + 1, text =>
    match text with
    | '"' :: rest => do
      let (key, rest) ← readString rest
      match skip rest with
      | ':' :: rest => do
        let (value, rest) ← readValue fuel (skip rest)
        match skip rest with
        | '\x7d' :: rest => pure ([(key, value)], rest)
        | ',' :: rest =>
          (readMembers fuel (skip rest)).map fun (members, rest) => ((key, value) :: members, rest)
        | _ => .error .malformed
      | _ => .error .malformed
    | _ => .error .malformed

end

/-- `json.loads(text, object_pairs_hook=hook)`. -/
def loads (text : List Char) : Except LoadError Json := do
  let (value, rest) ← readValue hook (2 * text.length + 1) (skip text)
  if skip rest = [] then pure value else .error .malformed

end Reader

/-! ## Bytes -/

/-- The encodings that `json.detect_encoding` tells apart. -/
inductive Encoding where
  | utf8 | utf8Signed | utf16 | utf16Big | utf16Little | utf32 | utf32Big | utf32Little
deriving DecidableEq, Repr

/-- `json.detect_encoding`. -/
def detectEncoding (bytes : List UInt8) : Encoding :=
  if [0x00, 0x00, 0xFE, 0xFF].isPrefixOf bytes ∨ [0xFF, 0xFE, 0x00, 0x00].isPrefixOf bytes
    then .utf32
  else if [0xFE, 0xFF].isPrefixOf bytes ∨ [0xFF, 0xFE].isPrefixOf bytes then .utf16
  else if [0xEF, 0xBB, 0xBF].isPrefixOf bytes then .utf8Signed
  else
    match bytes with
    | first :: second :: third :: fourth :: _ =>
      if first = 0 then if second ≠ 0 then .utf16Big else .utf32Big
      else if second = 0 then if third ≠ 0 ∨ fourth ≠ 0 then .utf16Little else .utf32Little
      else .utf8
    | [first, second] =>
      if first = 0 then .utf16Big else if second = 0 then .utf16Little else .utf8
    | _ => .utf8

/-- `text.encode()`. -/
def encodeUtf8 (text : List Char) : List UInt8 := (String.ofList text).toUTF8.data.toList

def decodeUtf8 (bytes : List UInt8) : Option (List Char) :=
  (ByteArray.utf8Decode? ⟨bytes.toArray⟩).map Array.toList

/-- The value of some bytes, the highest one first or last. -/
def unitOf (big : Bool) (bytes : List UInt8) : ℕ :=
  (if big then bytes else bytes.reverse).foldl (fun value byte => 256 * value + byte.toNat) 0

def units16 (big : Bool) : List UInt8 → Option (List ℕ)
  | [] => some []
  | first :: second :: rest => (units16 big rest).map (unitOf big [first, second] :: ·)
  | _ => none

def units32 (big : Bool) : List UInt8 → Option (List ℕ)
  | [] => some []
  | first :: second :: third :: fourth :: rest =>
    (units32 big rest).map (unitOf big [first, second, third, fourth] :: ·)
  | _ => none

/-- The characters of UTF-16 code units. -/
def points16 : List ℕ → Option (List Char)
  | [] => some []
  | unit :: rest =>
    if isHigh unit then
      match rest with
      | low :: rest =>
        if isLow low then
          (points16 rest).map
            (Char.ofNat (0x10000 + (unit - 0xD800) * 0x400 + (low - 0xDC00)) :: ·)
        else none
      | [] => none
    else if isLow unit then none
    else (points16 rest).map (Char.ofNat unit :: ·)

def points32 (units : List ℕ) : Option (List Char) :=
  if units.all fun unit => unit < 0x110000 && !isHigh unit && !isLow unit then
    some (units.map Char.ofNat)
  else none

/-- `bytes.decode(encoding)`; a signature is not part of the text. -/
def decode (bytes : List UInt8) : Encoding → Option (List Char)
  | .utf8 => decodeUtf8 bytes
  | .utf8Signed => decodeUtf8 (bytes.drop 3)
  | .utf16Big => units16 true bytes >>= points16
  | .utf16Little => units16 false bytes >>= points16
  | .utf16 => units16 ([0xFE, 0xFF].isPrefixOf bytes) (bytes.drop 2) >>= points16
  | .utf32Big => units32 true bytes >>= points32
  | .utf32Little => units32 false bytes >>= points32
  | .utf32 => units32 ([0x00, 0x00, 0xFE, 0xFF].isPrefixOf bytes) (bytes.drop 4) >>= points32

/-- `json.loads(bytes, object_pairs_hook=hook)`. -/
def loadsBytes (hook : PairsHook) (bytes : List UInt8) : Except LoadError Json :=
  match decode bytes (detectEncoding bytes) with
  | some text => loads hook text
  | none => .error .malformed

/-- `json.loads(bytes)`. -/
def loadsPython (float : List Char → PythonFloat) : Loads := fun bytes =>
  match decode bytes (detectEncoding bytes) with
  | none => .error .unicodeDecode
  | some text =>
    match loads lastValues text with
    | .ok document => .ok (document.toPython float)
    | .error .digits => .error .digits
    | .error _ => .error .jsonDecode

/-! ## Strings are read back -/

theorem readUnit_hexUnit {unit : ℕ} (small : unit < 0x10000) :
    readUnit (hexUnit unit) = some unit := by
  have plain : ∀ digit < 16, isHexDigit (Nat.digitChar digit) = true ∧
      (Nat.digitChar digit).toLower = Nat.digitChar digit := by decide
  have digit : ∀ character ∈ hexUnit unit, isHexDigit character = true ∧
      character.toLower = character := by
    intro character member
    rw [hexUnit_eq] at member
    have ⟨digit, below, same⟩ := mem_hexText member
    rw [← same]
    exact plain digit below
  have lower : (hexUnit unit).map Char.toLower = hexUnit unit :=
    (List.map_congr_left fun character member => (digit character member).2).trans (List.map_id' _)
  unfold readUnit
  rw [if_pos (List.all_eq_true.mpr fun character member => (digit character member).1), lower,
    unitValue_hexUnit small]

theorem readCharacter_unit {unit : ℕ} (small : unit < 0x10000) (rest : List Char) :
    readCharacter (escapeUnit unit ++ rest) = readPoint unit rest := by
  have value := readUnit_hexUnit small
  simp only [hexUnit, List.map_cons, List.map_nil] at value
  simp only [escapeUnit, hexUnit, List.map_cons, List.map_nil, List.cons_append, List.nil_append,
    readCharacter, value, Option.bind_some]

theorem readPoint_low {low : ℕ} (fits : low < 0x400) (high : ℕ) (isHigh' : isHigh high = true)
    (rest : List Char) : readPoint high (escapeUnit (0xDC00 + low) ++ rest) =
      some (Char.ofNat (0x10000 + (high - 0xD800) * 0x400 + low), rest) := by
  have value : readUnit (hexUnit (0xDC00 + low)) = some (0xDC00 + low) :=
    readUnit_hexUnit (by omega)
  simp only [hexUnit, List.map_cons, List.map_nil] at value
  have second : isLow (0xDC00 + low) = true := by
    simp only [isLow, Bool.and_eq_true, decide_eq_true_eq]
    omega
  simp only [readPoint, isHigh', escapeUnit, hexUnit, List.map_cons, List.map_nil,
    List.cons_append, List.nil_append, value, second, if_true, Nat.add_sub_cancel_left]

theorem readCharacter_plain {character : Char} (plain : character ≠ '\\')
    (printable : 0x20 ≤ character.toNat) (rest : List Char) :
    readCharacter (character :: rest) = some (character, rest) := by
  have control : ¬character.toNat < 0x20 := Nat.not_lt.mpr printable
  unfold readCharacter
  split <;> simp_all

/-- Every code is read back. -/
theorem readCharacter_escape (character : Char) (rest : List Char) :
    readCharacter (escape character ++ rest) = some (character, rest) := by
  have same : ∀ point, character.toNat = point → character = Char.ofNat point := by
    intro point value
    rw [← value, Char.ofNat_toNat]
  unfold escape
  dsimp only
  split_ifs with quote backslash newline carriage tab feed back printable basic
  · rw [quote]; rfl
  · rw [backslash]; rfl
  · rw [newline]; rfl
  · rw [carriage]; rfl
  · rw [tab]; rfl
  · rw [same _ feed]; rfl
  · rw [same _ back]; rfl
  · exact readCharacter_plain backslash printable.1 rest
  · have high : isHigh character.toNat = false := by
      simp only [isHigh, Bool.and_eq_false_iff, decide_eq_false_iff_not]
      rcases character.valid with below | ⟨above, -⟩
      · have below' : character.toNat < 0xD800 := below
        omega
      · have above' : 0xDFFF < character.toNat := above
        omega
    have low : isLow character.toNat = false := by
      simp only [isLow, Bool.and_eq_false_iff, decide_eq_false_iff_not]
      rcases character.valid with below | ⟨above, -⟩
      · have below' : character.toNat < 0xD800 := below
        omega
      · have above' : 0xDFFF < character.toNat := above
        omega
    rw [readCharacter_unit basic]
    simp only [readPoint, high, low, Bool.false_eq_true, if_false, Char.ofNat_toNat]
  · have bounded : character.toNat < 0x110000 := by
      rcases character.valid with below | ⟨-, below⟩
      · have below' : character.toNat < 0xD800 := below
        omega
      · exact below
    have high : isHigh (0xD800 + (character.toNat - 0x10000) / 0x400) = true := by
      simp only [isHigh, Bool.and_eq_true, decide_eq_true_eq]
      omega
    have parts : 0x10000 + (character.toNat - 0x10000) / 0x400 * 0x400 +
        (character.toNat - 0x10000) % 0x400 = character.toNat := by omega
    rw [List.append_assoc, readCharacter_unit (by omega),
      readPoint_low (Nat.mod_lt _ (by decide)) _ high, Nat.add_sub_cancel_left, parts,
      Char.ofNat_toNat]

theorem escape_length (character : Char) :
    0 < (escape character).length ∧ (escape character).length ≤ 12 := by
  unfold escape escapeUnit hexUnit
  dsimp only
  split_ifs <;> simp

theorem readText_succ {fuel : ℕ} {text : List Char} (unclosed : ∀ rest, text ≠ '"' :: rest) :
    readText (fuel + 1) text = match readCharacter text with
      | none => none
      | some (character, rest) =>
        (readText fuel rest).map fun (characters, rest) => (character :: characters, rest) := by
  rw [readText]
  exact fun rest => unclosed rest

theorem readText_codes {fuel : ℕ} (characters rest : List Char)
    (enough : characters.length < fuel) :
    readText fuel (characters.flatMap escape ++ '"' :: rest) = some (characters, rest) := by
  induction characters generalizing fuel with
  | nil =>
      cases fuel with
      | zero => exact absurd enough (Nat.not_lt_zero _)
      | succ fuel => rfl
  | cons character characters inductionHypothesis =>
      cases fuel with
      | zero => exact absurd enough (Nat.not_lt_zero _)
      | succ fuel =>
          have later := inductionHypothesis (Nat.lt_of_succ_lt_succ enough)
          have head := escape_head character (characters.flatMap escape ++ '"' :: rest)
          have read := readCharacter_escape character (characters.flatMap escape ++ '"' :: rest)
          have unclosed : ∀ rest', escape character ++
            (characters.flatMap escape ++ '"' :: rest) ≠
              '"' :: rest' := fun rest' quoted => head (by rw [quoted]; rfl)
          rw [List.flatMap_cons, List.append_assoc, readText_succ unclosed, read]
          simp only [later, Option.map_some]

/-- A string is read back. -/
theorem readString_quote (value : String) (rest : List Char) :
    readString (value.toList.flatMap escape ++ '"' :: rest) = .ok (value, rest) := by
  have longer : ∀ characters : List Char,
      characters.length ≤ (characters.flatMap escape).length := by
    intro characters
    induction characters with
    | nil => exact Nat.le_refl 0
    | cons character characters inductionHypothesis =>
        have one := (escape_length character).1
        rw [List.flatMap_cons, List.length_append, List.length_cons]
        omega
  have enough : value.toList.length <
      (value.toList.flatMap escape ++ '"' :: rest).length + 1 := by
    have codes := longer value.toList
    rw [List.length_append]
    omega
  rw [readString, readText_codes _ _ enough]
  dsimp only
  rw [String.ofList_toList]

/-! ## Numbers are read back -/

/-- What may follow a number. -/
def stops (rest : List Char) : Prop :=
  ∀ character, rest.head? = some character →
    character.isDigit = false ∧ character ≠ '.' ∧ isExponent character = false

theorem toDigits_head {number : ℕ} (positive : 0 < number) :
    (Nat.toDigits 10 number).head? ≠ some '0' := by
  induction number using Nat.strongRecOn with
  | _ number inductionHypothesis =>
      by_cases small : number < 10
      · rw [Nat.toDigits_of_lt_base small]
        intro zero
        have digit : ∀ digit < 10, 0 < digit → Nat.digitChar digit ≠ '0' := by decide
        exact digit number small positive (Option.some.inj zero)
      · have quotient : 0 < number / 10 := Nat.div_pos (Nat.not_lt.mp small) (by decide)
        have shorter : number / 10 < number := Nat.div_lt_self positive (by decide)
        have front := inductionHypothesis _ shorter quotient
        rw [Nat.toDigits_of_base_le (by decide) (Nat.not_lt.mp small), List.head?_append]
        intro zero
        cases head : (Nat.toDigits 10 (number / 10)).head? with
        | none => exact Nat.toDigits_ne_nil (List.head?_eq_none_iff.mp head)
        | some digit =>
            rw [head] at zero front
            exact front zero

theorem readDigits_toDigits (number : ℕ) {rest : List Char} (after : stops rest) :
    readDigits (Nat.toDigits 10 number ++ rest) = some (Nat.toDigits 10 number, rest) := by
  have none : rest.takeWhile Char.isDigit = [] ∧ rest.dropWhile Char.isDigit = rest := by
    cases rest with
    | nil => exact ⟨rfl, rfl⟩
    | cons character rest => simp [(after character rfl).1]
  have digits : ∀ character ∈ Nat.toDigits 10 number, character.isDigit = true :=
    fun _ member => isDigit_of_mem member
  cases number with
  | zero => rfl
  | succ number =>
      have head := toDigits_head (Nat.succ_pos number)
      have taken : (Nat.toDigits 10 (number + 1) ++ rest).takeWhile Char.isDigit =
          Nat.toDigits 10 (number + 1) := by
        rw [List.takeWhile_append_of_pos digits, none.1, List.append_nil]
      have dropped : (Nat.toDigits 10 (number + 1) ++ rest).dropWhile Char.isDigit = rest := by
        rw [List.dropWhile_append_of_pos digits, none.2]
      unfold readDigits
      split
      · rename_i equal
        cases text : Nat.toDigits 10 (number + 1) with
        | nil => exact absurd text Nat.toDigits_ne_nil
        | cons first others =>
            rw [text] at equal head
            exact absurd (congrArg some (List.cons.inj equal).1) head
      · rw [taken, dropped, if_neg Nat.toDigits_ne_nil]

theorem readFraction_stops {rest : List Char} (after : stops rest) :
    readFraction rest = ([], rest) := by
  unfold readFraction
  split
  · exact absurd rfl (after '.' rfl).2.1
  · rfl

theorem readExponent_stops {rest : List Char} (after : stops rest) :
    readExponent rest = ([], rest) := by
  unfold readExponent
  split
  · rw [(after _ rfl).2.2]
    rfl
  · rfl

theorem readUnsigned_toDigits (negative : Bool) {number : ℕ} {rest : List Char}
    (short : (Nat.toDigits 10 number).length ≤ maxDigits) (after : stops rest) :
    readUnsigned negative (Nat.toDigits 10 number ++ rest) =
      .ok (.number (if negative then -(number : ℤ) else number), rest) := by
  unfold readUnsigned
  rw [readDigits_toDigits number after]
  dsimp only
  rw [readFraction_stops after]
  dsimp only
  rw [readExponent_stops after, List.append_nil, if_pos rfl, if_neg (Nat.not_lt.mpr short)]
  simp

/-- No literal starts with a digit, or with a minus sign before a digit. -/
theorem literals_digit {digit : Char} (isDigit : digit.isDigit = true) (rest : List Char) :
    (literals.find? fun literal => literal.1.isPrefixOf (digit :: rest)) = none ∧
      (literals.find? fun literal => literal.1.isPrefixOf ('-' :: digit :: rest)) = none := by
  have differs : ∀ letter, letter.isDigit = false → letter ≠ digit := by
    intro letter other same
    rw [same, isDigit] at other
    exact Bool.noConfusion other
  simp [literals, List.isPrefixOf, differs 'n' rfl, differs 't' rfl, differs 'f' rfl,
    differs 'N' rfl, differs 'I' rfl, differs '-' rfl]

/-- A number is read back. -/
theorem readScalar_number {value : ℤ} {rest : List Char}
    (short : (Nat.toDigits 10 value.natAbs).length ≤ maxDigits) (after : stops rest) :
    readScalar (dumps (.number value) ++ rest) = .ok (.number value, rest) := by
  have ⟨digit, others, text⟩ : ∃ digit others,
      Nat.toDigits 10 value.natAbs = digit :: others :=
    List.exists_cons_of_ne_nil Nat.toDigits_ne_nil
  have isDigit : digit.isDigit = true := isDigit_of_mem (text ▸ List.mem_cons_self)
  have unlike := literals_digit isDigit (others ++ rest)
  rw [dumps, number_text]
  unfold readScalar
  split_ifs with positive
  · have same : value.toNat = value.natAbs := by omega
    have read := readUnsigned_toDigits false short after
    rw [same]
    rw [text] at read ⊢
    rw [List.cons_append, unlike.1]
    dsimp only
    split
    · rename_i minus
      rw [(List.cons.inj minus).1] at isDigit
      exact absurd isDigit (by decide)
    · rw [← List.cons_append, read]
      simp [Int.natAbs_of_nonneg positive]
  · have same : (-value).toNat = value.natAbs := by omega
    have read := readUnsigned_toDigits true short after
    rw [same]
    rw [text] at read ⊢
    rw [List.cons_append, List.cons_append, unlike.2]
    show readUnsigned true (digit :: others ++ rest) = _
    rw [read]
    simp only [if_true, Except.ok.injEq, Prod.mk.injEq, number.injEq, and_true]
    omega

/-! ## Documents are read back -/

mutual

/-- Keys are distinct, and `int` takes the integers. -/
def tidy : Json → Bool
  | .number value => (Nat.toDigits 10 value.natAbs).length ≤ maxDigits
  | .array items => tidyItems items
  | .object members => (members.map Prod.fst).Nodup && tidyMembers members
  | _ => true

def tidyItems : List Json → Bool
  | [] => true
  | item :: rest => tidy item && tidyItems rest

def tidyMembers : List (String × Json) → Bool
  | [] => true
  | (_, value) :: rest => tidy value && tidyMembers rest

end

theorem tidyItems_eq (items : List Json) : tidyItems items = items.all tidy := by
  induction items with
  | nil => rfl
  | cons item rest inductionHypothesis =>
      rw [tidyItems, inductionHypothesis, List.all_cons]

theorem tidyMembers_eq (members : List (String × Json)) :
    tidyMembers members = members.all fun member => tidy member.2 := by
  induction members with
  | nil => rfl
  | cons member rest inductionHypothesis =>
      rw [tidyMembers, inductionHypothesis, List.all_cons]

/-- A hook that leaves pairs with distinct keys as they are. -/
def Keeps (hook : PairsHook) : Prop :=
  ∀ pairs : List (String × Json), (pairs.map Prod.fst).Nodup → hook pairs = .ok pairs

theorem repeatedKey_none {members : List (String × Json)} {seen : List String}
    (distinct : (members.map Prod.fst).Nodup) (fresh : ∀ member ∈ members, member.1 ∉ seen) :
    repeatedKey members seen = none := by
  induction members generalizing seen with
  | nil => rfl
  | cons member rest inductionHypothesis =>
      have ⟨new, distinct'⟩ := List.nodup_cons.mp distinct
      rw [repeatedKey, if_neg (fresh member List.mem_cons_self)]
      apply inductionHypothesis distinct'
      intro other inside
      rw [List.mem_cons, not_or]
      constructor
      · intro same
        exact new (same ▸ List.mem_map_of_mem inside)
      · exact fresh other (List.mem_cons_of_mem member inside)

theorem keeps_rejectDuplicateKeys : Keeps rejectDuplicateKeys := by
  intro pairs distinct
  rw [rejectDuplicateKeys, repeatedKey_none distinct fun _ _ => List.not_mem_nil]

theorem foldl_setMember (members : List (String × Json)) {pairs : List (String × Json)}
    (distinct : ((members ++ pairs).map Prod.fst).Nodup) :
    pairs.foldl setMember members = members ++ pairs := by
  induction pairs generalizing members with
  | nil => rw [List.append_nil, List.foldl_nil]
  | cons pair rest inductionHypothesis =>
      have whole : members ++ pair :: rest = members ++ [pair] ++ rest := by simp
      have new : pair.1 ∉ members.map Prod.fst := by
        rw [List.map_append, List.map_cons, List.nodup_append] at distinct
        intro inside
        exact distinct.2.2 _ inside _ List.mem_cons_self rfl
      rw [List.foldl_cons, setMember, if_neg new, inductionHypothesis _ (whole ▸ distinct), whole]

theorem keeps_lastValues : Keeps lastValues := fun _ distinct =>
  congrArg Except.ok (foldl_setMember [] distinct)

theorem skip_cons {character : Char} (ink : isWhitespace character = false) (rest : List Char) :
    skip (character :: rest) = character :: rest := by
  rw [skip, List.dropWhile_cons, ink]
  rfl

/-- A document starts with a mark that is neither white space nor a closing bracket. -/
theorem dumps_start {value : Json} (own : value.exact = true) (rest : List Char) :
    ∃ character others, dumps value ++ rest = character :: others ∧
      isWhitespace character = false ∧ character ≠ ']' := by
  have ⟨character, head, announced⟩ := dumps_head own rest
  have something : Kind.announced character ≠ .nothing := by
    rw [announced]
    cases value <;> simp [kind]
  cases text : dumps value ++ rest with
  | nil =>
      rw [text] at head
      exact absurd head (by simp)
  | cons first others =>
      rw [text] at head
      cases head
      refine ⟨character, others, rfl, ?_, ?_⟩
      · by_contra blank
        apply something
        simp only [isWhitespace, Bool.not_eq_false, Bool.or_eq_true, beq_iff_eq] at blank
        rcases blank with ((same | same) | same) | same <;> rw [same] <;> rfl
      · intro close
        apply something
        rw [close]
        rfl

/-- A document starts without white space. -/
theorem skip_dumps {value : Json} (own : value.exact = true) (rest : List Char) :
    skip (dumps value ++ rest) = dumps value ++ rest := by
  have ⟨character, others, text, ink, _⟩ := dumps_start own rest
  rw [text, skip_cons ink]

theorem dumps_nonempty {value : Json} (own : value.exact = true) : 0 < (dumps value).length := by
  have ⟨character, head, _⟩ := dumps_head own []
  rw [List.append_nil] at head
  cases text : dumps value with
  | nil =>
      rw [text] at head
      exact absurd head (by simp)
  | cons => exact Nat.succ_pos _

/-- The document is read back whatever follows it, with fuel for twice its text. -/
def ReadsBack (hook : PairsHook) (value : Json) : Prop :=
  ∀ fuel rest, 2 * (dumps value).length ≤ fuel → stops rest →
    readValue hook fuel (dumps value ++ rest) = .ok (value, rest)

section Documents

variable {hook : PairsHook}

theorem stops_mark {mark : Char} (isMark : mark = ',' ∨ mark = ']' ∨ mark = '\x7d')
    (rest : List Char) : stops (mark :: rest) := by
  intro character head
  cases head
  rcases isMark with same | same | same <;> subst same <;> decide

theorem readItems_dumps {items : List Json} (nonempty : items ≠ [])
    (own : ∀ item ∈ items, item.exact = true) (each : ∀ item ∈ items, ReadsBack hook item)
    {fuel : ℕ} (enough : 2 * (dumpItems items).length + 1 ≤ fuel) (rest : List Char) :
    readItems hook fuel (dumpItems items ++ ']' :: rest) = .ok (items, rest) := by
  induction items generalizing fuel with
  | nil => exact absurd rfl nonempty
  | cons item items inductionHypothesis =>
      cases fuel with
      | zero => exact absurd enough (Nat.not_succ_le_zero _)
      | succ fuel =>
          cases items with
          | nil =>
              have read := each item List.mem_cons_self fuel (']' :: rest)
                (by simp only [dumpItems] at enough; omega) (stops_mark (by simp) rest)
              rw [readItems, dumpItems, read]
              rfl
          | cons next items =>
              have length : (dumpItems (item :: next :: items)).length =
                  (dumps item).length + ((dumpItems (next :: items)).length + 1) := by
                rw [dumpItems, List.length_append, List.length_cons]
              have later : readItems hook fuel (dumpItems (next :: items) ++ ']' :: rest) = _ :=
                inductionHypothesis (List.cons_ne_nil _ _)
                  (fun other inside => own other (List.mem_cons_of_mem item inside))
                  (fun other inside => each other (List.mem_cons_of_mem item inside)) (by omega)
              have read := each item List.mem_cons_self fuel
                (',' :: (dumpItems (next :: items) ++ ']' :: rest)) (by omega)
                (stops_mark (by simp) _)
              have start : skip (dumpItems (next :: items) ++ ']' :: rest) =
                  dumpItems (next :: items) ++ ']' :: rest := by
                have inside := own next (List.mem_cons_of_mem item List.mem_cons_self)
                cases items with
                | nil => exact skip_dumps inside _
                | cons => rw [dumpItems, List.append_assoc, skip_dumps inside]
              rw [readItems, dumpItems, List.append_assoc, List.cons_append, read]
              show (readItems hook fuel (skip (dumpItems (next :: items) ++ ']' :: rest))).map _ = _
              rw [start, later]
              rfl

/-- The rest of a member's text after its opening quote. -/
theorem quote_append (key : String) (rest : List Char) :
    quote key ++ rest = '"' :: (key.toList.flatMap escape ++ '"' :: rest) := by
  rw [quote, List.cons_append, List.append_assoc, List.singleton_append]

theorem readMembers_member {fuel : ℕ} {value : Json} (key : String)
    (own : value.exact = true) (reads : ReadsBack hook value)
    (enough : 2 * (dumps value).length ≤ fuel) {rest : List Char} (after : stops rest) :
    readMembers hook (fuel + 1) (quote key ++ ':' :: (dumps value ++ rest)) =
      match skip rest with
      | '\x7d' :: rest => .ok ([(key, value)], rest)
      | ',' :: rest =>
        (readMembers hook fuel (skip rest)).map fun (members, rest) =>
          ((key, value) :: members, rest)
      | _ => .error .malformed := by
  rw [quote_append, readMembers]
  show (readString _ >>= _) = _
  rw [readString_quote]
  show (readValue hook fuel (skip (dumps value ++ rest)) >>= _) = _
  rw [skip_dumps own, reads fuel rest enough after]
  rfl

theorem readMembers_dumps {members : List (String × Json)} (nonempty : members ≠ [])
    (own : ∀ member ∈ members, member.2.exact = true)
    (each : ∀ member ∈ members, ReadsBack hook member.2)
    {fuel : ℕ} (enough : 2 * (dumpMembers members).length + 1 ≤ fuel) (rest : List Char) :
    readMembers hook fuel (dumpMembers members ++ '\x7d' :: rest) = .ok (members, rest) := by
  induction members generalizing fuel with
  | nil => exact absurd rfl nonempty
  | cons member members inductionHypothesis =>
      obtain ⟨key, value⟩ := member
      have isOwn : value.exact = true := own (key, value) List.mem_cons_self
      have reads : ReadsBack hook value := each (key, value) List.mem_cons_self
      cases fuel with
      | zero => exact absurd enough (Nat.not_succ_le_zero _)
      | succ fuel =>
          cases members with
          | nil =>
              have length : (dumpMembers [(key, value)]).length =
                  (quote key).length + ((dumps value).length + 1) := by
                rw [dumpMembers, List.length_append, List.length_cons]
              rw [dumpMembers, List.append_assoc, List.cons_append,
                readMembers_member key isOwn reads (by omega) (stops_mark (by simp) rest)]
              rfl
          | cons next members =>
              obtain ⟨nextKey, nextValue⟩ := next
              have length : (dumpMembers ((key, value) :: (nextKey, nextValue) :: members)).length =
                  (quote key).length + ((dumps value).length +
                    ((dumpMembers ((nextKey, nextValue) :: members)).length + 1) + 1) := by
                rw [dumpMembers, List.length_append, List.length_cons, List.length_append,
                  List.length_cons]
              have later : readMembers hook fuel
                  (dumpMembers ((nextKey, nextValue) :: members) ++ '\x7d' :: rest) = _ :=
                inductionHypothesis (List.cons_ne_nil _ _)
                  (fun other inside => own other (List.mem_cons_of_mem _ inside))
                  (fun other inside => each other (List.mem_cons_of_mem _ inside)) (by omega)
              have start : ∀ rest, skip (dumpMembers ((nextKey, nextValue) :: members) ++ rest) =
                  dumpMembers ((nextKey, nextValue) :: members) ++ rest := by
                intro rest
                cases members <;>
                  simp only [dumpMembers, quote, List.cons_append] <;> exact skip_cons rfl _
              rw [dumpMembers, List.append_assoc, List.cons_append, List.append_assoc,
                List.cons_append, readMembers_member key isOwn reads (by omega)
                  (stops_mark (by simp) _)]
              show (readMembers hook fuel (skip (dumpMembers ((nextKey, nextValue) :: members) ++
                '\x7d' :: rest))).map _ = _
              rw [start, later]
              rfl

theorem readsBack_array {items : List Json} (own : ∀ item ∈ items, item.exact = true)
    (each : ∀ item ∈ items, ReadsBack hook item) : ReadsBack hook (.array items) := by
  intro fuel rest enough _
  have length : (dumps (.array items)).length = (dumpItems items).length + 2 := by
    rw [dumps, List.length_cons, List.length_append, List.length_singleton]
  cases fuel with
  | zero => omega
  | succ fuel =>
      rw [dumps, List.cons_append, List.append_assoc, List.singleton_append]
      cases items with
      | nil => rfl
      | cons item items =>
          have read : readItems hook fuel (dumpItems (item :: items) ++ ']' :: rest) = _ :=
            readItems_dumps (List.cons_ne_nil item items) own each (by omega) rest
          obtain ⟨character, others, text, ink, opened⟩ : ∃ character others,
              dumpItems (item :: items) ++ ']' :: rest = character :: others ∧
                isWhitespace character = false ∧ character ≠ ']' := by
            cases items with
            | nil => exact dumps_start (own item List.mem_cons_self) _
            | cons next items =>
                rw [dumpItems, List.append_assoc]
                exact dumps_start (own item List.mem_cons_self) _
          rw [text] at read ⊢
          rw [readValue, skip_cons ink]
          split
          · rename_i close
            exact absurd (List.cons.inj close).1 opened
          · rw [read]
            rfl

theorem readsBack_object (keeps : Keeps hook) {members : List (String × Json)}
    (distinct : (members.map Prod.fst).Nodup)
    (own : ∀ member ∈ members, member.2.exact = true)
    (each : ∀ member ∈ members, ReadsBack hook member.2) :
    ReadsBack hook (.object members) := by
  intro fuel rest enough _
  have length : (dumps (.object members)).length = (dumpMembers members).length + 2 := by
    rw [dumps, List.length_cons, List.length_append, List.length_singleton]
  cases fuel with
  | zero => omega
  | succ fuel =>
      rw [dumps, List.cons_append, List.append_assoc, List.singleton_append]
      cases members with
      | nil => rfl
      | cons member members =>
          obtain ⟨key, value⟩ := member
          have read :
            readMembers hook fuel (dumpMembers ((key, value) :: members) ++ '\x7d' :: rest) =
              _ := readMembers_dumps (List.cons_ne_nil (key, value) members) own
                each (by omega) rest
          obtain ⟨others, text⟩ : ∃ others, dumpMembers ((key, value) :: members) ++
            '\x7d' :: rest =
              '"' :: others := by
            cases members <;> exact ⟨_, rfl⟩
          have kept : hook ((key, value) :: members) = .ok ((key, value) :: members) :=
            keeps _ distinct
          rw [text] at read ⊢
          rw [readValue, skip_cons rfl]
          show (readMembers hook fuel ('"' :: others) >>= _) = _
          rw [read]
          show (hook ((key, value) :: members) >>= _) = _
          rw [kept]
          rfl

/-- A document without real numbers is read back. -/
theorem readsBack_of_tidy (keeps : Keeps hook) (value : Json) (own : value.exact = true)
    (tidied : value.tidy = true) :
    ReadsBack hook value := by
  match value, own, tidied with
  | .null, _, _ | .bool true, _, _ | .bool false, _, _ =>
      intro fuel rest enough _
      cases fuel with
      | zero => simp [dumps] at enough
      | succ fuel => rfl
  | .number value, own, tidied =>
      intro fuel rest enough after
      have short : (Nat.toDigits 10 value.natAbs).length ≤ maxDigits := of_decide_eq_true tidied
      have nonempty := dumps_nonempty own
      have read := readScalar_number short after
      cases fuel with
      | zero => omega
      | succ fuel =>
          have unmarked : ∀ mark others, inNumber mark = false →
              dumps (.number value) ++ rest ≠ mark :: others := by
            intro mark others foreign same
            cases text : dumps (.number value) with
            | nil => simp [text] at nonempty
            | cons character digits =>
                rw [text] at same
                have inside := number_run value character
                  (by rw [dumps] at text; rw [text]; exact List.mem_cons_self)
                rw [(List.cons.inj same).1, foreign] at inside
                exact Bool.noConfusion inside
          rw [readValue, read]
          · exact fun others => unmarked _ others rfl
          · exact fun others => unmarked _ others rfl
          · exact fun others => unmarked _ others rfl
  | .real text, own, _ => exact absurd own (by simp [exact])
  | .string value, _, _ =>
      intro fuel rest enough _
      cases fuel with
      | zero => simp [dumps, quote] at enough
      | succ fuel =>
          rw [dumps, quote_append, readValue]
          show (readString _).map _ = _
          rw [readString_quote]
          rfl
  | .array items, own, tidied =>
      have owns : ∀ item ∈ items, item.exact = true := by simpa [exact, exactItems_eq] using own
      have tidies : ∀ item ∈ items, item.tidy = true := by
        simpa [tidy, tidyItems_eq] using tidied
      exact readsBack_array owns fun item inside =>
        readsBack_of_tidy keeps item (owns item inside) (tidies item inside)
  | .object members, own, tidied =>
      have owns : ∀ member ∈ members, member.2.exact = true := by
        simpa [exact, exactMembers_eq] using own
      obtain ⟨distinct, tidies⟩ : (members.map Prod.fst).Nodup ∧
          ∀ member ∈ members, member.2.tidy = true := by
        simpa [tidy, tidyMembers_eq] using tidied
      exact readsBack_object keeps distinct owns fun member inside =>
        readsBack_of_tidy keeps member.2 (owns member inside) (tidies member inside)
termination_by sizeOf value
decreasing_by
  · have smaller := List.sizeOf_lt_of_mem inside
    simp only [Json.array.sizeOf_spec]
    omega
  · have smaller := List.sizeOf_lt_of_mem inside
    have part : sizeOf member.2 < sizeOf member := by
      cases member
      simp
    simp only [Json.object.sizeOf_spec]
    omega

/-- `json.loads` of a written document, with white space behind it. -/
theorem loads_dumps (keeps : Keeps hook) {value : Json} (own : value.exact = true)
    (tidied : value.tidy = true)
    {blank : List Char} (white : blank.all isWhitespace = true) :
    loads hook (dumps value ++ blank) = .ok value := by
  have after : stops blank := by
    intro character head
    have inside := List.all_eq_true.mp white character (List.mem_of_mem_head? head)
    simp only [isWhitespace, Bool.or_eq_true, beq_iff_eq] at inside
    rcases inside with ((same | same) | same) | same <;> subst same <;> decide
  have read :=
    readsBack_of_tidy keeps value own tidied (2 * (dumps value ++ blank).length + 1) blank
    (by rw [List.length_append]; omega) after
  have ended : skip blank = [] := List.dropWhile_eq_nil_iff.mpr (List.all_eq_true.mp white)
  unfold loads
  rw [skip_dumps own, read]
  show (if skip blank = [] then pure value else .error .malformed : Except LoadError Json) = _
  rw [if_pos ended]
  rfl

end Documents

/-! ## The text is ASCII -/

def isAscii (character : Char) : Bool := character.toNat < 128

/-- `[ -~]`. -/
def isPrintable (character : Char) : Bool := 0x20 ≤ character.toNat && character.toNat ≤ 0x7E

theorem isAscii_of_isPrintable {character : Char} (printable : isPrintable character = true) :
    isAscii character = true := by
  rw [isPrintable, Bool.and_eq_true, decide_eq_true_eq, decide_eq_true_eq] at printable
  apply decide_eq_true
  omega

theorem isPrintable_hexUnit (unit : ℕ) : (hexUnit unit).all isPrintable = true := by
  have plain : ∀ digit < 16, isPrintable (Nat.digitChar digit) = true := by decide
  apply List.all_eq_true.mpr
  intro character member
  rw [hexUnit_eq] at member
  have ⟨digit, below, same⟩ := mem_hexText member
  rw [← same]
  exact plain digit below

theorem isPrintable_escapeUnit (unit : ℕ) : (escapeUnit unit).all isPrintable = true := by
  rw [escapeUnit, List.all_cons, List.all_cons, isPrintable_hexUnit]
  rfl

theorem isPrintable_escape (character : Char) : (escape character).all isPrintable = true := by
  unfold escape
  dsimp only
  split_ifs with quote backslash newline carriage tab feed back printable basic
  · rfl
  · rfl
  · rfl
  · rfl
  · rfl
  · rfl
  · rfl
  · have ⟨low, high⟩ := printable
    simp [isPrintable, low, high]
  · exact isPrintable_escapeUnit _
  · rw [List.all_append, isPrintable_escapeUnit, isPrintable_escapeUnit]
    rfl

theorem isPrintable_quote (value : String) : (quote value).all isPrintable = true := by
  have codes : (value.toList.flatMap escape).all isPrintable = true := by
    apply List.all_eq_true.mpr
    intro character member
    have ⟨original, _, inside⟩ := List.mem_flatMap.mp member
    exact List.all_eq_true.mp (isPrintable_escape original) character inside
  rw [quote, List.all_cons, List.all_append, codes]
  rfl

theorem isPrintable_number (value : ℤ) : (toString value).toList.all isPrintable = true := by
  apply List.all_eq_true.mpr
  intro character member
  have inside := number_run value character member
  simp only [inNumber, Char.isDigit, Bool.or_eq_true, Bool.and_eq_true, decide_eq_true_eq,
    beq_iff_eq] at inside
  rw [isPrintable, Bool.and_eq_true, decide_eq_true_eq, decide_eq_true_eq]
  cases inside with
  | inl digit =>
      have high : 48 ≤ character.toNat := digit.1
      have low : character.toNat ≤ 57 := digit.2
      omega
  | inr minus =>
      rw [minus]
      decide

theorem isPrintable_dumpItems {items : List Json}
    (each : ∀ item ∈ items, (dumps item).all isPrintable = true) :
    (dumpItems items).all isPrintable = true := by
  induction items with
  | nil => rfl
  | cons item items inductionHypothesis =>
      have first := each item List.mem_cons_self
      have rest := inductionHypothesis fun other inside =>
        each other (List.mem_cons_of_mem _ inside)
      cases items with
      | nil => exact first
      | cons next items =>
          rw [dumpItems, List.all_append, List.all_cons, first, rest]
          rfl

theorem isPrintable_dumpMembers {members : List (String × Json)}
    (each : ∀ member ∈ members, (dumps member.2).all isPrintable = true) :
    (dumpMembers members).all isPrintable = true := by
  induction members with
  | nil => rfl
  | cons member members inductionHypothesis =>
      have first : (dumps member.2).all isPrintable = true := each member List.mem_cons_self
      have rest := inductionHypothesis fun other inside =>
        each other (List.mem_cons_of_mem _ inside)
      cases members with
      | nil =>
          rw [dumpMembers, List.all_append, List.all_cons, isPrintable_quote, first]
          rfl
      | cons next members =>
          rw [dumpMembers, List.all_append, List.all_cons, List.all_append, List.all_cons,
            isPrintable_quote, first, rest]
          rfl

/-- What `json.dumps` writes is printable ASCII. -/
theorem isPrintable_dumps (value : Json) (own : value.exact = true) :
    (dumps value).all isPrintable = true := by
  match value, own with
  | .null, _ | .bool true, _ | .bool false, _ => rfl
  | .number value, _ => exact isPrintable_number value
  | .string value, _ => exact isPrintable_quote value
  | .array items, own =>
      have owns : ∀ item ∈ items, item.exact = true := by simpa [exact, exactItems_eq] using own
      rw [dumps, List.all_cons, List.all_append,
        isPrintable_dumpItems fun item inside => isPrintable_dumps item (owns item inside)]
      rfl
  | .object members, own =>
      have owns : ∀ member ∈ members, member.2.exact = true := by
        simpa [exact, exactMembers_eq] using own
      rw [dumps, List.all_cons, List.all_append,
        isPrintable_dumpMembers fun member inside =>
          isPrintable_dumps member.2 (owns member inside)]
      rfl
termination_by sizeOf value
decreasing_by
  · have smaller := List.sizeOf_lt_of_mem inside
    simp only [Json.array.sizeOf_spec]
    omega
  · have smaller := List.sizeOf_lt_of_mem inside
    have part : sizeOf member.2 < sizeOf member := by
      cases member
      simp
    simp only [Json.object.sizeOf_spec]
    omega

theorem isAscii_dumps (value : Json) (own : value.exact = true) :
    (dumps value).all isAscii = true := by
  apply List.all_eq_true.mpr
  intro character member
  exact isAscii_of_isPrintable (List.all_eq_true.mp (isPrintable_dumps value own) character member)

/-- A text takes at most twelve characters for each of its own, and the quotes. -/
theorem quote_length_le (value : String) : (quote value).length ≤ 12 * value.length + 2 := by
  have codes : ∀ characters : List Char,
      (characters.flatMap escape).length ≤ 12 * characters.length := by
    intro characters
    induction characters with
    | nil => exact Nat.le_refl 0
    | cons character characters inductionHypothesis =>
        have one := (escape_length character).2
        rw [List.flatMap_cons, List.length_append, List.length_cons]
        omega
  have whole := codes value.toList
  rw [String.length_toList] at whole
  rw [quote, List.length_cons, List.length_append, List.length_singleton]
  omega

theorem dumpMembers_length_le {members : List (String × Json)} {key : ℕ}
    (keys : ∀ member ∈ members, (quote member.1).length ≤ key) :
    (dumpMembers members).length ≤
      (members.map fun member => (dumps member.2).length).sum + members.length * (key + 2) := by
  induction members with
  | nil => exact Nat.zero_le _
  | cons member members inductionHypothesis =>
      have own := keys member List.mem_cons_self
      have rest := inductionHypothesis fun other inside =>
        keys other (List.mem_cons_of_mem _ inside)
      rw [List.map_cons, List.sum_cons, List.length_cons, Nat.succ_mul]
      cases members with
      | nil =>
          rw [dumpMembers, List.length_append, List.length_cons]
          omega
      | cons next members =>
          rw [dumpMembers, List.length_append, List.length_cons,
            List.length_append, List.length_cons]
          omega

/-- An object takes what its values take, and a bounded text for each key. -/
theorem dumps_object_length_le {members : List (String × Json)} (count key values : ℕ)
    (counted : members.length = count)
    (keys : ∀ member ∈ members, (quote member.1).length ≤ key)
    (each : (members.map fun member => (dumps member.2).length).sum ≤ values) :
    (dumps (.object members)).length ≤ values + count * (key + 2) + 2 := by
  have inside := dumpMembers_length_le keys
  rw [counted] at inside
  rw [dumps, List.length_cons, List.length_append, List.length_singleton]
  omega

theorem dumps_string_length_le {value : String} {bound : ℕ} (short : value.length ≤ bound) :
    (dumps (.string value)).length ≤ 12 * bound + 2 := by
  have written := quote_length_le value
  rw [dumps]
  omega

theorem dumps_number_length_le (value : ℕ) (bounded : value ≤ 65535) :
    (dumps (.number value)).length ≤ 5 := by
  have digits := (Nat.length_toDigits_le_iff (by decide : 1 < 10) (by decide : 0 < 5)).mpr
    (show value < 10 ^ 5 by omega)
  rw [dumps, number_text, if_pos (Int.natCast_nonneg value)]
  exact digits

/-- In UTF-8, ASCII takes one byte for each character. -/
theorem utf8Size_ascii {text : List Char} (ascii : text.all isAscii = true) :
    (text.map Char.utf8Size).sum = text.length := by
  induction text with
  | nil => rfl
  | cons character text inductionHypothesis =>
      rw [List.all_cons, Bool.and_eq_true] at ascii
      have below : character.toNat < 128 := of_decide_eq_true ascii.1
      have one : character.utf8Size = 1 := by
        apply Char.utf8Size_eq_one_iff.mpr
        exact Nat.le_of_lt_succ below
      rw [List.map_cons, List.sum_cons, inductionHypothesis ascii.2, one, List.length_cons,
        Nat.add_comm]

theorem encodeUtf8_eq (text : List Char) : encodeUtf8 text = text.utf8Encode.data.toList := by
  rw [encodeUtf8, String.toUTF8_eq_toByteArray, String.toByteArray_ofList]

theorem encodeUtf8_ascii {text : List Char} (ascii : text.all isAscii = true) :
    encodeUtf8 text = text.map fun character => UInt8.ofNat character.toNat := by
  induction text with
  | nil => rfl
  | cons character text inductionHypothesis =>
      rw [List.all_cons, Bool.and_eq_true] at ascii
      have below : character.toNat < 128 := of_decide_eq_true ascii.1
      have one : character.utf8Size = 1 := by
        apply Char.utf8Size_eq_one_iff.mpr
        exact Nat.le_of_lt_succ below
      have rest := inductionHypothesis ascii.2
      rw [encodeUtf8_eq] at rest ⊢
      rw [List.utf8Encode_cons, List.utf8Encode_singleton, String.utf8EncodeChar_eq_singleton one,
        ByteArray.data_append, Array.toList_append, rest]
      rfl

theorem decodeUtf8_encodeUtf8 (text : List Char) : decodeUtf8 (encodeUtf8 text) = some text := by
  have whole : (⟨(encodeUtf8 text).toArray⟩ : ByteArray) = text.utf8Encode := by
    rw [encodeUtf8_eq, Array.toArray_toList]
  rw [decodeUtf8, whole, List.utf8Decode?_utf8Encode]
  rfl

/-- Printable ASCII is taken for UTF-8. -/
theorem detectEncoding_printable {text : List Char} (printable : text.all isPrintable = true) :
    detectEncoding (encodeUtf8 text) = .utf8 := by
  have ascii : text.all isAscii = true := List.all_eq_true.mpr fun character member =>
    isAscii_of_isPrintable (List.all_eq_true.mp printable character member)
  -- No byte is zero, and none belongs to a signature.
  have bytes : ∀ byte ∈ encodeUtf8 text, byte ≠ 0x00 ∧ byte ≠ 0xFE ∧
      byte ≠ 0xFF ∧ byte ≠ 0xEF := by
    rw [encodeUtf8_ascii ascii]
    intro byte member
    have ⟨character, inside, same⟩ := List.mem_map.mp member
    have bounds := List.all_eq_true.mp printable character inside
    rw [isPrintable, Bool.and_eq_true, decide_eq_true_eq, decide_eq_true_eq] at bounds
    have value : byte.toNat = character.toNat := by
      rw [← same, UInt8.toNat_ofNat']
      exact Nat.mod_eq_of_lt (by omega)
    have differs : ∀ other : UInt8, other.toNat < 0x20 ∨ 0x7E < other.toNat →
        byte ≠ other := by
      intro other outside same
      rw [← same] at outside
      omega
    exact ⟨differs _ (by decide), differs _ (by decide), differs _ (by decide),
      differs _ (by decide)⟩
  unfold detectEncoding
  cases listed : encodeUtf8 text with
  | nil => rfl
  | cons first rest =>
      have ⟨zero, big, little, signature⟩ := bytes first (listed ▸ List.mem_cons_self)
      cases rest with
      | nil => simp [List.isPrefixOf]
      | cons second rest =>
          have secondZero :=
            (bytes second (listed ▸ List.mem_cons_of_mem _ List.mem_cons_self)).1
          rcases rest with _ | ⟨third, _ | ⟨fourth, rest⟩⟩ <;>
            simp [List.isPrefixOf, zero, big.symm, little.symm, signature.symm,
              zero.symm, secondZero]

theorem decode_printable {text : List Char} (printable : text.all isPrintable = true) :
    decode (encodeUtf8 text) (detectEncoding (encodeUtf8 text)) = some text := by
  rw [detectEncoding_printable printable, decode, decodeUtf8_encodeUtf8]

/-- `json.loads` of the bytes of a written document. -/
theorem loadsBytes_dumps {hook : PairsHook} (keeps : Keeps hook) {value : Json}
    (own : value.exact = true) (tidied : value.tidy = true) :
    loadsBytes hook (encodeUtf8 (dumps value)) = .ok value := by
  have read : loads hook (dumps value ++ []) = .ok value := loads_dumps keeps own tidied rfl
  rw [List.append_nil] at read
  rw [loadsBytes, decode_printable (isPrintable_dumps value own)]
  exact read

theorem loadsPython_dumps {float : List Char → PythonFloat} {value : Json}
    (own : value.exact = true) (tidied : value.tidy = true) :
    loadsPython float (encodeUtf8 (dumps value)) = .ok (value.toPython float) := by
  have read : loads lastValues (dumps value ++ []) = .ok value :=
    loads_dumps keeps_lastValues own tidied rfl
  rw [List.append_nil] at read
  rw [loadsPython, decode_printable (isPrintable_dumps value own)]
  simp only [read]

/-- An integer with too many digits is refused. -/
theorem loads_ones {hook : PairsHook} {count : ℕ} (long : maxDigits < count) :
    loads hook (List.replicate count '1') = .error .digits := by
  obtain ⟨rest, rfl⟩ : ∃ rest, count = rest + 1 := ⟨count - 1, by omega⟩
  have taken : (List.replicate (rest + 1) '1').takeWhile Char.isDigit =
      List.replicate (rest + 1) '1' :=
    List.takeWhile_eq_self_iff.mpr fun character member => by
      rw [List.eq_of_mem_replicate member]
      rfl
  have dropped : (List.replicate (rest + 1) '1').dropWhile Char.isDigit = [] :=
    List.dropWhile_eq_nil_iff.mpr fun character member => by
      rw [List.eq_of_mem_replicate member]
      rfl
  have digits : readDigits (List.replicate (rest + 1) '1') =
      some (List.replicate (rest + 1) '1', []) := by
    rw [List.replicate_succ] at taken dropped ⊢
    unfold readDigits
    split
    · next zero => exact absurd (List.cons.inj zero).1 (by decide)
    · rw [taken, dropped, if_neg (List.cons_ne_nil _ _)]
  have unsigned : readUnsigned false (List.replicate (rest + 1) '1') = .error .digits := by
    simp [readUnsigned, digits, readFraction, readExponent, long]
  have scalar : readScalar (List.replicate (rest + 1) '1') = .error .digits := by
    unfold readScalar
    rw [List.replicate_succ, (literals_digit rfl _).1, ← List.replicate_succ]
    exact unsigned
  rw [loads, List.replicate_succ, skip_cons rfl, readValue, ← List.replicate_succ, scalar]
  · rfl
  all_goals exact fun _ equal => nomatch equal

end RetroBrowser.Foundation.Json
