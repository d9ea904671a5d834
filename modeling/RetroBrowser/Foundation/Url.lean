import Mathlib
import RetroBrowser.Foundation.PythonText

/-!
Owns what Python's standard library does with the text of a request: Latin-1, the
comparison of secrets, decoding percent signs and UTF-8 with replacements, reading
the fields of a query, and splitting a URL into its parts.

Contract: targets are bytes read as Latin-1. None of those characters has a
compatibility form with a delimiter of URLs, so `_checknetloc` never raises here.
-/

namespace RetroBrowser.Foundation.Url

abbrev Text := List Char

/-- `bytes.decode("latin-1")`. -/
def latin1 (bytes : List UInt8) : Text := bytes.map fun byte => Char.ofNat byte.toNat

/-- `text.isascii()`. -/
def isAscii (text : Text) : Bool := text.all fun character => character.toNat < 128

/-- `text.lower()` of Latin-1 characters, one by one. -/
def lowerLatin1 (character : Char) : Char :=
  let point := character.toNat
  if (0x41 ≤ point ∧ point ≤ 0x5A) ∨
      (0xC0 ≤ point ∧ point ≤ 0xDE ∧ point ≠ 0xD7) then
    Char.ofNat (point + 0x20)
  else character

/-- `compare_digest` of two texts; the error is the text of its `TypeError`. -/
def compareDigest (left right : Text) : Except String Bool :=
  if isAscii left ∧ isAscii right then .ok (left == right)
  else .error "comparing strings with non-ASCII characters is not supported"

/-! ## UTF-8 with replacements -/

/-- `U+FFFD`. -/
def replacement : Char := '\uFFFD'

/-- A started character: what was read, how many bytes it lacks, and the bounds of
the next one. -/
structure Pending where
  value : ℕ
  owed : ℕ
  low : ℕ
  high : ℕ

/-- The first byte of a character. -/
def startByte (byte : ℕ) : Text × Option Pending :=
  if byte < 0x80 then ([Char.ofNat byte], none)
  else if 0xC2 ≤ byte ∧ byte ≤ 0xDF then ([], some ⟨byte - 0xC0, 1, 0x80, 0xBF⟩)
  else if byte = 0xE0 then ([], some ⟨0, 2, 0xA0, 0xBF⟩)
  else if byte = 0xED then ([], some ⟨0xD, 2, 0x80, 0x9F⟩)
  else if 0xE1 ≤ byte ∧ byte ≤ 0xEF then ([], some ⟨byte - 0xE0, 2, 0x80, 0xBF⟩)
  else if byte = 0xF0 then ([], some ⟨0, 3, 0x90, 0xBF⟩)
  else if 0xF1 ≤ byte ∧ byte ≤ 0xF3 then ([], some ⟨byte - 0xF0, 3, 0x80, 0xBF⟩)
  else if byte = 0xF4 then ([], some ⟨4, 3, 0x80, 0x8F⟩)
  else ([replacement], none)

/-- `bytes.decode("utf-8", "replace")`: each longest start of a character that is
not continued becomes one replacement. -/
def decodeUtf8 : Option Pending → List ℕ → Text
  | none, [] => []
  | some _, [] => [replacement]
  | none, byte :: rest =>
    let (read, pending) := startByte byte
    read ++ decodeUtf8 pending rest
  | some pending, byte :: rest =>
    if pending.low ≤ byte ∧ byte ≤ pending.high then
      let value := pending.value * 64 + (byte - 0x80)
      if pending.owed = 1 then Char.ofNat value :: decodeUtf8 none rest
      else decodeUtf8 (some ⟨value, pending.owed - 1, 0x80, 0xBF⟩) rest
    else
      let (read, next) := startByte byte
      replacement :: read ++ decodeUtf8 next rest

/-! ## Percent signs -/

/-- The value of an ASCII hexadecimal digit. -/
def hexByte (character : Char) : Option ℕ :=
  let point := character.toNat
  if 0x30 ≤ point ∧ point ≤ 0x39 then some (point - 0x30)
  else if 0x61 ≤ point ∧ point ≤ 0x66 then some (point - 0x61 + 10)
  else if 0x41 ≤ point ∧ point ≤ 0x46 then some (point - 0x41 + 10)
  else none

/-- `unquote_to_bytes` of an ASCII text. -/
def unquoteToBytes : Text → List ℕ
  | '%' :: first :: second :: rest =>
    match hexByte first, hexByte second with
    | some high, some low => (high * 16 + low) :: unquoteToBytes rest
    | _, _ => '%'.toNat :: unquoteToBytes (first :: second :: rest)
  | character :: rest => character.toNat :: unquoteToBytes rest
  | [] => []

/-- Runs of ASCII characters are unquoted, and other characters stay; `run` is the
run so far. -/
def unquoteRuns (run : Text) : Text → Text
  | [] => decodeUtf8 none (unquoteToBytes run)
  | character :: rest =>
    if character.toNat < 128 then unquoteRuns (run ++ [character]) rest
    else decodeUtf8 none (unquoteToBytes run) ++ character :: unquoteRuns [] rest

/-- `unquote`. -/
def unquote (text : Text) : Text := if '%' ∈ text then unquoteRuns [] text else text

/-- `unquote_plus`. -/
def unquotePlus (text : Text) : Text :=
  unquote (text.map fun character => if character = '+' then ' ' else character)

/-! ## Queries -/

/-- `text.partition(separator)`: the text before the first separator, and what
follows it. -/
def partition (separator : Char) (text : Text) : Text × Option Text :=
  match text.dropWhile (· ≠ separator) with
  | [] => (text, none)
  | _ :: rest => (text.takeWhile (· ≠ separator), some rest)

/-- `parse_qsl(query, keep_blank_values=True)`. -/
def parseQsl (query : Text) : List (Text × Text) :=
  ((query.splitOn '&').filter fun field => field ≠ []).map fun field =>
    let (name, value) := partition '=' field
    (unquotePlus name, unquotePlus (value.getD []))

/-- `values[name].append(value)`. -/
def appendValue (values : List (Text × List Text)) (name value : Text) :
    List (Text × List Text) :=
  match values with
  | [] => [(name, [value])]
  | (key, held) :: rest =>
    if key = name then (key, held ++ [value]) :: rest
      else (key, held) :: appendValue rest name value

/-- `parse_qs(query, keep_blank_values=True)`. -/
def parseQs (query : Text) : List (Text × List Text) :=
  (parseQsl query).foldl (fun values field => appendValue values field.1 field.2) []

/-- `values.get(name, [])`. -/
def getValues (values : List (Text × List Text)) (name : Text) : List Text :=
  (values.lookup name).getD []

/-! ## Addresses in brackets -/

/-- `IPv4Address._parse_octet` accepts the text. -/
def isOctet (text : Text) : Bool :=
  !text.isEmpty && text.all Char.isDigit && text.length ≤ 3 &&
    (text == ['0'] || text.head? != some '0') &&
    text.foldl (fun value digit => value * 10 + (digit.toNat - '0'.toNat)) 0 ≤ 255

/-- `IPv4Address` accepts the text. -/
def isIpv4 (text : Text) : Bool :=
  let octets := text.splitOn '.'
  octets.length == 4 && octets.all isOctet

/-- `IPv6Address._parse_hextet` accepts the text. -/
def isHextet (text : Text) : Bool :=
  !text.isEmpty && text.all (fun character => (hexByte character).isSome) && text.length ≤ 4

/-- `IPv6Address._ip_int_from_string` accepts the parts between colons. -/
def isIpv6Parts (parts : List Text) : Bool :=
  let count := parts.length
  let inner := (parts.drop 1).dropLast
  let first := parts.headD []
  let last := parts.getLastD []
  if count > 9 then false
  else
    match inner.findIdx? List.isEmpty with
    | none => count == 8 && parts.all isHextet
    | some position =>
      let skip := position + 1
      let high := if first.isEmpty then skip - 1 else skip
      let low := if last.isEmpty then count - skip - 2 else count - skip - 1
      (inner.drop skip).all (fun part => !part.isEmpty) &&
        (!first.isEmpty || high == 0) && (!last.isEmpty || low == 0) && high + low < 8 &&
        (parts.take high).all isHextet && (parts.drop (count - low)).all isHextet

/-- `IPv6Address` accepts the text. -/
def isIpv6 (text : Text) : Bool :=
  let (address, scope) := partition '%' text
  let parts := address.splitOn ':'
  let last := parts.getLastD []
  let zoned := match scope with
    | none => true
    | some zone => !zone.isEmpty && !zone.contains '%'
  zoned && !text.contains '/' && parts.length ≥ 3 &&
    if last.contains '.' then isIpv4 last && isIpv6Parts (parts.dropLast ++ [['0'], ['0']])
    else isIpv6Parts parts

/-- `_check_bracketed_host` accepts the text: a future address, or one of IPv6. -/
def isBracketedHost (host : Text) : Bool :=
  match host with
  | 'v' :: rest =>
    let (version, address) := partition '.' rest
    !version.isEmpty && version.all (fun character => (hexByte character).isSome) &&
      address.any fun text => !text.isEmpty
  | _ => isIpv6 host

/-- What follows the last separator: `text.rpartition(separator)[2]`. -/
def afterLast (separator : Char) (text : Text) : Text :=
  (text.reverse.takeWhile (· ≠ separator)).reverse

/-- The network location is accepted: brackets come in pairs around such a host, with
nothing before and only a port after. -/
def isNetloc (netloc : Text) : Bool :=
  if '[' ∉ netloc ∧ ']' ∉ netloc then true
  else if '[' ∉ netloc ∨ ']' ∉ netloc then false
  else
    match partition '[' (afterLast '@' netloc) with
    | (before, some bracketed) =>
      let (host, port) := partition ']' bracketed
      before.isEmpty && (port.getD []).head?.all (· == ':') && isBracketedHost host
    | (_, none) => isBracketedHost (partition ':' (afterLast '@' netloc)).1

/-! ## Splitting -/

structure SplitResult where
  scheme : Text
  netloc : Text
  path : Text
  query : Text
  fragment : Text
deriving DecidableEq, Repr

/-- A scheme: an ASCII letter, then letters, digits, `+`, `-` and `.`. -/
def isScheme (text : Text) : Bool :=
  text.head?.any Char.isAlpha &&
    text.all fun character => character.isAlphanum || "+-.".toList.contains character

/-- `urlsplit`; no value stands for its `ValueError`. -/
def urlsplit (url : Text) : Option SplitResult :=
  let stripped := url.dropWhile fun character => character.toNat ≤ 0x20
  let plain := stripped.filter fun character => !(['\t', '\r', '\n'].contains character)
  let (scheme, rest) := match partition ':' plain with
    | (before, some after) => if isScheme before then (before.map Char.toLower, after)
        else ([], plain)
    | (_, none) => ([], plain)
  let (netloc, beyond) := match rest with
    | '/' :: '/' :: located =>
      located.span fun character => !(['/', '?', '#'].contains character)
    | _ => ([], rest)
  if isNetloc netloc then
    let (whole, fragment) := partition '#' beyond
    let (path, query) := partition '?' whole
    some ⟨scheme, netloc, path, query.getD [], fragment.getD []⟩
  else none

/-! ## Rules -/

theorem partition_append {separator : Char} {before : Text} (absent : separator ∉ before)
    (after : Text) : partition separator (before ++ separator :: after) = (before, some after) := by
  have passes : ∀ character ∈ before, decide (character ≠ separator) = true := by
    intro character member
    exact decide_eq_true fun same => absent (same ▸ member)
  unfold partition
  rw [List.dropWhile_append_of_pos passes, List.takeWhile_append_of_pos passes]
  simp

theorem partition_some {separator : Char} {text before after : Text} :
    partition separator text = (before, some after) ↔
      separator ∉ before ∧ text = before ++ separator :: after := by
  constructor
  · intro parted
    by_cases member : separator ∈ text
    · have ⟨front, back, equal, absent⟩ := List.eq_append_cons_of_mem member
      rw [equal, partition_append absent] at parted
      have ⟨same, same'⟩ := Prod.mk.inj parted
      rw [← same, ← Option.some.inj same']
      exact ⟨absent, equal⟩
    · have nothing : text.dropWhile (fun character => decide (character ≠ separator)) = [] := by
        refine List.dropWhile_eq_nil_iff.mpr fun character inside => ?_
        exact decide_eq_true fun same => member (same ▸ inside)
      unfold partition at parted
      rw [nothing] at parted
      simp at parted
  · intro ⟨absent, equal⟩
    rw [equal]
    exact partition_append absent after

/-- The values of a name are those of its fields, in order. -/
theorem getValues_appendValue (values : List (Text × List Text)) (name value other : Text) :
    getValues (appendValue values name value) other =
      getValues values other ++ if name = other then [value] else [] := by
  induction values with
  | nil =>
      by_cases same : name = other
      · subst same
        simp [appendValue, getValues]
      · have differs : (other == name) = false := by simpa using Ne.symm same
        simp [appendValue, getValues, List.lookup, differs, same]
  | cons field rest inductionHypothesis =>
      obtain ⟨key, held⟩ := field
      unfold appendValue
      unfold getValues at inductionHypothesis ⊢
      split
      · next same =>
        subst same
        by_cases found : key = other
        · subst found
          simp [List.lookup]
        · have differs : (other == key) = false := by simpa using Ne.symm found
          simp [List.lookup, differs, found]
      · next other' =>
        by_cases found : other = key
        · subst found
          have differs : ¬name = other := Ne.symm other'
          simp [List.lookup, differs]
        · have differs : (other == key) = false := by simpa using found
          simp only [List.lookup, differs]
          exact inductionHypothesis

/-- The values of a name in a query. -/
def valuesOf (query name : Text) : List Text :=
  (parseQsl query).filterMap fun field => if field.1 = name then some field.2 else none

theorem getValues_parseQs (query name : Text) :
    getValues (parseQs query) name = valuesOf query name := by
  have each : ∀ (fields : List (Text × Text)) (values : List (Text × List Text)),
      getValues (fields.foldl (fun values field => appendValue values field.1 field.2) values)
        name =
        getValues values name ++
          fields.filterMap fun field => if field.1 = name then some field.2 else none := by
    intro fields
    induction fields with
    | nil => simp
    | cons field rest inductionHypothesis =>
        intro values
        rw [List.foldl_cons, inductionHypothesis, getValues_appendValue, List.filterMap_cons]
        split <;> simp_all
  exact each (parseQsl query) []

end RetroBrowser.Foundation.Url
