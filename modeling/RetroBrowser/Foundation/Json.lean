import Mathlib.Data.List.Sort
import Mathlib.Data.String.Basic

/-!
Owns JSON documents and their text as `json.dumps` writes it with
`separators=(",", ":")`: no white space, and every character outside printable
ASCII escaped. Real numbers keep their text.
-/

namespace RetroBrowser.Foundation

inductive Json where
  | null
  | bool (value : Bool)
  | number (value : Int)
  | real (text : List Char)
  | string (value : String)
  | array (items : List Json)
  | object (members : List (String × Json))
deriving Repr

namespace Json

/-- Four hexadecimal digits of a code unit. -/
def hexUnit (unit : Nat) : List Char :=
  [unit / 4096 % 16, unit / 256 % 16, unit / 16 % 16, unit % 16].map Nat.digitChar

def escapeUnit (unit : Nat) : List Char := '\\' :: 'u' :: hexUnit unit

/-- One character of a text; beyond the basic plane two code units stand for it. -/
def escape (character : Char) : List Char :=
  let point := character.toNat
  if character = '"' then ['\\', '"']
  else if character = '\\' then ['\\', '\\']
  else if character = '\n' then ['\\', 'n']
  else if character = '\r' then ['\\', 'r']
  else if character = '\t' then ['\\', 't']
  else if point = 0x0C then ['\\', 'f']
  else if point = 0x08 then ['\\', 'b']
  else if 0x20 ≤ point ∧ point ≤ 0x7E then [character]
  else if point < 0x10000 then escapeUnit point
  else
    escapeUnit (0xD800 + (point - 0x10000) / 0x400) ++
      escapeUnit (0xDC00 + (point - 0x10000) % 0x400)

def quote (value : String) : List Char :=
  '"' :: (value.toList.flatMap escape ++ ['"'])

mutual

/-- `json.dumps(value, separators=(",", ":"))`. -/
def dumps : Json → List Char
  | .null => "null".toList
  | .bool true => "true".toList
  | .bool false => "false".toList
  | .number value => (toString value).toList
  | .real text => text
  | .string value => quote value
  | .array items => '[' :: (dumpItems items ++ [']'])
  | .object members => '\x7b' :: (dumpMembers members ++ ['\x7d'])

/-- Items with commas between them. -/
def dumpItems : List Json → List Char
  | [] => []
  | [item] => dumps item
  | item :: next :: rest => dumps item ++ ',' :: dumpItems (next :: rest)

def dumpMembers : List (String × Json) → List Char
  | [] => []
  | [(key, value)] => quote key ++ ':' :: dumps value
  | (key, value) :: next :: rest =>
    quote key ++ ':' :: (dumps value ++ ',' :: dumpMembers (next :: rest))

end

mutual

/-- `sort_keys=True`: the members of every object by key. -/
def sortKeys : Json → Json
  | .null => .null
  | .bool value => .bool value
  | .number value => .number value
  | .real text => .real text
  | .string value => .string value
  | .array items => .array (sortItems items)
  | .object members =>
    .object ((sortMembers members).insertionSort fun left right => left.1 ≤ right.1)

def sortItems : List Json → List Json
  | [] => []
  | item :: rest => sortKeys item :: sortItems rest

def sortMembers : List (String × Json) → List (String × Json)
  | [] => []
  | (key, value) :: rest => (key, sortKeys value) :: sortMembers rest

end

/-- `json.dumps(value, sort_keys=True, separators=(",", ":"))`. -/
def dumpsSorted (value : Json) : List Char := dumps (sortKeys value)

end Json

end RetroBrowser.Foundation
