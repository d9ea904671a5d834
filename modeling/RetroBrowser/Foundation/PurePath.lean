import Mathlib.Data.List.Basic

/-!
Owns paths as Python's standard library treats them: joining and parsing of
POSIX and Windows path texts, the suffix of a name, and resolved paths, which
are absolute and consist of proper names.
-/

namespace RetroBrowser.Foundation.PurePath

abbrev Text := List Char

/-- A name between separators: not empty, not `.`, and without a separator. -/
def Proper (separator : Char) (name : Text) : Prop :=
  name ≠ [] ∧ name ≠ ['.'] ∧ separator ∉ name

instance (separator : Char) (name : Text) : Decidable (Proper separator name) :=
  inferInstanceAs (Decidable (_ ∧ _ ∧ _))

/-- The names between separators. -/
def names (separator : Char) (text : Text) : List Text :=
  (text.splitOn separator).filter fun name => name ≠ [] ∧ name ≠ ['.']

def joinNames (separator : Char) (items : List Text) : Text := [separator].intercalate items

/-- `splitext(name)[1]`: what follows the last dot that has another character before it. -/
def extension (name : Text) : Text :=
  let body := name.dropWhile (· = '.')
  if '.' ∈ body then '.' :: (body.splitOn '.').getLastD [] else []

/-! ## Parsed paths -/

structure Parsed where
  drive : Text
  root : Text
  tail : List Text
deriving DecidableEq, Repr

/-- `str(path)`; `guarded` marks a first name that would be read as a drive. -/
def Parsed.format (separator : Char) (guarded : Text → Bool) (path : Parsed) : Text :=
  if path.drive ≠ [] ∨ path.root ≠ [] then
    path.drive ++ path.root ++ joinNames separator path.tail
  else
    match path.tail with
    | [] => ['.']
    | first :: rest =>
      joinNames separator (if guarded first then ['.'] :: first :: rest else first :: rest)

/-! ## POSIX -/

namespace Posix

/-- `posixpath.join`. -/
def join (path : Text) (parts : List Text) : Text :=
  parts.foldl (fun joined part =>
    if part.head? = some '/' ∨ joined = [] then part
    else if joined.getLast? = some '/' then joined ++ part
    else joined ++ '/' :: part) path

def splitRoot : Text → Text × Text
  | '/' :: '/' :: '/' :: rest => (['/'], '/' :: '/' :: rest)
  | '/' :: '/' :: rest => (['/', '/'], rest)
  | '/' :: rest => (['/'], rest)
  | rest => ([], rest)

def parse (text : Text) : Parsed :=
  let (root, rest) := splitRoot text
  ⟨[], root, names '/' rest⟩

/-- `str(PurePosixPath(root).joinpath(*parts))`. -/
def joined (root : Text) (parts : List Text) : Text :=
  (parse (join root parts)).format '/' fun _ => false

/-- `Path(text).suffix`. -/
def suffix (text : Text) : Text :=
  match (parse text).tail.getLast? with
  | none => []
  | some name => extension name

end Posix

/-! ## Windows -/

namespace Windows

/-- Both separators as one. -/
def normal (text : Text) : Text :=
  text.map fun character => if character = '/' then '\\' else character

/-- Characters before the separator at or after `start`, or nothing. -/
def findFrom (text : Text) (start : Nat) : Option Nat :=
  let position := (text.drop start).findIdx (· = '\\')
  if start + position < text.length then some (start + position) else none

/-- `ntpath.splitroot`. -/
def splitRoot (text : Text) : Text × Text × Text :=
  let plain := normal text
  match plain with
  | '\\' :: '\\' :: _ =>
    let start := if (plain.take 8).map Char.toUpper = "\\\\?\\UNC\\".toList then 8 else 2
    match findFrom plain start with
    | none => (text, [], [])
    | some index =>
      match findFrom plain (index + 1) with
      | none => (text, [], [])
      | some second =>
        (text.take second, (text.drop second).take 1, text.drop (second + 1))
  | '\\' :: _ => ([], text.take 1, text.drop 1)
  | _ :: ':' :: '\\' :: _ => (text.take 2, (text.drop 2).take 1, text.drop 3)
  | _ :: ':' :: _ => (text.take 2, [], text.drop 2)
  | _ => ([], [], text)

/-- `PureWindowsPath(text)` in its parts. -/
def parse (text : Text) : Parsed :=
  let (drive, root, rest) := splitRoot (normal text)
  let share := drive.splitOn '\\'
  let device (name : Text) := name = [] ∨ name = ['?'] ∨ name = ['.'] ∨ name = ['?', '.']
  let rooted := root = [] ∧ drive.head? = some '\\' ∧ drive.getLast? ≠ some '\\' ∧
    (share.length = 4 ∧ ¬device (share.getD 2 []) ∨ share.length = 6)
  ⟨drive, if rooted then ['\\'] else root, names '\\' rest⟩

/-- `PureWindowsPath(text).drive`. -/
def drive (text : Text) : Text := (parse text).drive

/-- One step of `ntpath.join`. -/
def joinStep (current : Text × Text × Text) (part : Text) : Text × Text × Text :=
  let (drive, root, path) := current
  let (partDrive, partRoot, partPath) := splitRoot part
  if partRoot ≠ [] then
    (if partDrive ≠ [] ∨ drive = [] then partDrive else drive, partRoot, partPath)
  else if partDrive ≠ [] ∧ partDrive.map Char.toLower ≠ drive.map Char.toLower then
    (partDrive, partRoot, partPath)
  else
    let separated := match path.getLast? with
      | none => path
      | some last => if last = '\\' ∨ last = '/' then path else path ++ ['\\']
    (if partDrive ≠ [] then partDrive else drive, root, separated ++ partPath)

/-- `ntpath.join`. -/
def join (text : Text) (parts : List Text) : Text :=
  let (drive, root, path) := parts.foldl joinStep (splitRoot text)
  if path ≠ [] ∧ root = [] ∧
      drive.getLast?.any (fun last => !":\\/".toList.contains last) then
    drive ++ '\\' :: path
  else drive ++ root ++ path

/-- A name that is read as a drive. -/
def driven (name : Text) : Bool := (splitRoot name).1 ≠ []

/-- `str(PureWindowsPath(text))`. -/
def str (text : Text) : Text := (parse text).format '\\' driven

/-- `PureWindowsPath(text).is_absolute()`, which is `ntpath.isabs` of the path's text. -/
def isAbsolute (text : Text) : Bool :=
  let start := normal ((str text).take 3)
  start.take 2 == ['\\', '\\'] || start.drop 1 == [':', '\\']

/-- `str(PureWindowsPath(root).joinpath(*parts))`. -/
def joined (root : Text) (parts : List Text) : Text :=
  (parse (join root parts)).format '\\' fun name => (splitRoot name).1 ≠ []

end Windows

/-! ## Resolved paths -/

/-- An absolute path without `.`, empty names and links, as `resolve` returns it. -/
structure Resolved where
  parts : List Text
  proper : ∀ part ∈ parts, Proper '/' part
deriving DecidableEq

namespace Resolved

variable (path root : Resolved)

/-- `str(path)`. -/
def str : Text := '/' :: joinNames '/' path.parts

/-- `path.is_relative_to(root)`. -/
def isRelativeTo : Bool := root.parts.isPrefixOf path.parts

/-- The parts of `path.relative_to(root)`. -/
def relativeTo : List Text := path.parts.drop root.parts.length

/-- `path.suffix`. -/
def suffix : Text :=
  match path.parts.getLast? with
  | none => []
  | some name => extension name

/-- `path / name`. -/
def child (name : Text) (proper : Proper '/' name) : Resolved where
  parts := path.parts ++ [name]
  proper := by
    intro part member
    rcases List.mem_append.mp member with inside | last
    · exact path.proper part inside
    · rw [List.mem_singleton.mp last]
      exact proper

end Resolved

end RetroBrowser.Foundation.PurePath
