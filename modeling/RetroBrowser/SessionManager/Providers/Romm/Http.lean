import RetroBrowser.Foundation.PurePath
import RetroBrowser.Foundation.PythonValue
import RetroBrowser.SessionManager.Errors
import RetroBrowser.SessionManager.Models.Domain

/-!
Owns the RomM provider: how it reads an answer of RomM's integration API, and what it makes
of it.

Contract: an answer is a status with the bytes of its body, or an `OSError`; `loads` stands for
`json.loads`. `Files` is what the file system answers, which also has names that are no Unicode
text. Of a `ValidationError` only the class counts, which is a subclass of `ValueError`.
-/

namespace RetroBrowser.SessionManager

open RetroBrowser.Foundation

/-! ## Errors of the standard library -/

def Error.ofRead : ReadError → Error
  | .key => .key
  | .type _ => .other "TypeError"
  | .value message => .value message
  | .overflow _ => .other "OverflowError"
  | .recursion => .other "RecursionError"

namespace Error

def isOSError (error : Error) : Bool := error == .other "OSError"

def isValueError : Error → Bool
  | .value _ => true
  | _ => false

def isTypeError (error : Error) : Bool := error == .other "TypeError"

/-- What `json.loads` raises: `UnicodeDecodeError` and `JSONDecodeError` are `ValueError`s. -/
def ofLoads : LoadsError → Error
  | .unicodeDecode => .value "invalid start byte"
  | .jsonDecode => .value "Expecting value"
  | .digits => .value "Exceeds the limit (4300 digits) for integer string conversion"
  | .recursion => .other "RecursionError"

end Error

/-- `except (UnicodeDecodeError, json.JSONDecodeError)`. -/
def handlesLoads : LoadsError → Bool
  | .unicodeDecode | .jsonDecode => true
  | .digits | .recursion => false

/-- A `try` whose handler raises `replacement` for the errors it handles. -/
def translating {α : Type} (handles : Error → Bool) (replacement : Error) :
    Except Error α → Except Error α
  | .ok value => .ok value
  | .error error => .error (if handles error then replacement else error)

/-- `json.loads` under the handler of an adapter. -/
def readDocument (loads : Loads) (replacement : Error) (raw : List UInt8) :
    Except Error PythonValue :=
  match loads raw with
  | .ok document => .ok document
  | .error error => .error (if handlesLoads error then replacement else .ofLoads error)

/-! ## The provider -/

/-- A resolved path; of one with a name that is no Unicode text, its code points and whether it
is beneath the root. -/
inductive Place where
  | path (resolved : PurePath.Resolved)
  | odd (name : Surrogates) (beneath : Bool)

namespace Place

/-- `str(path)`. -/
def str : Place → PythonStr
  | .path resolved => .text (String.ofList resolved.str)
  | .odd name _ => .surrogates name

/-- `path.is_relative_to(root)`. -/
def isRelativeTo : Place → Place → Bool
  | .odd _ beneath, _ => beneath
  | .path resolved, .path root => resolved.isRelativeTo root
  | .path _, .odd _ _ => false

end Place

/-- What the file system answers: a path resolves, or does not exist, or is no path.
`resolveOdd` is the answer for a relative path, or a root, with a name that is no Unicode text. -/
structure Files where
  resolve : PurePath.Text → Except Error Place
  resolveOdd : Place → PythonStr → Except Error Place
  isFile : Place → Bool
  lawful : ∀ path error, resolve path = .error error →
    error.isOSError = true ∨ error.isValueError = true
  lawfulOdd : ∀ root relative error, resolveOdd root relative = .error error →
    error.isOSError = true ∨ error.isValueError = true

/-- `(root / relative).resolve(strict=True)`. -/
def Files.resolveJoined (files : Files) : Place → PythonStr → Except Error Place
  | .path root, .text name => files.resolve (PurePath.Posix.joined root.str [name.toList])
  | root, relative => files.resolveOdd root relative

/-- What the `try` block of `resolve_game` reads. -/
structure GameFields where
  rommRomId : ℤ
  platform : PythonStr
  canonicalPath : PythonStr
  romSha256 : PythonStr
deriving DecidableEq, Repr

/-- The record with these fields, if each is a text. -/
def GameFields.record (fields : GameFields) : Option GameRecord :=
  match fields.platform, fields.canonicalPath, fields.romSha256 with
  | .text platform, .text canonicalPath, .text romSha256 =>
    some { rommRomId := fields.rommRomId, platform, canonicalPath, romSha256 }
  | _, _, _ => none

/-- The model takes the fields. -/
def GameFields.valid (fields : GameFields) : Bool := fields.record.any GameRecord.valid

structure HttpRomMProvider where
  romRoot : String
  files : Files
  repr : PythonValue → Option String

namespace HttpRomMProvider

variable (provider : HttpRomMProvider)

/-- `MAX_RESPONSE_BYTES`. -/
def maxResponseBytes : ℕ := 64 * 1024

/-- `_request`; `answers` is what RomM answers, nothing where the call ends in an `OSError`. -/
def request (loads : Loads) (answers : String → Option (ℤ × List UInt8)) (path : String) :
    Except Error (ℤ × PythonValue) :=
  match answers path with
  | none => .error (.orchestration "RomM is unavailable")
  | some (status, raw) =>
    if maxResponseBytes < raw.length then .error (.orchestration "RomM response is too large")
    else if raw = [] then .ok (status, .dict [])
    else do
      let document ← readDocument loads (.orchestration "RomM returned invalid JSON") raw
      pure (status, document)

/-- The guarded part of `_canonical_path`. -/
def resolveBeneath (relative : PythonStr) : Except Error (Place × Place) :=
  translating Error.isOSError (.orchestration "RomM game file is unavailable") do
    let root ← provider.files.resolve provider.romRoot.toList
    let resolved ← provider.files.resolveJoined root relative
    pure (root, resolved)

/-- `_canonical_path`. -/
def canonicalPath : PythonValue → Except Error Place
  | .str relativePath =>
    let relative := relativePath.characters
    if relative.head? = some '/' ∨ PurePath.Windows.isAbsolute relative = true ∨
        ['.', '.'] ∈ (PurePath.Posix.parse relative).tail then
      .error (.orchestration "RomM returned an unsafe game path")
    else do
      let (root, resolved) ← provider.resolveBeneath relativePath
      if provider.files.isFile resolved = false ∨ resolved.isRelativeTo root = false then
        throw (.orchestration "RomM game path escaped the approved root")
      else pure resolved
  | _ => .error (.orchestration "RomM returned an invalid game record")

/-- `document[key]`. -/
def item (members : List (PythonStr × PythonValue)) (key : String) : Except Error PythonValue :=
  (PythonValue.item members key).mapError Error.ofRead

/-- `int(value)`. -/
def toInt (value : PythonValue) : Except Error ℤ := value.toInt.mapError Error.ofRead

/-- `str(value)`. -/
def toStr (value : PythonValue) : Except Error PythonStr :=
  (value.toStr provider.repr).mapError Error.ofRead

/-- What the `try` block of `resolve_game` reads. -/
def fields (members : List (PythonStr × PythonValue)) : Except Error GameFields := do
  let rommRomId ← item members "romm_rom_id" >>= toInt
  let platform ← item members "platform" >>= provider.toStr
  let romSha256 ← item members "rom_sha256" >>= provider.toStr
  let path ← item members "relative_path" >>= provider.canonicalPath
  pure { rommRomId, platform, canonicalPath := path.str, romSha256 }

/-- `except (KeyError, TypeError, ValueError)`. -/
def handlesRecord (error : Error) : Bool :=
  error == .key || error.isTypeError || error.isValueError

/-- The construction of a `GameRecord`. -/
def construct (fields : GameFields) : Except Error GameRecord :=
  match fields.record with
  | some record =>
    if record.valid then .ok record else .error (.value "game record validation failed")
  | none => .error (.value "game record validation failed")

/-- What a requester answers for a path: a status and a document, or an error. -/
abbrev Requester := String → Except Error (ℤ × PythonValue)

/-- `resolve_game`. -/
def resolveGame (requester : Requester) (rommRomId : ℤ) : Except Error GameRecord := do
  let (status, document) ← requester s!"/multiplayer/games/{rommRomId}"
  let rejected := Error.orchestration s!"RomM rejected game resolution with HTTP {status}"
  if status = 404 then .error .key
  else if status ≠ 200 then .error rejected
  else
    match document with
    | .dict members => do
      let fields ← translating handlesRecord
        (.orchestration "RomM returned an invalid game record") (provider.fields members)
      if fields.rommRomId ≠ rommRomId then
        throw (.orchestration "RomM returned a mismatched game record")
      else construct fields
    | _ => .error rejected

end HttpRomMProvider

end RetroBrowser.SessionManager
