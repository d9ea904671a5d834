import Mathlib.Algebra.Order.Field.Rat
import RetroBrowser.Foundation.JsonReader
import RetroBrowser.Foundation.UUID

/-!
Owns strict models over JSON documents: readers of the field types, fields with and without a
default, and models that forbid every other member.

Contract: the errors of all fields are collected. What a model accepts is described by equations
for its parts; what it reports is described by the fields that fail.
-/

namespace RetroBrowser.Foundation

namespace Validation

/-- One error of a `ValidationError`: the path of its field, and the text of the validator that
raised it, if one did. -/
structure Issue where
  loc : List String
  message : Option String
deriving DecidableEq, Repr

/-- A value, or the errors of a `ValidationError`. -/
abbrev Validated (α : Type) := Except (List Issue) α

namespace Validated

variable {α β : Type}

def errors : Validated α → List Issue
  | .ok _ => []
  | .error errors => errors

/-- The next field of a model; the errors of all fields are collected. -/
def apply (make : Validated (α → β)) (field : Validated α) : Validated β :=
  match make, field with
  | .ok make, .ok value => .ok (make value)
  | make, field => .error (make.errors ++ field.errors)

/-- The constraints of a field, then its validator. -/
def check (constraints : α → Bool) (validator : α → Except String Unit) (value : α) :
    Validated α :=
  if constraints value = false then .error [⟨[], none⟩]
  else
    match validator value with
    | .ok () => .ok value
    | .error message => .error [⟨[], some message⟩]

end Validated

/-- The errors of a part, below the field that holds it. -/
def below (name : String) (issues : List Issue) : List Issue :=
  issues.map fun issue => { issue with loc := name :: issue.loc }

/-- A value of another type than the field takes. -/
def wrongType {α : Type} : Validated α := .error [⟨[], none⟩]

def readStr : Json → Validated String
  | .string value => .ok value
  | _ => wrongType

/-- A strict `int`; booleans and real numbers are none. -/
def readInt : Json → Validated ℤ
  | .number value => .ok value
  | _ => wrongType

/-- The number that a text without a sign writes. -/
def decimal (text : List Char) : Option ℚ :=
  match Json.readDigits text with
  | none => none
  | some (digits, rest) =>
    let (fraction, rest) := Json.readFraction rest
    let (sign, power) := Json.readSign ((Json.readExponent rest).1.drop 1)
    let power : ℤ := Nat.ofDigitChars 10 power 0
    let places := fraction.drop 1
    some (Nat.ofDigitChars 10 (digits ++ places) 0 *
      10 ^ ((if sign = ['-'] then -power else power) - places.length))

/-- `value == 1`, which `True` is too, and every real number whose nearest `float` is 1. -/
def equalsOne : Json → Bool
  | .number value => value = 1
  | .bool value => value
  | .real text =>
    match decimal text with
    | none => false
    | some value => 1 - 1 / 2 ^ 54 ≤ value && value ≤ 1 + 1 / 2 ^ 53
  | _ => false

/-- `Literal[1]`, which the value equals, whatever its type. -/
def readOne (document : Json) : Validated Unit :=
  if equalsOne document then .ok () else wrongType

/-- One of the texts of a `Literal`. -/
def readLiteral {α : Type} (values : List (String × α)) : Json → Validated α
  | .string text =>
    match values.lookup text with
    | some value => .ok value
    | none => wrongType
  | _ => wrongType

/-- `str | None`. -/
def readOptional : Json → Validated (Option String)
  | .null => .ok none
  | .string value => .ok (some value)
  | _ => wrongType

/-- Groups of 8, 4, 4, 4 and 12 digits. -/
def dashedUUID (text : List Char) : Option UUID :=
  let bare := text.filter fun character => character ≠ '-'
  if bare.length = 32 ∧ bare.all Json.isHexDigit = true ∧ text = UUID.dashed bare then
    UUID.parse (String.ofList text)
  else none

/-- A `UUID` that is not strict: 32 digits or their groups, and these in braces or behind
`urn:uuid:`. -/
def readUUID : Json → Validated UUID
  | .string value =>
    let text := value.toList
    let plain := if text.length = 32 ∧ text.all Json.isHexDigit = true
      then UUID.parse value else none
    let braced := if text.head? = some '\x7b' ∧ text.getLast? = some '\x7d' then
      dashedUUID text.tail.dropLast else none
    let named := if "urn:uuid:".toList.isPrefixOf text then dashedUUID (text.drop 9) else none
    match (((dashedUUID text).or plain).or braced).or named with
    | some id => .ok id
    | none => wrongType
  | _ => wrongType

/-- A field: its default where it is missing. -/
def field {α : Type} (members : List (String × Json)) (name : String) (default : Option α)
    (read : Json → Validated α) : Validated α :=
  match members.lookup name, default with
  | some document, _ => (read document).mapError (below name)
  | none, some value => .ok value
  | none, none => .error [⟨[name], none⟩]

/-- A strict model: an object whose members are all fields, the fields, then the validator
of the model. -/
def model {α : Type} (names : List String) (fields : List (String × Json) → Validated α)
    (validator : α → Except String Unit) : Json → Validated α
  | .object members =>
    let extra := members.filter fun member => member.1 ∉ names
    match fields members with
    | .ok value =>
      if extra.isEmpty then Validated.check (fun _ => true) validator value
      else .error (extra.map fun member => ⟨[member.1], none⟩)
    | .error errors => .error (errors ++ extra.map fun member => ⟨[member.1], none⟩)
  | _ => wrongType

/-- No validator. -/
def unchecked {α : Type} (_ : α) : Except String Unit := .ok ()

/-- A text with constraints. -/
def readText (constraints : String → Bool) (document : Json) : Validated String :=
  readStr document >>= Validated.check constraints unchecked

/-- `int = Field(ge=low, le=high)`. -/
def readBounded (low high : ℕ) (document : Json) : Validated ℕ :=
  Int.toNat <$> (readInt document >>= Validated.check
    (fun value => low ≤ value && value ≤ high) unchecked)

/-- `str | None` with constraints on the text, then a validator. -/
def readOptionalText (constraints : String → Bool)
    (validator : Option String → Except String Unit)
    (document : Json) : Validated (Option String) :=
  readOptional document >>= Validated.check (fun value => value.all constraints) validator

/-! ## What is accepted -/

section Accepted

variable {α β : Type}

@[simp] theorem Validated.apply_eq_ok {make : Validated (α → β)}
    {field : Validated α} {value : β} : make.apply field = .ok value ↔
      ∃ transform part, make = .ok transform ∧ field = .ok part ∧ transform part = value := by
  cases make <;> cases field <;> simp [Validated.apply]

/-- The last field first: what is accepted is made of the parts of all fields. -/
theorem Validated.apply_ok_iff {make : Validated (α → β)} {field : Validated α} {value : β} :
    make.apply field = .ok value ↔
      ∃ part, field = .ok part ∧ make.map (fun transform => transform part) = .ok value := by
  cases make <;> cases field <;> simp [Validated.apply, Except.map]

theorem Validated.map_apply {γ : Type} {make : Validated (α → β)} {field : Validated α}
    {transform : β → γ} : (make.apply field).map transform =
      Validated.apply (make.map fun before part => transform (before part)) field := by
  cases make <;> cases field <;> rfl

theorem Validated.map_ok {transform : α → β} {value : α} :
    (Except.ok value : Validated α).map transform = .ok (transform value) := by
  rw [Except.map]

@[simp] theorem Validated.check_eq_ok {constraints : α → Bool}
    {validator : α → Except String Unit}
    {value checked : α} : Validated.check constraints validator value = .ok checked ↔
      constraints value = true ∧ validator value = .ok () ∧ value = checked := by
  unfold Validated.check
  cases constraints value with
  | false => simp
  | true => cases validator value <;> simp

@[simp] theorem unchecked_eq (value : α) : unchecked value = .ok () := rfl

theorem field_eq_ok {members : List (String × Json)} {name : String} {default : Option α}
    {read : Json → Validated α} {value : α} : field members name default read = .ok value ↔
      (∃ document, members.lookup name = some document ∧ read document = .ok value) ∨
        members.lookup name = none ∧ default = some value := by
  unfold field
  cases members.lookup name with
  | none => cases default <;> simp
  | some document =>
      rcases run : read document with errors | other
      · simp [run, Except.mapError]
      · simp [run, Except.mapError]

theorem model_eq_ok {names : List String} {fields : List (String × Json) → Validated α}
    {validator : α → Except String Unit} {document : Json} {value : α} :
    model names fields validator document = .ok value ↔
      ∃ members, document = .object members ∧ (∀ member ∈ members, member.1 ∈ names) ∧
        fields members = .ok value ∧ validator value = .ok () := by
  cases document with
  | object members =>
      have known : (members.filter fun member => member.1 ∉ names).isEmpty = true ↔
          ∀ member ∈ members, member.1 ∈ names := by
        simp [List.isEmpty_iff, List.filter_eq_nil_iff]
      simp only [model, Json.object.injEq, exists_eq_left']
      rcases fields members with errors | made
      · simp
      · by_cases extra : (members.filter fun member => member.1 ∉ names).isEmpty = true
        · simp only [if_pos extra, Validated.check_eq_ok, Except.ok.injEq, true_and]
          constructor
          · intro ⟨valid, same⟩
            exact ⟨known.mp extra, same, same ▸ valid⟩
          · intro ⟨_, same, valid⟩
            exact ⟨same ▸ valid, same⟩
        · simp only [if_neg extra, reduceCtorEq, false_iff]
          intro ⟨names, _⟩
          exact extra (known.mpr names)
  | _ => simp [model, wrongType]

@[simp] theorem wrongType_ne_ok (value : α) : (wrongType : Validated α) ≠ .ok value :=
  fun same => by cases same

@[simp] theorem bind_eq_ok {first : Validated α} {next : α → Validated β} {value : β} :
    (first >>= next) = .ok value ↔ ∃ part, first = .ok part ∧ next part = .ok value := by
  cases first <;> simp [bind, Except.bind]

@[simp] theorem readText_eq_ok {constraints : String → Bool} {document : Json} {value : String} :
    readText constraints document = .ok value ↔
      readStr document = .ok value ∧ constraints value = true := by
  simp only [readText, bind_eq_ok, Validated.check_eq_ok, unchecked_eq, true_and]
  constructor
  · intro ⟨part, read, valid, same⟩
    exact ⟨same ▸ read, same ▸ valid⟩
  · intro ⟨read, valid⟩
    exact ⟨value, read, valid, rfl⟩

@[simp] theorem readOne_eq_ok {document : Json} {nothing : Unit} :
    readOne document = .ok nothing ↔ equalsOne document = true := by
  unfold readOne
  cases equalsOne document <;> simp [wrongType]

@[simp] theorem equalsOne_number {value : ℤ} :
    equalsOne (.number value) = true ↔ value = 1 := by
  simp [equalsOne]

example : equalsOne (.real "0.1e+1".toList) = true := by decide +kernel

example : equalsOne (.real "0.9999999999999999".toList) = false := by decide +kernel

@[simp] theorem readStr_eq_ok {document : Json} {value : String} :
    readStr document = .ok value ↔ document = .string value := by
  cases document <;> simp [readStr]

@[simp] theorem readBounded_eq_ok {low high value : ℕ} {document : Json} :
    readBounded low high document = .ok value ↔
      document = .number value ∧ (low ≤ value && value ≤ high) = true := by
  cases document with
  | number number =>
      have read : readBounded low high (.number number) = Int.toNat <$> Validated.check
        (fun value : ℤ => low ≤ value && value ≤ high) unchecked number := rfl
      rw [read, Validated.check]
      by_cases bounded : ((low : ℤ) ≤ number && number ≤ (high : ℤ)) = true
      · have ⟨above, below⟩ : (low : ℤ) ≤ number ∧
          number ≤ high := by simpa using bounded
        simp only [bounded, Bool.true_eq_false, if_false, unchecked, Functor.map, Except.map,
          Except.ok.injEq, Json.number.injEq, Bool.and_eq_true, decide_eq_true_eq]
        omega
      · rw [Bool.not_eq_true] at bounded
        simp only [bounded, if_true, Functor.map, Except.map, reduceCtorEq, Json.number.injEq,
          Bool.and_eq_true, decide_eq_true_eq, false_iff]
        intro ⟨same, above, below⟩
        rw [same] at bounded
        simp only [Bool.and_eq_false_iff, decide_eq_false_iff_not] at bounded
        omega
  | _ => simp [readBounded, readInt, bind, Except.bind, Functor.map, Except.map, wrongType]

theorem readOptionalText_ok {constraints : String → Bool}
    {validator : Option String → Except String Unit} {document : Json} {value : Option String}
    (read : readOptionalText constraints validator document = .ok value) :
    value.all constraints = true ∧ validator value = .ok () := by
  have ⟨part, _, checked⟩ := bind_eq_ok.mp read
  have ⟨plain, valid, same⟩ := Validated.check_eq_ok.mp checked
  subst same
  exact ⟨plain, valid⟩

/-- A field without a default is there. -/
theorem field_required {members : List (String × Json)} {name : String}
    {read : Json → Validated α} {value : α}
    (accepted : field members name none read = .ok value) :
    ∃ document, members.lookup name = some document ∧ read document = .ok value := by
  cases field_eq_ok.mp accepted with
  | inl there => exact there
  | inr missing => cases missing.2

/-- A required text with constraints meets them. -/
theorem field_text {members : List (String × Json)} {name value : String}
    {constraints : String → Bool}
    (accepted : field members name none (readText constraints) = .ok value) :
    constraints value = true := by
  have ⟨_, _, read⟩ := field_required accepted
  exact (readText_eq_ok.mp read).2

/-- A field that is there is read. -/
theorem field_there {members : List (String × Json)} {name : String} {default : Option α}
    {read : Json → Validated α} {value : α} {document : Json}
    (there : members.lookup name = some document) :
    field members name default read = .ok value ↔ read document = .ok value := by
  rw [field_eq_ok, there]
  simp

end Accepted

/-- The document of an optional text. -/
def optionalDocument : Option String → Json
  | some value => .string value
  | none => .null

theorem readOptional_document (value : Option String) :
    readOptional (optionalDocument value) = .ok value := by
  cases value <;> rfl

theorem readUUID_str (id : UUID) : readUUID (.string (UUID.str id)) = .ok id := by
  have whole : (UUID.str id).toList = UUID.dashed (UUID.hexDigits id) := String.toList_ofList
  have noDash : '-' ∉ UUID.hexDigits id := fun member => (UUID.hexDigits_plain member).1 (by simp)
  have bare : (UUID.str id).toList.filter (fun character => character ≠ '-') =
      UUID.hexDigits id := by
    rw [whole]
    exact UUID.filter_dashed noDash
  have digits : (UUID.hexDigits id).all Json.isHexDigit = true := by
    have plain : ∀ digit < 16, Json.isHexDigit (Nat.digitChar digit) = true := by decide
    apply List.all_eq_true.mpr
    intro character member
    rw [UUID.hexDigits_eq] at member
    have ⟨digit, below, same⟩ := mem_hexText member
    rw [← same]
    exact plain digit below
  have wide : (UUID.hexDigits id).length = 32 := by simp [UUID.hexDigits]
  have dashed : dashedUUID (UUID.str id).toList = some id := by
    unfold dashedUUID
    simp only [bare]
    rw [if_pos ⟨wide, digits, whole⟩, String.ofList_toList, UUID.parse_str]
  unfold readUUID
  simp only [dashed, Option.some_or]

end Validation

end RetroBrowser.Foundation
