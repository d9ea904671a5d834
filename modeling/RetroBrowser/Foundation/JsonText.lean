import RetroBrowser.Foundation.Delimited
import RetroBrowser.Foundation.Digits
import RetroBrowser.Foundation.Json

/-!
Owns what the text of a JSON document tells: documents without real numbers have
the same text only if they are the same. A real number keeps its text, so nothing
tells it from other documents.
-/

namespace RetroBrowser.Foundation.Json

/-! ## Documents without real numbers -/

mutual

/-- No number in the document is real. -/
def exact : Json → Bool
  | .real _ => false
  | .array items => exactItems items
  | .object members => exactMembers members
  | _ => true

def exactItems : List Json → Bool
  | [] => true
  | item :: rest => exact item && exactItems rest

def exactMembers : List (String × Json) → Bool
  | [] => true
  | (_, value) :: rest => exact value && exactMembers rest

end

theorem exactItems_eq (items : List Json) : exactItems items = items.all exact := by
  induction items with
  | nil => rfl
  | cons item rest inductionHypothesis =>
      rw [exactItems, inductionHypothesis, List.all_cons]

theorem exactMembers_eq (members : List (String × Json)) :
    exactMembers members = members.all fun member => exact member.2 := by
  induction members with
  | nil => rfl
  | cons member rest inductionHypothesis =>
      rw [exactMembers, inductionHypothesis, List.all_cons]

/-! ## Strings -/

theorem hexUnit_eq (unit : Nat) : hexUnit unit = hexText 4 unit := by
  simp [hexUnit, hexText, digits, List.range_succ]

/-- The code unit of four hexadecimal digits. -/
def unitValue (text : List Char) : Nat := digitValue 16 (text.map hexDigitValue)

theorem unitValue_hexUnit {unit : Nat} (small : unit < 0x10000) :
    unitValue (hexUnit unit) = unit := by
  rw [hexUnit_eq, unitValue, hexText, digits_read (by decide) hexDigitValue_digitChar,
    digitValue_digits]
  exact Nat.mod_eq_of_lt small

/-- The character of a code at the start of a text, and the rest of the text. -/
def unescape : List Char → Option (Char × List Char)
  | '\\' :: 'u' :: first :: second :: third :: fourth :: rest =>
    let unit := unitValue [first, second, third, fourth]
    if 0xD800 ≤ unit ∧ unit < 0xDC00 then
      match rest with
      | '\\' :: 'u' :: first :: second :: third :: fourth :: rest =>
        let low := unitValue [first, second, third, fourth]
        some (Char.ofNat (0x10000 + (unit - 0xD800) * 0x400 + (low - 0xDC00)), rest)
      | _ => none
    else some (Char.ofNat unit, rest)
  | '\\' :: 'n' :: rest => some ('\n', rest)
  | '\\' :: 'r' :: rest => some ('\r', rest)
  | '\\' :: 't' :: rest => some ('\t', rest)
  | '\\' :: 'f' :: rest => some (Char.ofNat 0x0C, rest)
  | '\\' :: 'b' :: rest => some (Char.ofNat 0x08, rest)
  | '\\' :: character :: rest => some (character, rest)
  | character :: rest => some (character, rest)
  | [] => none

theorem unescape_unit {unit : Nat} (small : unit < 0x10000)
    (single : ¬(0xD800 ≤ unit ∧ unit < 0xDC00)) (rest : List Char) :
    unescape (escapeUnit unit ++ rest) = some (Char.ofNat unit, rest) := by
  have value := unitValue_hexUnit small
  simp only [hexUnit, List.map_cons, List.map_nil] at value
  simp only [escapeUnit, hexUnit, List.map_cons, List.map_nil, List.cons_append, List.nil_append,
    unescape, value, if_neg single]

theorem unescape_pair {high low : Nat} (highFits : high < 0x400) (lowFits : low < 0x400)
    (rest : List Char) :
    unescape (escapeUnit (0xD800 + high) ++ escapeUnit (0xDC00 + low) ++ rest) =
      some (Char.ofNat (0x10000 + high * 0x400 + low), rest) := by
  have first : unitValue (hexUnit (0xD800 + high)) = 0xD800 + high := unitValue_hexUnit (by omega)
  have second : unitValue (hexUnit (0xDC00 + low)) = 0xDC00 + low := unitValue_hexUnit (by omega)
  simp only [hexUnit, List.map_cons, List.map_nil] at first second
  have surrogate : 0xD800 ≤ 0xD800 + high ∧ 0xD800 + high < 0xDC00 := by omega
  simp only [escapeUnit, hexUnit, List.map_cons, List.map_nil, List.cons_append, List.nil_append,
    unescape, first, second, if_pos surrogate, Nat.add_sub_cancel_left]

theorem unescape_plain {character : Char} (plain : character ≠ '\\') (rest : List Char) :
    unescape (character :: rest) = some (character, rest) := by
  unfold unescape
  split <;> simp_all

/-- Every code is read back. -/
theorem unescape_escape (character : Char) (rest : List Char) :
    unescape (escape character ++ rest) = some (character, rest) := by
  have same : ∀ point, character.toNat = point → character = Char.ofNat point := by
    intro point value
    rw [← value, Char.ofNat_toNat]
  unfold escape
  dsimp only
  split_ifs with quote backslash newline carriage tab feed back printable basic
  · rw [quote]; rfl
  · rw [backslash]; rfl
  · rw [newline]; rfl
  · rw [carriage]; rfl
  · rw [tab]; rfl
  · rw [same _ feed]; rfl
  · rw [same _ back]; rfl
  · exact unescape_plain backslash rest
  · have valid := character.valid
    have single : ¬(0xD800 ≤ character.toNat ∧ character.toNat < 0xDC00) := by
      intro ⟨low, high⟩
      rcases valid with below | ⟨above, -⟩
      · exact absurd low (Nat.not_le.mpr below)
      · have above' : 0xDFFF < character.toNat := above
        omega
    rw [unescape_unit basic single, Char.ofNat_toNat]
  · have bounded : character.toNat < 0x110000 := by
      rcases character.valid with below | ⟨-, below⟩
      · have below' : character.toNat < 0xD800 := below
        omega
      · exact below
    have parts : 0x10000 + (character.toNat - 0x10000) / 0x400 * 0x400 +
        (character.toNat - 0x10000) % 0x400 = character.toNat := by omega
    rw [unescape_pair (by omega) (Nat.mod_lt _ (by decide)), parts, Char.ofNat_toNat]

theorem escape_head (character : Char) (rest : List Char) :
    (escape character ++ rest).head? ≠ some '"' := by
  unfold escape
  dsimp only
  split_ifs with quote <;> simp_all [escapeUnit]

/-- A string is told by its text. -/
theorem told_quote (value : String) : Told (fun _ => True) anything quote value := by
  have codes : Told (fun _ => True) anything
      (fun text => text.flatMap escape ++ ['"']) value.toList :=
    told_codes (told_read unescape_escape) escape_head value.toList
  intro other rest rest' _ _ _ same
  have parts := codes other.toList rest rest' trivial trivial trivial (List.cons.inj same).2
  exact ⟨String.toList_injective parts.1, parts.2⟩

/-! ## Numbers -/

/-- The characters of an integer. -/
def inNumber (character : Char) : Bool := character.isDigit || character == '-'

theorem number_text (value : Int) : (toString value).toList =
    if 0 ≤ value then Nat.toDigits 10 value.toNat else '-' :: Nat.toDigits 10 (-value).toNat := by
  rw [Int.toString_eq_repr, Int.repr_eq_if]
  split_ifs with positive <;> simp

theorem isDigit_of_mem {value : Nat} {character : Char}
    (member : character ∈ Nat.toDigits 10 value) : character.isDigit = true :=
  Nat.isDigit_of_mem_toDigits (by decide) (by decide) member

theorem toDigits_injective {left right : Nat}
    (same : Nat.toDigits 10 left = Nat.toDigits 10 right) : left = right := by
  have values := congrArg (fun text => Nat.ofDigitChars 10 text 0) same
  simpa using values

theorem number_run (value : Int) :
    ∀ character ∈ (toString value).toList, inNumber character := by
  intro character member
  rw [number_text] at member
  unfold inNumber
  split_ifs at member
  · rw [isDigit_of_mem member, Bool.true_or]
  · rcases List.mem_cons.mp member with sign | digit
    · rw [sign]; rfl
    · rw [isDigit_of_mem digit, Bool.true_or]

theorem number_injective : Function.Injective fun value : Int => (toString value).toList := by
  intro left right same
  have unsigned : ∀ {value other : Nat}, Nat.toDigits 10 value ≠ '-' :: Nat.toDigits 10 other :=
    fun texts => absurd (isDigit_of_mem (texts ▸ List.mem_cons_self)) (by decide)
  simp only [number_text] at same
  split_ifs at same with leftSign rightSign rightSign
  · have values := toDigits_injective same
    omega
  · exact absurd same unsigned
  · exact absurd same.symm unsigned
  · have values := toDigits_injective (List.cons.inj same).2
    omega

/-! ## Kinds of documents -/

/-- What a document can be, or nothing that starts one. -/
inductive Kind where
  | null | bool | number | string | array | object | nothing
deriving DecidableEq

/-- The kind that a first character announces. -/
def Kind.announced (character : Char) : Kind :=
  if inNumber character then .number
  else if character = 'n' then .null
  else if character = 't' ∨ character = 'f' then .bool
  else if character = '"' then .string
  else if character = '[' then .array
  else if character = '\x7b' then .object
  else .nothing

def kind : Json → Kind
  | .null => .null
  | .bool _ => .bool
  | .number _ | .real _ => .number
  | .string _ => .string
  | .array _ => .array
  | .object _ => .object

/-- The first character of a document announces what it is. -/
theorem dumps_head {value : Json} (own : value.exact) (rest : List Char) :
    ∃ character, (dumps value ++ rest).head? = some character ∧
      Kind.announced character = value.kind := by
  cases value with
  | null => exact ⟨'n', rfl, by decide⟩
  | bool value =>
      cases value with
      | true => exact ⟨'t', rfl, by decide⟩
      | false => exact ⟨'f', rfl, by decide⟩
  | number value =>
      have inside := number_run value
      rw [dumps]
      cases text : (toString value).toList with
      | nil =>
          rw [number_text] at text
          split_ifs at text
          simp at text
      | cons character others =>
          exact ⟨character, rfl, if_pos (inside character (text ▸ List.mem_cons_self))⟩
  | real text => exact absurd own (by simp [exact])
  | string value => exact ⟨'"', rfl, rfl⟩
  | array items => exact ⟨'[', rfl, rfl⟩
  | object members => exact ⟨'\x7b', rfl, rfl⟩

theorem kind_of_dumps {left right : Json} (leftExact : left.exact) (rightExact : right.exact)
    {rest rest' : List Char} (same : dumps left ++ rest = dumps right ++ rest') :
    left.kind = right.kind := by
  have ⟨first, leftHead, leftKind⟩ := dumps_head leftExact rest
  have ⟨first', rightHead, rightKind⟩ := dumps_head rightExact rest'
  rw [same, rightHead] at leftHead
  rw [← leftKind, ← rightKind, Option.some.inj leftHead]

/-! ## Documents -/

/-- The text of a member. -/
def dumpMember (member : String × Json) : List Char := quote member.1 ++ (':' :: dumps member.2)

theorem dumpItems_enclosed (items : List Json) :
    dumpItems items ++ [']'] = enclosed ',' ']' dumps items := by
  have behind : ∀ items item, dumpItems (item :: items) ++ [']'] =
      dumps item ++ continued ',' ']' dumps items := by
    intro items
    induction items with
    | nil => intro item; rfl
    | cons next items inductionHypothesis =>
        intro item
        rw [dumpItems, List.append_assoc, List.cons_append, inductionHypothesis, continued]
  cases items with
  | nil => rfl
  | cons item items => exact behind items item

theorem dumpMembers_enclosed (members : List (String × Json)) :
    dumpMembers members ++ ['\x7d'] = enclosed ',' '\x7d' dumpMember members := by
  have behind : ∀ members member, dumpMembers (member :: members) ++ ['\x7d'] =
      dumpMember member ++ continued ',' '\x7d' dumpMember members := by
    intro members
    induction members with
    | nil =>
        intro member
        simp [dumpMembers, dumpMember, continued]
    | cons next members inductionHypothesis =>
        intro member
        have rest := inductionHypothesis next
        simp only [dumpMembers, dumpMember, List.append_assoc, List.cons_append, continued, rest]
  cases members with
  | nil => rfl
  | cons member members => exact behind members member

/-- No character of a number. -/
def ends (rest : List Char) : Prop := rest.takeWhile inNumber = []

theorem told_number (value : Int) :
    Told (fun _ => True) ends (fun value : Int => (toString value).toList) value :=
  told_run number_run number_injective value

theorem told_member {key : String} {value : Json}
    (told : Told (fun value => value.exact = true) ends dumps value) :
    Told (fun member : String × Json => member.2.exact = true) ends dumpMember (key, value) := by
  intro ⟨key', value'⟩ rest rest' admitted after after' same
  simp only [dumpMember, List.append_assoc] at same
  have keys := told_quote key key' _ _ trivial trivial trivial same
  have values := told value' rest rest' admitted after after' (List.cons.inj keys.2).2
  exact ⟨Prod.ext keys.1 values.1, values.2⟩

/-- Only documents of the same kind need to be told apart. -/
theorem told_of_kind {value : Json} (own : value.exact)
    (told : ∀ other rest rest', other.exact = true → ends rest → ends rest' →
      value.kind = other.kind → dumps value ++ rest = dumps other ++ rest' →
        value = other ∧ rest = rest') :
    Told (fun value => value.exact = true) ends dumps value :=
  fun other rest rest' admitted after after' same =>
    told other rest rest' admitted after after' (kind_of_dumps own admitted same) same

theorem told_array {items : List Json} (own : ∀ item ∈ items, item.exact = true)
    (each : ∀ item ∈ items, Told (fun value => value.exact = true) ends dumps item) :
    Told (fun value => value.exact = true) ends dumps (.array items) := by
  have starts : ∀ item rest, exact item = true → (dumps item ++ rest).head? ≠ some ']' := by
    intro item rest admitted close
    have ⟨character, head, kinds⟩ := dumps_head admitted rest
    rw [close] at head
    rw [← Option.some.inj head] at kinds
    cases item <;> exact absurd kinds (by simp [kind, Kind.announced, inNumber, Char.isDigit])
  have whole : Told (fun items => ∀ item ∈ items, item.exact = true) anything
      (enclosed ',' ']' dumps) items :=
    told_enclosed (by decide) each starts (fun rest => rfl) (fun rest => rfl) own
  refine told_of_kind (by simpa [exact, exactItems_eq] using own) ?_
  intro other rest rest' admitted after after' kinds same
  cases other with
  | array others =>
      rw [dumps, dumps, dumpItems_enclosed, dumpItems_enclosed] at same
      have parts := whole others rest rest' (by simpa [exact, exactItems_eq] using admitted)
        trivial trivial (List.cons.inj same).2
      exact ⟨by rw [parts.1], parts.2⟩
  | _ => simp [kind] at kinds

theorem told_object {members : List (String × Json)}
    (own : ∀ member ∈ members, member.2.exact = true)
    (each : ∀ member ∈ members, Told (fun value => value.exact = true) ends dumps member.2) :
    Told (fun value => value.exact = true) ends dumps (.object members) := by
  have whole : Told (fun members => ∀ member ∈ members, member.2.exact = true) anything
      (enclosed ',' '\x7d' dumpMember) members :=
    told_enclosed (by decide) (fun member inside => told_member (each member inside))
      (fun member rest _ => by simp [dumpMember, quote]) (fun rest => rfl) (fun rest => rfl) own
  refine told_of_kind (by simpa [exact, exactMembers_eq] using own) ?_
  intro other rest rest' admitted after after' kinds same
  cases other with
  | object others =>
      rw [dumps, dumps, dumpMembers_enclosed, dumpMembers_enclosed] at same
      have parts := whole others rest rest' (by simpa [exact, exactMembers_eq] using admitted)
        trivial trivial (List.cons.inj same).2
      exact ⟨by rw [parts.1], parts.2⟩
  | _ => simp [kind] at kinds

/-- A document without real numbers is told by its text. -/
theorem told_dumps (value : Json) (own : value.exact = true) :
    Told (fun value => value.exact = true) ends dumps value := by
  match value, own with
  | .null, own =>
      refine told_of_kind own fun other rest rest' _ _ _ kinds same => ?_
      cases other with
      | null => exact ⟨rfl, List.append_cancel_left same⟩
      | _ => simp [kind] at kinds
  | .bool value, own =>
      refine told_of_kind own fun other rest rest' _ _ _ kinds same => ?_
      cases other with
      | bool other =>
          have equal : value = other := by cases value <;> cases other <;> simp_all [dumps]
          rw [equal] at same ⊢
          exact ⟨rfl, List.append_cancel_left same⟩
      | _ => simp [kind] at kinds
  | .number value, own =>
      refine told_of_kind own fun other rest rest' _ after after' kinds same => ?_
      cases other with
      | number other =>
          rw [dumps, dumps] at same
          have parts := told_number value other rest rest' trivial after after' same
          exact ⟨by rw [parts.1], parts.2⟩
      | real => contradiction
      | _ => simp [kind] at kinds
  | .real text, own => simp [exact] at own
  | .string value, own =>
      refine told_of_kind own fun other rest rest' _ _ _ kinds same => ?_
      cases other with
      | string other =>
          rw [dumps, dumps] at same
          have parts := told_quote value other rest rest' trivial trivial trivial same
          exact ⟨by rw [parts.1], parts.2⟩
      | _ => simp [kind] at kinds
  | .array items, own =>
      have owns : ∀ item ∈ items, item.exact = true := by simpa [exact, exactItems_eq] using own
      exact told_array owns fun item inside => told_dumps item (owns item inside)
  | .object members, own =>
      have owns : ∀ member ∈ members, member.2.exact = true := by
        simpa [exact, exactMembers_eq] using own
      exact told_object owns fun member inside => told_dumps member.2 (owns member inside)
termination_by sizeOf value
decreasing_by
  · have smaller := List.sizeOf_lt_of_mem inside
    simp only [Json.array.sizeOf_spec]
    omega
  · have smaller := List.sizeOf_lt_of_mem inside
    have part : sizeOf member.2 < sizeOf member := by
      cases member
      simp
    simp only [Json.object.sizeOf_spec]
    omega

/-- Documents without real numbers have different texts. -/
theorem dumps_injective {left right : Json} (leftExact : left.exact = true)
    (rightExact : right.exact = true) (same : dumps left = dumps right) : left = right :=
  (told_dumps left leftExact).eq rfl rightExact same

/-! ## Sorted documents -/

theorem sortItems_eq (items : List Json) : sortItems items = items.map sortKeys := by
  induction items with
  | nil => rfl
  | cons item rest inductionHypothesis =>
      rw [sortItems, inductionHypothesis, List.map_cons]

theorem sortMembers_eq (members : List (String × Json)) :
    sortMembers members = members.map fun member => (member.1, sortKeys member.2) := by
  induction members with
  | nil => rfl
  | cons member rest inductionHypothesis =>
      rw [sortMembers, inductionHypothesis, List.map_cons]

/-- Sorting neither adds nor removes members. -/
theorem sortKeys_object (members : List (String × Json)) :
    ∃ sorted, sortKeys (.object members) = .object sorted ∧ ∀ member, member ∈ sorted ↔
      ∃ original ∈ members, (original.1, sortKeys original.2) = member := by
  refine ⟨_, by rw [sortKeys, sortMembers_eq], fun member => ?_⟩
  rw [(List.perm_insertionSort _ _).mem_iff, List.mem_map]

theorem exact_sortKeys (value : Json) (own : value.exact = true) :
    (sortKeys value).exact = true := by
  match value, own with
  | .null, own | .bool _, own | .number _, own | .string _, own => rfl
  | .array items, own =>
      have owns : ∀ item ∈ items, item.exact = true := by simpa [exact, exactItems_eq] using own
      have each : ∀ item ∈ items, (sortKeys item).exact = true :=
        fun item inside => exact_sortKeys item (owns item inside)
      simpa [sortKeys, sortItems_eq, exact, exactItems_eq] using each
  | .object members, own =>
      have owns : ∀ member ∈ members, member.2.exact = true := by
        simpa [exact, exactMembers_eq] using own
      have each : ∀ member ∈ members, (sortKeys member.2).exact = true :=
        fun member inside => exact_sortKeys member.2 (owns member inside)
      have ⟨sorted, same, members'⟩ := sortKeys_object members
      rw [same, exact, exactMembers_eq, List.all_eq_true]
      intro member inside
      have ⟨original, inside', equal⟩ := (members' member).mp inside
      rw [← equal]
      exact each original inside'
termination_by sizeOf value
decreasing_by
  · have smaller := List.sizeOf_lt_of_mem inside
    simp only [Json.array.sizeOf_spec]
    omega
  · have smaller := List.sizeOf_lt_of_mem inside
    have part : sizeOf member.2 < sizeOf member := by
      cases member
      simp
    simp only [Json.object.sizeOf_spec]
    omega

/-- Equal sorted texts are texts of equal sorted documents. -/
theorem dumpsSorted_injective {left right : Json} (leftExact : left.exact = true)
    (rightExact : right.exact = true) (same : dumpsSorted left = dumpsSorted right) :
    sortKeys left = sortKeys right :=
  dumps_injective (exact_sortKeys left leftExact) (exact_sortKeys right rightExact) same

/-- Objects that are equal once sorted agree in every field they have. -/
theorem field_of_sortKeys {α : Type} {members : α → List (String × Json)} {left right : α}
    (same : sortKeys (.object (members left)) = sortKeys (.object (members right)))
    (key : String) (field : α → Json)
    (own : ∀ value other, (key, other) ∈ members value ↔ other = field value) :
    sortKeys (field left) = sortKeys (field right) := by
  have ⟨sorted, leftSorted, leftMembers⟩ := sortKeys_object (members left)
  have ⟨sorted', rightSorted, rightMembers⟩ := sortKeys_object (members right)
  rw [leftSorted, rightSorted, Json.object.injEq] at same
  have inside : (key, sortKeys (field left)) ∈ sorted :=
    (leftMembers _).mpr ⟨_, (own left _).mpr rfl, rfl⟩
  have ⟨⟨key', other⟩, otherMember, equal⟩ := (rightMembers _).mp (same ▸ inside)
  have names : key' = key := congrArg Prod.fst equal
  have sorts : sortKeys other = sortKeys (field left) := congrArg Prod.snd equal
  rw [names] at otherMember
  rw [← sorts, (own right other).mp otherMember]

end RetroBrowser.Foundation.Json
