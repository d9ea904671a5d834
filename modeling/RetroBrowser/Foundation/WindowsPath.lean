import Mathlib
import RetroBrowser.Foundation.PathJoin

/-!
Owns what joining names to a Windows path comes to. Names that hold no backslash and no
drive are put behind those of the path, unless the path is an unfinished share.

Contract: texts are first read with backslashes for slashes; the shapes of such texts are
those `ntpath.splitroot` tells apart.
-/

namespace RetroBrowser.Foundation.PurePath.Windows

/-! ## One separator -/

theorem normal_append (front back : Text) : normal (front ++ back) = normal front ++ normal back :=
  List.map_append

theorem slash_normal (text : Text) : '/' ∉ normal text := by
  intro member
  have ⟨character, _, equal⟩ := List.mem_map.mp member
  split at equal
  · exact absurd equal (by decide)
  · next other => exact other equal

theorem normal_of_plain {text : Text} (plain : '/' ∉ text) : normal text = text := by
  refine (List.map_congr_left fun character member => ?_).trans (List.map_id _)
  exact if_neg fun (slash : character = '/') => plain (slash ▸ member)

theorem normal_normal (text : Text) : normal (normal text) = normal text :=
  normal_of_plain (slash_normal text)

theorem parse_normal (text : Text) : parse (normal text) = parse text := by
  unfold parse
  rw [normal_normal]

/-- The parts with one separator. -/
def normalParts (parts : Text × Text × Text) : Text × Text × Text :=
  (normal parts.1, normal parts.2.1, normal parts.2.2)

/-- The root and the drive are cut off at places that the separators do not tell apart. -/
theorem splitRoot_cut (text : Text) : ∃ first second, ∀ other, normal other = normal text →
    splitRoot other =
      (other.take first, (other.drop first).take second, other.drop (first + second)) := by
  have whole : ∀ other, normal other = normal text → other.length = text.length := by
    intro other same
    simpa [normal] using congrArg List.length same
  have all : ∀ other, normal other = normal text → (other, [], []) =
      (other.take text.length, (other.drop text.length).take 0, other.drop (text.length + 0)) := by
    intro other same
    simp [← whole other same]
  have rooted : ∀ other : Text, ([], other.take 1, other.drop 1) =
      (other.take 0, (other.drop 0).take 1, other.drop (0 + 1)) := fun _ => rfl
  have relative : ∀ other : Text, ([], [], other) =
      (other.take 0, (other.drop 0).take 0, other.drop (0 + 0)) := fun _ => rfl
  unfold splitRoot
  match plain : normal text with
  | [] =>
    refine ⟨0, 0, fun other same => ?_⟩
    rw [same]
    exact relative other
  | [single] =>
    by_cases slash : single = '\\'
    · refine ⟨0, 1, fun other same => ?_⟩
      rw [same, slash]
      exact rooted other
    · refine ⟨0, 0, fun other same => ?_⟩
      rw [same]
      simp [slash]
  | first :: second :: rest =>
    by_cases slash : first = '\\'
    · subst slash
      by_cases share : second = '\\'
      · subst share
        cases found : findFrom ('\\' :: '\\' :: rest)
          (if (('\\' :: '\\' :: rest).take 8).map Char.toUpper = "\\\\?\\UNC\\".toList then 8
            else 2) with
        | none =>
          refine ⟨text.length, 0, fun other same => ?_⟩
          rw [same]
          dsimp only
          rw [found]
          exact all other (same.trans plain.symm)
        | some index =>
          cases found' : findFrom ('\\' :: '\\' :: rest) (index + 1) with
          | none =>
            refine ⟨text.length, 0, fun other same => ?_⟩
            rw [same]
            dsimp only
            rw [found]
            dsimp only
            rw [found']
            exact all other (same.trans plain.symm)
          | some second =>
            refine ⟨second, 1, fun other same => ?_⟩
            rw [same]
            dsimp only
            rw [found]
            dsimp only
            rw [found']
            rfl
      · refine ⟨0, 1, fun other same => ?_⟩
        rw [same]
        simp [share]
    · by_cases colon : second = ':'
      · subst colon
        by_cases root : rest.head? = some '\\'
        · refine ⟨2, 1, fun other same => ?_⟩
          rw [same]
          cases rest with
          | nil => simp at root
          | cons head tail =>
            have same' : head = '\\' := by simpa using root
            subst same'
            simp
        · refine ⟨2, 0, fun other same => ?_⟩
          rw [same]
          cases rest with
          | nil => simp
          | cons head tail =>
            have differs : head ≠ '\\' := by simpa using root
            simp [differs]
      · refine ⟨0, 0, fun other same => ?_⟩
        rw [same]
        simp [slash, colon]

theorem splitRoot_normal (text : Text) :
    splitRoot (normal text) = normalParts (splitRoot text) := by
  have ⟨first, second, cut⟩ := splitRoot_cut text
  rw [cut _ (normal_normal text), cut _ rfl]
  simp only [normalParts, normal, List.map_take, List.map_drop]

/-- The drive, the root and the rest are the text. -/
theorem splitRoot_concat (text : Text) :
    (splitRoot text).1 ++ (splitRoot text).2.1 ++ (splitRoot text).2.2 = text := by
  have ⟨first, second, cut⟩ := splitRoot_cut text
  rw [cut _ rfl]
  dsimp only
  rw [List.append_assoc, ← List.drop_drop, List.take_append_drop, List.take_append_drop]

/-! ## Finding separators -/

theorem findFrom_eq (text : Text) (start : ℕ) :
    findFrom text start =
      ((text.drop start).findIdx? fun character => character = '\\').map (start + ·) := by
  have length : (text.drop start).length = text.length - start := List.length_drop
  have most : (text.drop start).findIdx (· = '\\') ≤ (text.drop start).length :=
    List.findIdx_le_length
  rw [List.findIdx?_eq_guard_findIdx_lt, Option.guard]
  unfold findFrom
  dsimp only
  by_cases inside : start + (text.drop start).findIdx (· = '\\') < text.length
  · have within : (text.drop start).findIdx (· = '\\') < (text.drop start).length := by omega
    rw [if_pos inside, if_pos (by simpa using within)]
    rfl
  · have without : ¬(text.drop start).findIdx (· = '\\') < (text.drop start).length := by omega
    rw [if_neg inside, if_neg (by simpa using without)]
    rfl

theorem findFrom_some {text : Text} {start index : ℕ} :
    findFrom text start = some index ↔
      start ≤ index ∧ text[index]? = some '\\' ∧
        ∀ earlier, start ≤ earlier → earlier < index → text[earlier]? ≠ some '\\' := by
  have inDrop : ∀ offset, (text.drop start)[offset]? = text[start + offset]? := fun _ =>
    List.getElem?_drop
  rw [findFrom_eq, Option.map_eq_some_iff]
  constructor
  · intro ⟨offset, found, equal⟩
    have ⟨inside, here, before⟩ := List.findIdx?_eq_some_iff_getElem.mp found
    rw [← equal]
    refine ⟨by omega, ?_, fun earlier low high same => ?_⟩
    · rw [← inDrop, List.getElem?_eq_getElem inside]
      exact congrArg some (of_decide_eq_true here)
    · have short : earlier - start < offset := by omega
      have within : earlier - start < (text.drop start).length := by omega
      have place : start + (earlier - start) = earlier := by omega
      rw [← place, ← inDrop, List.getElem?_eq_getElem within] at same
      exact before (earlier - start) short (decide_eq_true (Option.some.inj same))
  · intro ⟨low, here, before⟩
    have place : start + (index - start) = index := by omega
    rw [← place, ← inDrop] at here
    have ⟨inside, equal⟩ := List.getElem?_eq_some_iff.mp here
    refine ⟨index - start, ?_, place⟩
    refine List.findIdx?_eq_some_iff_getElem.mpr ⟨inside, decide_eq_true equal,
      fun offset short same => ?_⟩
    have within : offset < (text.drop start).length := by omega
    refine before (start + offset) (by omega) (by omega) ?_
    rw [← inDrop, List.getElem?_eq_getElem within]
    exact congrArg some (of_decide_eq_true same)

theorem findFrom_none {text : Text} {start : ℕ} :
    findFrom text start = none ↔ ∀ index, start ≤ index → text[index]? ≠ some '\\' := by
  rw [findFrom_eq, Option.map_eq_none_iff, List.findIdx?_eq_none_iff]
  constructor
  · intro absent index low here
    have place : start + (index - start) = index := by omega
    rw [← place, ← List.getElem?_drop] at here
    exact absurd (absent '\\' (List.mem_of_getElem? here)) (by decide)
  · intro absent character member
    have ⟨offset, here⟩ := List.mem_iff_getElem?.mp member
    rw [List.getElem?_drop] at here
    exact decide_eq_false fun same => absent (start + offset) (by omega) (same ▸ here)

/-- The text starts with the long name of a share. -/
def HasPrefix (text : Text) : Prop := (text.take 8).map Char.toUpper = "\\\\?\\UNC\\".toList

instance (text : Text) : Decidable (HasPrefix text) := inferInstanceAs (Decidable (_ = _))

/-- Where the names of a share start to be looked for. -/
def shareStart (text : Text) : ℕ := if HasPrefix text then 8 else 2

theorem toUpper_eq {character other : Char} (mark : other ∈ ['\\', '?']) :
    character.toUpper = other ↔ character = other := by
  have listed : ∀ point < 123, 97 ≤ point → (['\\', '?'].all fun other =>
      (Char.ofNat point).toUpper ≠ other ∧ Char.ofNat point ≠ other) = true := by decide
  have letters : ∀ point < 123, 97 ≤ point → ∀ other ∈ ['\\', '?'],
      (Char.ofNat point).toUpper ≠ other ∧ Char.ofNat point ≠ other :=
    fun point bound small => List.all_iff_forall_prop.mp (listed point bound small)
  by_cases small : 'a'.val ≤ character.val ∧ character.val ≤ 'z'.val
  · have low : 97 ≤ character.toNat := UInt32.le_iff_toNat_le.mp small.1
    have high : character.toNat ≤ 122 := UInt32.le_iff_toNat_le.mp small.2
    have ⟨upper, own⟩ := letters character.toNat (by omega) low other mark
    rw [Char.ofNat_toNat] at upper own
    exact iff_of_false upper own
  · rw [Char.toUpper, dif_neg small]

theorem HasPrefix.slash {text : Text} (long : HasPrefix text) {index : ℕ} (inside : index < 8) :
    text[index]? = some '\\' ↔ index = 0 ∨ index = 1 ∨ index = 3 ∨ index = 7 := by
  have upper : (text[index]?).map Char.toUpper = ("\\\\?\\UNC\\".toList)[index]? := by
    rw [← long, List.getElem?_map, List.getElem?_take_of_lt inside]
  have places : ∀ index < 8, ("\\\\?\\UNC\\".toList)[index]? = some '\\' ↔
      index = 0 ∨ index = 1 ∨ index = 3 ∨ index = 7 := by decide
  rw [← places index inside, ← upper, Option.map_eq_some_iff]
  constructor
  · intro here
    exact ⟨'\\', here, by decide⟩
  · intro ⟨character, here, same⟩
    rw [here, (toUpper_eq (by simp)).mp same]

/-- The long name: a question mark, and three letters. -/
theorem HasPrefix.names {text : Text} (long : HasPrefix text) :
    ∃ letters rest, text = '\\' :: '\\' :: '?' :: '\\' :: (letters ++ '\\' :: rest) ∧
      letters.length = 3 ∧ '\\' ∉ letters := by
  have slash : ∀ place, place < 8 → (text[place]? = some '\\' ↔ _) := fun _ => long.slash
  match text with
  | a :: b :: c :: d :: e :: f :: g :: h :: rest =>
    have zero := (slash 0 (by decide)).mpr (by decide)
    have one := (slash 1 (by decide)).mpr (by decide)
    have three := (slash 3 (by decide)).mpr (by decide)
    have seven := (slash 7 (by decide)).mpr (by decide)
    have four := (slash 4 (by decide)).not.mpr (by decide)
    have five := (slash 5 (by decide)).not.mpr (by decide)
    have six := (slash 6 (by decide)).not.mpr (by decide)
    have question : c.toUpper = '?' := by
      have whole : [a, b, c, d, e, f, g, h].map Char.toUpper = "\\\\?\\UNC\\".toList := long
      have third := congrArg (fun text => text[2]?) whole
      simpa using third
    simp only [List.getElem?_cons_succ, List.getElem?_cons_zero, Option.some.injEq] at *
    refine ⟨[e, f, g], rest, ?_, rfl, ?_⟩
    · rw [zero, one, three, seven, (toUpper_eq (by simp)).mp question]
      rfl
    · simp only [List.mem_cons, List.not_mem_nil, or_false, not_or]
      exact ⟨Ne.symm four, Ne.symm five, Ne.symm six⟩
  | [] | [_] | [_, _] | [_, _, _] | [_, _, _, _] | [_, _, _, _, _] | [_, _, _, _, _, _]
  | [_, _, _, _, _, _, _] => exact absurd (congrArg List.length long) (by simp)

theorem HasPrefix.append {text : Text} (eight : text.length = 8) (more : Text) :
    HasPrefix (text ++ more) ↔ HasPrefix text := by
  unfold HasPrefix
  rw [← eight, List.take_left, List.take_length]

/-! ## Shapes -/

/-- A drive that ends before the second separator of a share. -/
def IsShare (drive : Text) : Prop :=
  ∃ rest index, drive = '\\' :: '\\' :: rest ∧ ∀ more, '/' ∉ more →
    findFrom (drive ++ '\\' :: more) (shareStart (drive ++ '\\' :: more)) = some index ∧
      findFrom (drive ++ '\\' :: more) (index + 1) = some drive.length

/-- A share without a second separator. -/
def IsOpen (text : Text) : Prop :=
  ∃ rest, text = '\\' :: '\\' :: rest ∧
    ∀ index, findFrom text (shareStart text) = some index →
    findFrom text (index + 1) = none

/-- The drive, the root and the rest of a text with one separator. -/
inductive Shape : Text → Text → Text → Text → Prop where
  | relative {text : Text} : text.head? ≠ some '\\' → text[1]? ≠ some ':' →
      Shape text [] [] text
  | rooted {rest : Text} : rest.head? ≠ some '\\' → Shape ('\\' :: rest) [] ['\\'] rest
  | drive {letter : Char} {rest : Text} : letter ≠ '\\' → rest.head? ≠ some '\\' →
      Shape (letter :: ':' :: rest) [letter, ':'] [] rest
  | driveRooted {letter : Char} {rest : Text} : letter ≠ '\\' →
      Shape (letter :: ':' :: '\\' :: rest) [letter, ':'] ['\\'] rest
  | shared {drive rest : Text} : IsShare drive → Shape (drive ++ '\\' :: rest) drive ['\\'] rest
  | opened {text : Text} : IsOpen text → Shape text text [] []

theorem splitRoot_share {text rest : Text} (start : text = '\\' :: '\\' :: rest)
    (plain : '/' ∉ text) : splitRoot text =
      match findFrom text (shareStart text) with
      | none => (text, [], [])
      | some index =>
        match findFrom text (index + 1) with
        | none => (text, [], [])
        | some second =>
          (text.take second, (text.drop second).take 1, text.drop (second + 1)) := by
  unfold splitRoot
  rw [normal_of_plain plain]
  subst start
  rfl

theorem splitRoot_of_shape {text drive root rest : Text} (plain : '/' ∉ text)
    (shape : Shape text drive root rest) : splitRoot text = (drive, root, rest) := by
  cases shape with
  | relative start second =>
      unfold splitRoot
      rw [normal_of_plain plain]
      match text with
      | [] => rfl
      | [single] =>
          have differs : single ≠ '\\' := by simpa using start
          simp [differs]
      | first :: second' :: rest =>
          have differs : first ≠ '\\' := by simpa using start
          have noColon : second' ≠ ':' := by simpa using second
          simp [differs, noColon]
  | rooted start =>
      unfold splitRoot
      rw [normal_of_plain plain]
      cases rest with
      | nil => rfl
      | cons head tail =>
          have differs : head ≠ '\\' := by simpa using start
          simp [differs]
  | drive letter start =>
      unfold splitRoot
      rw [normal_of_plain plain]
      cases rest with
      | nil => simp
      | cons head tail =>
          have differs : head ≠ '\\' := by simpa using start
          simp [differs]
  | driveRooted letter =>
      unfold splitRoot
      rw [normal_of_plain plain]
      simp
  | shared share =>
      have ⟨names, index, equal, found⟩ := share
      have more : '/' ∉ rest := fun member =>
        plain (List.mem_append_right _ (List.mem_cons_of_mem _ member))
      have ⟨first, second⟩ := found rest more
      have start : drive ++ '\\' :: rest = '\\' :: '\\' :: (names ++ '\\' :: rest) := by
        rw [equal]; rfl
      rw [splitRoot_share start plain, first]
      dsimp only
      rw [second]
      simp
  | opened isOpen =>
      have ⟨names, start, missing⟩ := isOpen
      rw [splitRoot_share start plain]
      cases first : findFrom text (shareStart text) with
      | none => rfl
      | some index =>
          dsimp only
          rw [missing index first]

theorem two_le_shareStart (text : Text) : 2 ≤ shareStart text := by
  unfold shareStart
  split <;> omega

/-- The first and the second separator stay where they are whatever follows them. -/
theorem isShare_take {text rest : Text} (start : text = '\\' :: '\\' :: rest) {index second : ℕ}
    (first : findFrom text (shareStart text) = some index)
    (found : findFrom text (index + 1) = some second) : IsShare (text.take second) := by
  have ⟨low, here, before⟩ := findFrom_some.mp first
  have ⟨low', here', between⟩ := findFrom_some.mp found
  have two := two_le_shareStart text
  have ⟨inside, _⟩ := List.getElem?_eq_some_iff.mp here'
  have length : (text.take second).length = second := by
    rw [List.length_take]
    omega
  have names : text.take second = '\\' :: '\\' :: (text.take second).drop 2 := by
    have count : second = second - 2 + 2 := by omega
    rw [start, count, List.take_succ_cons, List.take_succ_cons]
    rfl
  refine ⟨_, index, names, fun more _ => ?_⟩
  have same : ∀ place ≤ second, (text.take second ++ '\\' :: more)[place]? = text[place]? := by
    intro place bound
    by_cases last : place = second
    · rw [last, here', List.getElem?_append_right (by omega), length, Nat.sub_self]
      rfl
    · rw [List.getElem?_append_left (by omega), List.getElem?_take_of_lt (by omega)]
  have starts : shareStart (text.take second ++ '\\' :: more) = shareStart text := by
    by_cases short : second < 7
    · have noLong : ¬HasPrefix text := by
        intro long
        rw [shareStart, if_pos long] at low
        omega
      have noLong' : ¬HasPrefix (text.take second ++ '\\' :: more) := by
        intro long
        have atSecond := (long.slash (by omega)).mp ((same second (by omega)).trans here')
        have atFirst := (long.slash (by omega)).mp ((same index (by omega)).trans here)
        omega
      rw [shareStart, shareStart, if_neg noLong, if_neg noLong']
    · have taken : (text.take second ++ '\\' :: more).take 8 = text.take 8 := by
        refine List.ext_getElem? fun place => ?_
        by_cases early : place < 8
        · rw [List.getElem?_take_of_lt early, List.getElem?_take_of_lt early,
            same place (by omega)]
        · rw [List.getElem?_take_eq_none (by omega), List.getElem?_take_eq_none (by omega)]
      have long : HasPrefix (text.take second ++ '\\' :: more) ↔ HasPrefix text := by
        unfold HasPrefix
        rw [taken]
      unfold shareStart
      simp only [long]
  rw [starts, length]
  refine ⟨findFrom_some.mpr ⟨low, (same index (by omega)).trans here,
    fun earlier from' short => ?_⟩,
    findFrom_some.mpr ⟨low', (same second (by omega)).trans here',
      fun earlier from' short => ?_⟩⟩
  · rw [same earlier (by omega)]
    exact before earlier from' short
  · rw [same earlier (by omega)]
    exact between earlier from' short

theorem take_cons_drop {text : Text} {place : ℕ} {character : Char}
    (here : text[place]? = some character) :
    text.take place ++ character :: text.drop (place + 1) = text := by
  have ⟨inside, equal⟩ := List.getElem?_eq_some_iff.mp here
  rw [← equal, List.getElem_cons_drop, List.take_append_drop]

/-- Each text with one separator is of the shape it is split by. -/
theorem shape_splitRoot {text : Text} (plain : '/' ∉ text) :
    Shape text (splitRoot text).1 (splitRoot text).2.1 (splitRoot text).2.2 := by
  have shaped : ∀ {drive root rest : Text}, Shape text drive root rest →
      Shape text (splitRoot text).1 (splitRoot text).2.1 (splitRoot text).2.2 := by
    intro drive root rest shape
    rw [splitRoot_of_shape plain shape]
    exact shape
  match same : text with
  | [] => exact shaped (.relative (by simp) (by simp))
  | [single] =>
      by_cases slash : single = '\\'
      · subst slash
        exact shaped (.rooted (by simp))
      · exact shaped (.relative (by simpa using slash) (by simp))
  | first :: second :: rest =>
      by_cases slash : first = '\\'
      · subst slash
        by_cases share : second = '\\'
        · subst share
          cases first : findFrom ('\\' :: '\\' :: rest) (shareStart ('\\' :: '\\' :: rest)) with
          | none =>
              refine shaped (.opened ⟨rest, rfl, fun index found => ?_⟩)
              exact absurd (first.symm.trans found) (by simp)
          | some index =>
              cases found : findFrom ('\\' :: '\\' :: rest) (index + 1) with
              | none =>
                  refine shaped (.opened ⟨rest, rfl, fun other found' => ?_⟩)
                  rw [← Option.some.inj (first.symm.trans found')]
                  exact found
              | some second =>
                  have ⟨_, here, _⟩ := findFrom_some.mp found
                  have whole := take_cons_drop here
                  have shape : Shape (('\\' :: '\\' :: rest).take second ++
                      '\\' :: ('\\' :: '\\' :: rest).drop (second + 1)) _ _ _ :=
                    .shared (isShare_take rfl first found)
                  rw [whole] at shape
                  exact shaped shape
        · exact shaped (.rooted (by simpa using share))
      · by_cases colon : second = ':'
        · subst colon
          by_cases root : rest.head? = some '\\'
          · have ⟨tail, equal⟩ := List.head?_eq_some_iff.mp root
            subst equal
            exact shaped (.driveRooted slash)
          · exact shaped (.drive slash root)
        · exact shaped (.relative (by simpa using slash) (by simpa using colon))

/-! ## Roots of shares -/

/-- What `parse` takes for a whole share, which has a root although none is written. -/
def Rooted (drive root : Text) : Prop :=
  let share := drive.splitOn '\\'
  let device (name : Text) := name = [] ∨ name = ['?'] ∨ name = ['.'] ∨ name = ['?', '.']
  root = [] ∧ drive.head? = some '\\' ∧ drive.getLast? ≠ some '\\' ∧
    (share.length = 4 ∧ ¬device (share.getD 2 []) ∨ share.length = 6)

instance (drive root : Text) : Decidable (Rooted drive root) :=
  inferInstanceAs (Decidable (_ ∧ _ ∧ _ ∧ (_ ∧ ¬(_ ∨ _ ∨ _ ∨ _) ∨ _)))

/-- The root that the path has. -/
def rootOf (drive root : Text) : Text := if Rooted drive root then ['\\'] else root

theorem parse_of_shape {text drive root rest : Text} (plain : '/' ∉ text)
    (shape : Shape text drive root rest) :
    parse text = ⟨drive, rootOf drive root, names '\\' rest⟩ := by
  unfold parse
  rw [normal_of_plain plain, splitRoot_of_shape plain shape]
  rfl

theorem findFrom_name {name : Text} (plain : '\\' ∉ name) (front rest : Text) :
    findFrom (front ++ (name ++ '\\' :: rest)) front.length =
      some (front.length + name.length) := by
  rw [findFrom_eq, List.drop_left, Option.map_eq_some_iff]
  refine ⟨name.length, List.findIdx?_eq_some_iff_getElem.mpr ⟨by simp, by simp, ?_⟩, rfl⟩
  intro place early same
  rw [List.getElem_append_left early] at same
  exact plain (of_decide_eq_true same ▸ List.getElem_mem early)

/-- Two names behind the start of a share. -/
theorem isShare_names {front first second rest : Text} (start : front = '\\' :: '\\' :: rest)
    (plain : '\\' ∉ first) (plain' : '\\' ∉ second)
    (starts : ∀ more, shareStart (front ++ (first ++ '\\' :: (second ++ '\\' :: more))) =
      front.length) :
    IsShare (front ++ (first ++ '\\' :: second)) := by
  refine ⟨rest ++ (first ++ '\\' :: second), front.length + first.length, by rw [start]; rfl,
    fun more _ => ?_⟩
  have whole : front ++ (first ++ '\\' :: second) ++ '\\' :: more =
      front ++ (first ++ '\\' :: (second ++ '\\' :: more)) := by simp
  have split : front ++ (first ++ '\\' :: (second ++ '\\' :: more)) =
      (front ++ (first ++ ['\\'])) ++ (second ++ '\\' :: more) := by simp
  have length : (front ++ (first ++ ['\\'])).length = front.length + first.length + 1 := by
    simp [Nat.add_assoc]
  have found := findFrom_name plain' (front ++ (first ++ ['\\'])) more
  rw [← split, length] at found
  rw [whole, starts more]
  refine ⟨findFrom_name plain front _, found.trans (congrArg some ?_)⟩
  simp only [List.length_append, List.length_cons]
  omega

/-- A whole share ends before the second separator of each text that goes on with one. -/
theorem isShare_of_rooted {text : Text} (isOpen : IsOpen text) (rooted : Rooted text []) :
    IsShare text := by
  have ⟨rest, start, missing⟩ := isOpen
  have ⟨_, _, _, pieces⟩ := rooted
  have split : text.splitOn '\\' = [] :: [] :: rest.splitOn '\\' := by
    rw [start]
    rfl
  have joined : ['\\'].intercalate (rest.splitOn '\\') = rest := List.intercalate_splitOn '\\'
  have plain : ∀ piece ∈ rest.splitOn '\\', '\\' ∉ piece := fun piece listed =>
    (plain_piece listed).1
  rw [split] at pieces
  rcases pieces with ⟨four, noDevice⟩ | six
  · have two : (rest.splitOn '\\').length = 2 := by simpa using four
    have ⟨first, second, names⟩ := List.length_eq_two.mp two
    rw [names] at joined plain noDevice
    have plainFirst := plain first (by simp)
    have whole : text = ['\\', '\\'] ++ (first ++ '\\' :: second) := by
      rw [start, ← joined]
      simp
    rw [whole]
    refine isShare_names rfl plainFirst (plain second (by simp)) fun more => if_neg fun long => ?_
    have ⟨letters, others, equal, _⟩ := long.names
    have front : first ++ '\\' :: (second ++ '\\' :: more) =
        ['?'] ++ '\\' :: (letters ++ '\\' :: others) := by simpa using equal
    have ⟨name, _⟩ := append_separator_inj plainFirst (by decide) front
    exact noDevice (Or.inr (Or.inl name))
  · have four : (rest.splitOn '\\').length = 4 := by simpa using six
    have ⟨first, second, third, fourth, names⟩ : ∃ first second third fourth,
        rest.splitOn '\\' = [first, second, third, fourth] := by
      match rest.splitOn '\\', four with
      | [first, second, third, fourth], _ => exact ⟨first, second, third, fourth, rfl⟩
    rw [names] at joined plain
    have plainFirst := plain first (by simp)
    have plainSecond := plain second (by simp)
    have whole : text = ['\\', '\\'] ++
        (first ++ '\\' :: (second ++ '\\' :: (third ++ '\\' :: fourth))) := by
      rw [start, ← joined]
      simp
    -- Only behind the long name is the second of four names still without its separator.
    have long : HasPrefix text := by
      by_contra short
      have begins : shareStart text = 2 := if_neg short
      have found :=
        findFrom_name plainFirst ['\\', '\\'] (second ++ '\\' :: (third ++ '\\' :: fourth))
      have found' := findFrom_name plainSecond (['\\', '\\'] ++ (first ++ ['\\']))
        (third ++ '\\' :: fourth)
      have same : (['\\', '\\'] ++ (first ++ ['\\'])) ++
        (second ++ '\\' :: (third ++ '\\' :: fourth)) =
          text := by
        rw [whole]
        simp
      have place : (['\\', '\\'] ++ (first ++ ['\\'])).length = 2 + first.length + 1 := by
        simp only [List.length_append, List.length_cons, List.length_nil]
        omega
      rw [← whole] at found
      rw [same, place] at found'
      have nothing := missing (2 + first.length) (by rw [begins]; exact found)
      rw [found'] at nothing
      exact absurd nothing (by simp)
    have ⟨letters, others, equal, three, noSlash⟩ := long.names
    have front : first ++ '\\' :: (second ++ '\\' :: (third ++ '\\' :: fourth)) =
        ['?'] ++ '\\' :: (letters ++ '\\' :: others) := by simpa [whole] using equal
    have ⟨name, back⟩ := append_separator_inj plainFirst (by decide) front
    have ⟨name', back'⟩ := append_separator_inj plainSecond noSlash back
    subst name name'
    have eight : (['\\', '\\', '?', '\\'] ++ second ++ ['\\']).length = 8 := by
      simp [three]
    have whole' : text = (['\\', '\\', '?', '\\'] ++ second ++ ['\\']) ++
        (third ++ '\\' :: fourth) := by
      rw [whole]
      simp
    rw [whole', HasPrefix.append eight] at long
    rw [whole']
    refine isShare_names rfl (plain third (by simp)) (plain fourth (by simp)) fun more => ?_
    rw [shareStart, if_pos ((HasPrefix.append eight _).mpr long), eight]

/-! ## Joining -/

/-- A name without a backslash, and without a colon in the place of a drive's. -/
structure Undriven (name : Text) : Prop where
  slash : '\\' ∉ name
  colon : name[1]? ≠ some ':'

/-- A path with a separator at its end. -/
def separate (path : Text) : Text :=
  match path.getLast? with
  | none => path
  | some last => if last = '\\' ∨ last = '/' then path else path ++ ['\\']

/-- A path with names behind it. -/
def extend (path : Text) (parts : List Text) : Text :=
  parts.foldl (fun path part => separate path ++ part) path

/-- What `ntpath.join` puts together at its end. -/
def finish (drive root path : Text) : Text :=
  if path ≠ [] ∧ root = [] ∧
      drive.getLast?.any (fun last => !":\\/".toList.contains last) then
    drive ++ '\\' :: path
  else drive ++ root ++ path

theorem splitRoot_undriven {name : Text} (undriven : Undriven name) (plain : '/' ∉ name) :
    splitRoot name = ([], [], name) := by
  refine splitRoot_of_shape plain (.relative (fun head => ?_) undriven.colon)
  exact undriven.slash (List.mem_of_mem_head? head)

theorem foldl_joinStep {parts : List Text} (undriven : ∀ part ∈ parts, Undriven part)
    (plain : ∀ part ∈ parts, '/' ∉ part) (drive root path : Text) :
    parts.foldl joinStep (drive, root, path) = (drive, root, extend path parts) := by
  induction parts generalizing path with
  | nil => rfl
  | cons part rest inductionHypothesis =>
      have step : joinStep (drive, root, path) part = (drive, root, separate path ++ part) := by
        unfold joinStep separate
        rw [splitRoot_undriven (undriven part List.mem_cons_self) (plain part List.mem_cons_self)]
        cases ends : path.getLast? <;> simp [ends]
      rw [List.foldl_cons, step, inductionHypothesis
        (fun other member => undriven other (List.mem_cons_of_mem part member))
        fun other member => plain other (List.mem_cons_of_mem part member)]
      rfl

theorem join_eq {text : Text} {parts : List Text} (undriven : ∀ part ∈ parts, Undriven part)
    (plain : ∀ part ∈ parts, '/' ∉ part) :
    join text parts =
      finish (splitRoot text).1 (splitRoot text).2.1 (extend (splitRoot text).2.2 parts) := by
  unfold join
  rw [foldl_joinStep undriven plain]
  rfl

theorem normal_getLast (text : Text) :
    (normal text).getLast? = text.getLast?.map fun character =>
      if character = '/' then '\\' else character :=
  List.getLast?_map

theorem normal_separate (path : Text) : normal (separate path) = separate (normal path) := by
  unfold separate
  rw [normal_getLast]
  cases path.getLast? with
  | none => rfl
  | some last =>
      by_cases slash : last = '/'
      · simp [slash]
      · by_cases backslash : last = '\\'
        · simp [backslash]
        · simp only [slash, backslash, Option.map_some, if_false, or_self, normal_append]
          rfl

theorem normal_extend {parts : List Text} (plain : ∀ part ∈ parts, '/' ∉ part) (path : Text) :
    normal (extend path parts) = extend (normal path) parts := by
  induction parts generalizing path with
  | nil => rfl
  | cons part rest inductionHypothesis =>
      have own := normal_of_plain (plain part List.mem_cons_self)
      have later :=
        inductionHypothesis (fun other member => plain other (List.mem_cons_of_mem part member))
        (separate path ++ part)
      rw [normal_append, normal_separate, own] at later
      exact later

theorem normal_finish (drive root path : Text) :
    normal (finish drive root path) = finish (normal drive) (normal root) (normal path) := by
  have ends : (normal drive).getLast?.any (fun last => !":\\/".toList.contains last) =
      drive.getLast?.any (fun last => !":\\/".toList.contains last) := by
    rw [normal_getLast]
    cases drive.getLast? with
    | none => rfl
    | some last =>
        by_cases slash : last = '/'
        · subst slash
          decide
        · simp [slash]
  have empty : ∀ text : Text, normal text = [] ↔ text = [] := fun _ => List.map_eq_nil_iff
  unfold finish
  simp only [ends, empty, ne_eq]
  split
  · rw [normal_append]
    rfl
  · rw [normal_append, normal_append]

/-- Joining reads its path with one separator. -/
theorem normal_join {parts : List Text} (undriven : ∀ part ∈ parts, Undriven part)
    (plain : ∀ part ∈ parts, '/' ∉ part) (text : Text) :
    normal (join text parts) = join (normal text) parts := by
  rw [join_eq undriven plain, join_eq undriven plain, normal_finish, normal_extend plain,
    splitRoot_normal]
  rfl

/-- A separated path ends with a separator, or is empty. -/
theorem separate_closed {path : Text} (plain : '/' ∉ path) :
    ∀ last ∈ (separate path).getLast?, last = '\\' := by
  intro last member
  unfold separate at member
  cases ends : path.getLast? with
  | none =>
      rw [ends] at member
      dsimp only at member
      rw [ends] at member
      exact absurd member (by simp)
  | some final =>
      have noSlash : final ≠ '/' := fun same => plain (same ▸ List.mem_of_getLast? ends)
      rw [ends] at member
      dsimp only at member
      split at member
      · next separator =>
        rw [ends] at member
        rw [← Option.some.inj member]
        exact separator.resolve_right noSlash
      · rw [List.getLast?_concat] at member
        exact (Option.some.inj member).symm

theorem names_separate (path : Text) : names '\\' (separate path) = names '\\' path := by
  unfold separate
  split
  · rfl
  · split
    · rfl
    · rw [names_append]
      exact List.append_nil _

theorem slash_separate {path : Text} (plain : '/' ∉ path) : '/' ∉ separate path := by
  rw [← normal_of_plain plain, ← normal_separate]
  exact slash_normal _

theorem names_extend {parts : List Text} (proper : ∀ part ∈ parts, Proper '\\' part)
    {path : Text} (plain : '/' ∉ path) (plain' : ∀ part ∈ parts, '/' ∉ part) :
    names '\\' (extend path parts) = names '\\' path ++ parts := by
  induction parts generalizing path with
  | nil => exact (List.append_nil _).symm
  | cons part rest inductionHypothesis =>
      have noSlash : '/' ∉ separate path ++ part := fun member =>
        (List.mem_append.mp member).elim (slash_separate plain) (plain' part List.mem_cons_self)
      have later :=
        inductionHypothesis (fun other member => proper other (List.mem_cons_of_mem part member))
        noSlash fun other member => plain' other (List.mem_cons_of_mem part member)
      rw [names_append_of_closed (separate_closed plain), names_separate,
        names_of_proper (proper part List.mem_cons_self), List.append_assoc] at later
      exact later

theorem separate_cases (path : Text) : separate path = path ∨ separate path = path ++ ['\\'] := by
  unfold separate
  split
  · exact Or.inl rfl
  · split
    · exact Or.inl rfl
    · exact Or.inr rfl

/-- A path goes on as it starts. -/
theorem head_extend {parts : List Text} (undriven : ∀ part ∈ parts, Undriven part) {path : Text}
    (start : path.head? ≠ some '\\') : (extend path parts).head? ≠ some '\\' := by
  induction parts generalizing path with
  | nil => exact start
  | cons part rest inductionHypothesis =>
      have next : (separate path ++ part).head? ≠ some '\\' := by
        cases path with
        | nil =>
            intro head
            exact (undriven part List.mem_cons_self).slash (List.mem_of_mem_head? head)
        | cons first more =>
            rcases separate_cases (first :: more) with same | longer
            · rw [same]
              exact start
            · rw [longer]
              exact start
      exact inductionHypothesis (fun other member =>
        undriven other (List.mem_cons_of_mem part member)) next

/-- No drive comes to be at the start of a relative path. -/
theorem second_extend {parts : List Text} (undriven : ∀ part ∈ parts, Undriven part)
    (plain' : ∀ part ∈ parts, '/' ∉ part) {path : Text} (plain : '/' ∉ path)
    (start : path.head? ≠ some '\\') (second : path[1]? ≠ some ':') :
    (extend path parts)[1]? ≠ some ':' := by
  induction parts generalizing path with
  | nil => exact second
  | cons part rest inductionHypothesis =>
      have own := undriven part List.mem_cons_self
      have later : ∀ other ∈ rest, Undriven other := fun other member =>
        undriven other (List.mem_cons_of_mem part member)
      have noSlash : '/' ∉ separate path ++ part := fun member =>
        (List.mem_append.mp member).elim (slash_separate plain) (plain' part List.mem_cons_self)
      have start' : (extend path [part]).head? ≠ some '\\' :=
        head_extend (fun other member => List.mem_singleton.mp member ▸ own) start
      have second' : (separate path ++ part)[1]? ≠ some ':' := by
        match path with
        | [] => exact own.colon
        | [single] =>
          have backslash : single ≠ '\\' := by simpa using start
          have slash : single ≠ '/' := fun same => plain (same ▸ List.mem_cons_self)
          have separated : separate [single] = [single, '\\'] := by
            simp [separate, backslash, slash]
          rw [separated]
          simp
        | first :: second' :: more =>
          rcases separate_cases (first :: second' :: more) with same | longer
          · rw [same]
            exact second
          · rw [longer]
            exact second
      exact inductionHypothesis later
        (fun other member => plain' other (List.mem_cons_of_mem part member)) noSlash start' second'

theorem extend_ne_nil {parts : List Text} (nonempty : parts ≠ [])
    (proper : ∀ part ∈ parts, part ≠ []) (path : Text) : extend path parts ≠ [] := by
  induction parts using List.reverseRecOn generalizing path with
  | nil => exact absurd rfl nonempty
  | append_singleton init last _ =>
      have own : last ≠ [] := proper last (by simp)
      rw [extend, List.foldl_append]
      simp [own]

/-- A path to which names can be joined: it is no unfinished share. -/
def TakesNames (text : Text) : Prop :=
  let parts := splitRoot (normal text)
  parts.1.head? ≠ some '\\' ∨ parts.2.1 ≠ [] ∨
    (Rooted parts.1 [] ∧ parts.1.getLast? ≠ some ':')

instance (text : Text) : Decidable (TakesNames text) :=
  inferInstanceAs (Decidable (_ ∨ _ ∨ (_ ∧ _)))

theorem finish_closed {drive root : Text} (path : Text)
    (closed : root ≠ [] ∨ ∀ last ∈ drive.getLast?, last ∈ ":\\/".toList) :
    finish drive root path = drive ++ root ++ path := by
  refine if_neg fun ⟨_, bare, ends⟩ => ?_
  have listed := closed.resolve_left fun present => present bare
  cases final : drive.getLast? with
  | none => simp [final] at ends
  | some last =>
      have inside := List.contains_iff_mem.mpr (listed last final)
      rw [final, Option.any_some, inside] at ends
      exact Bool.false_ne_true ends

theorem finish_open {drive path : Text} {last : Char} (ends : drive.getLast? = some last)
    (unlisted : last ∉ ":\\/".toList) (nonempty : path ≠ []) :
    finish drive [] path = drive ++ '\\' :: path := by
  refine if_pos ⟨nonempty, rfl, ?_⟩
  have outside : ":\\/".toList.contains last = false := by
    rw [Bool.eq_false_iff]
    exact fun listed => unlisted (List.contains_iff_mem.mp listed)
  rw [ends, Option.any_some, outside]
  rfl

/-- The path with names has the drive and the root of the path. -/
theorem shape_extend {text drive root rest : Text} (plain : '/' ∉ text)
    (shape : Shape text drive root rest) (takes : TakesNames text) {parts : List Text}
    (nonempty : parts ≠ []) (undriven : ∀ part ∈ parts, Undriven part)
    (proper : ∀ part ∈ parts, part ≠ []) (plain' : ∀ part ∈ parts, '/' ∉ part) :
    ∃ root', Shape (finish drive root (extend rest parts)) drive root' (extend rest parts) ∧
      rootOf drive root' = rootOf drive root := by
  have present := extend_ne_nil nonempty proper rest
  unfold TakesNames at takes
  rw [normal_of_plain plain, splitRoot_of_shape plain shape] at takes
  cases shape with
  | relative start second =>
      rw [finish_closed _ (Or.inr (by simp))]
      exact ⟨[], .relative (head_extend undriven start)
        (second_extend undriven plain' plain start second), rfl⟩
  | rooted start =>
      rw [finish_closed _ (Or.inl (by simp))]
      exact ⟨['\\'], .rooted (head_extend undriven start), rfl⟩
  | drive letter start =>
      rw [finish_closed _ (Or.inr (by simp))]
      exact ⟨[], .drive letter (head_extend undriven start), rfl⟩
  | driveRooted letter =>
      rw [finish_closed _ (Or.inl (by simp))]
      exact ⟨['\\'], .driveRooted letter, rfl⟩
  | shared share =>
      rw [finish_closed _ (Or.inl (by simp)), List.append_assoc]
      exact ⟨['\\'], .shared share, rfl⟩
  | opened isOpen =>
      have ⟨names, start, _⟩ := isOpen
      have head : text.head? = some '\\' := by rw [start]; rfl
      have ⟨rooted, noColon⟩ := (takes.resolve_left (not_not_intro head)).resolve_left (by simp)
      have ⟨_, _, noSlash, _⟩ := rooted
      have ⟨last, ends⟩ : ∃ last, text.getLast? = some last := by
        rw [start]
        exact ⟨_, List.getLast?_eq_getLast_of_ne_nil (List.cons_ne_nil _ _)⟩
      dsimp only at noColon
      rw [ends] at noColon noSlash
      have unlisted : last ∉ ":\\/".toList := by
        intro listed
        have slash : last ≠ '/' := fun same => plain (same ▸ List.mem_of_getLast? ends)
        have cases' : last = ':' ∨ last = '\\' ∨ last = '/' := by simpa using listed
        rcases cases' with colon | backslash | slash'
        · exact noColon (congrArg some colon)
        · exact noSlash (congrArg some backslash)
        · exact slash slash'
      rw [finish_open ends unlisted present]
      refine ⟨['\\'], .shared (isShare_of_rooted isOpen rooted), ?_⟩
      have bare : rootOf text [] = ['\\'] := if_pos rooted
      rw [bare]
      exact if_neg fun rooted' => absurd rooted'.1 (by simp)

theorem finish_of_shape {text drive root rest : Text} (shape : Shape text drive root rest) :
    finish drive root rest = text := by
  cases shape with
  | relative start second => exact finish_closed _ (Or.inr (by simp))
  | rooted start => exact finish_closed _ (Or.inl (by simp))
  | drive letter start => exact finish_closed _ (Or.inr (by simp))
  | driveRooted letter => exact finish_closed _ (Or.inl (by simp))
  | shared share =>
      rw [finish_closed _ (Or.inl (by simp)), List.append_assoc]
      rfl
  | opened isOpen =>
      refine (if_neg fun present => present.1 rfl).trans ?_
      simp

theorem slash_of_shape {text drive root rest : Text} (plain : '/' ∉ text)
    (shape : Shape text drive root rest) : '/' ∉ rest := by
  intro member
  have whole := splitRoot_concat text
  rw [splitRoot_of_shape plain shape] at whole
  exact plain (whole ▸ List.mem_append_right _ member)

/-- Names that stay names when they are joined to a path of either kind. -/
structure Joinable (name : Text) : Prop extends Undriven name where
  proper : Proper '/' name

theorem Joinable.proper' {name : Text} (joinable : Joinable name) : Proper '\\' name :=
  ⟨joinable.proper.1, joinable.proper.2.1, joinable.slash⟩

/-- Joining puts the names behind those of the path. -/
theorem parse_join {root : Text} {parts : List Text} (joinable : ∀ part ∈ parts, Joinable part)
    (takes : parts = [] ∨ TakesNames root) :
    parse (join root parts) = { parse root with tail := (parse root).tail ++ parts } := by
  have undriven : ∀ part ∈ parts, Undriven part := fun part member =>
    (joinable part member).toUndriven
  have plain' : ∀ part ∈ parts, '/' ∉ part := fun part member =>
    (joinable part member).proper.2.2
  have plain := slash_normal root
  have shape := shape_splitRoot plain
  have read := parse_of_shape plain shape
  rw [parse_normal] at read
  rw [← parse_normal (join root parts), normal_join undriven plain',
    join_eq undriven plain', read]
  by_cases empty : parts = []
  · subst empty
    rw [extend, List.foldl_nil, finish_of_shape shape, List.append_nil, parse_of_shape plain shape]
  · have takes' : TakesNames (normal root) := by
      unfold TakesNames
      rw [normal_normal]
      exact takes.resolve_left empty
    have ⟨root', shape', same⟩ := shape_extend plain shape takes' empty undriven
      (fun part member => (joinable part member).proper.1) plain'
    have noSlash : '/' ∉ finish (splitRoot (normal root)).1 (splitRoot (normal root)).2.1
        (extend (splitRoot (normal root)).2.2 parts) := by
      rw [← join_eq undriven plain', ← normal_join undriven plain']
      exact slash_normal _
    rw [parse_of_shape noSlash shape', same, names_extend
      (fun part member => (joinable part member).proper') (slash_of_shape plain shape) plain']

/-! ## Writing -/

/-- A first name that would be read as a drive. -/
def guarded (name : Text) : Bool := (splitRoot name).1 ≠ []

theorem slash_joinNames {rest : Text} (plain : '/' ∉ rest) :
    '/' ∉ joinNames '\\' (names '\\' rest) := by
  intro member
  rcases mem_joinNames member with backslash | ⟨name, listed, inside⟩
  · exact absurd backslash (by decide)
  · exact plain ((plain_piece (List.mem_filter.mp listed).1).2 inside)

theorem mem_joinNames_head {character : Char} {first : Text} {others : List Text}
    (member : character ∈ first) : character ∈ joinNames '\\' (first :: others) := by
  cases others with
  | nil => simpa [joinNames] using member
  | cons next more =>
      rw [joinNames, List.intercalate_cons_cons, List.append_assoc]
      exact List.mem_append_left _ member

/-- Names whose first one is no drive do not start like one. -/
theorem second_joinNames {first : Text} {others : List Text} (proper : Proper '\\' first)
    (plain : '/' ∉ first) (unguarded : ¬guarded first = true) :
    (joinNames '\\' (first :: others))[1]? ≠ some ':' := by
  have ⟨nonempty, _, noSlash⟩ := proper
  match first with
  | [] => exact absurd rfl nonempty
  | [single] => cases others <;> simp [joinNames, List.intercalate_cons_cons]
  | letter :: colon :: more =>
    have second : (joinNames '\\' ((letter :: colon :: more) :: others))[1]? = some colon := by
      cases others <;> simp [joinNames, List.intercalate_cons_cons]
    intro same
    have isColon : colon = ':' := Option.some.inj (second.symm.trans same)
    subst isColon
    have letter' : letter ≠ '\\' := fun same => noSlash (same ▸ List.mem_cons_self)
    have start : more.head? ≠ some '\\' := fun head =>
      noSlash (List.mem_cons_of_mem _ (List.mem_cons_of_mem _ (List.mem_of_mem_head? head)))
    refine unguarded (decide_eq_true ?_)
    rw [splitRoot_of_shape plain (.drive letter' start)]
    exact List.cons_ne_nil _ _

/-- A relative path is written so that its first name is no drive. -/
theorem parse_relative {rest : Text} (plain : '/' ∉ rest) :
    parse ((⟨[], [], names '\\' rest⟩ : Parsed).format '\\' guarded) =
      ⟨[], [], names '\\' rest⟩ := by
  have proper : ∀ name ∈ names '\\' rest, Proper '\\' name := fun name => mem_names
  have plainNames := slash_joinNames plain
  have start := head_joinNames proper
  have back := names_joinNames proper
  unfold Parsed.format
  rw [if_neg (by simp)]
  cases items : names '\\' rest with
  | nil => decide
  | cons first others =>
      rw [items] at proper plainNames start back
      dsimp only
      by_cases drive : guarded first = true
      · rw [if_pos drive]
        have whole : joinNames '\\' (['.'] :: first :: others) =
            ['.'] ++ '\\' :: joinNames '\\' (first :: others) := by
          simp [joinNames, List.intercalate_cons_cons]
        have noSlash : '/' ∉ ['.'] ++ '\\' :: joinNames '\\' (first :: others) := by
          simpa using plainNames
        have dot : names '\\' ['.'] = [] := by decide
        rw [whole, parse_of_shape noSlash (.relative (by simp) (by simp)), names_append, back, dot]
        rfl
      · rw [if_neg drive]
        have second : (joinNames '\\' (first :: others))[1]? ≠ some ':' :=
          second_joinNames (proper first List.mem_cons_self)
            (fun member => plainNames (mem_joinNames_head member)) drive
        rw [parse_of_shape plainNames (.relative start second), back]
        rfl

theorem rootOf_root (drive : Text) : rootOf drive ['\\'] = ['\\'] :=
  if_neg fun rooted => absurd rooted.1 (by simp)

theorem rootOf_plain {drive : Text} (start : drive.head? ≠ some '\\') : rootOf drive [] = [] :=
  if_neg fun rooted => start rooted.2.1

/-- Written parts are read back where the text of a shape is written. -/
theorem parse_written {drive root written text : Text} {items : List Text}
    (proper : ∀ name ∈ items, Proper '\\' name) (plain : '/' ∉ text)
    (shape : Shape text drive root (joinNames '\\' items)) (same : rootOf drive root = written) :
    parse text = ⟨drive, written, items⟩ := by
  rw [parse_of_shape plain shape, names_joinNames proper, same]

theorem parse_format_shape {text drive root rest : Text} (plain : '/' ∉ text)
    (shape : Shape text drive root rest) :
    parse ((⟨drive, rootOf drive root, names '\\' rest⟩ : Parsed).format '\\' guarded) =
      ⟨drive, rootOf drive root, names '\\' rest⟩ := by
  have plainRest := slash_of_shape plain shape
  have plainNames := slash_joinNames plainRest
  have proper : ∀ name ∈ names '\\' rest, Proper '\\' name := fun name => mem_names
  have start := head_joinNames proper
  have noSlash : ∀ front, '/' ∉ front → '/' ∉ front ++ joinNames '\\' (names '\\' rest) :=
    fun front own member => (List.mem_append.mp member).elim own plainNames
  have letters : ∀ {letter : Char} {more : Text}, '/' ∉ letter :: more → letter ≠ '/' :=
    fun absent same => absent (same ▸ List.mem_cons_self)
  unfold Parsed.format
  cases shape with
  | relative _ _ => exact parse_relative plainRest
  | rooted _ =>
      rw [rootOf_root, if_pos (Or.inr (List.cons_ne_nil _ _))]
      exact parse_written proper (noSlash ['\\'] (by decide)) (.rooted start) (rootOf_root [])
  | drive letter _ =>
      have own := letters plain
      rw [rootOf_plain (by simpa using letter), if_pos (Or.inl (List.cons_ne_nil _ _))]
      refine parse_written proper (noSlash [_, ':'] ?_) (.drive letter start)
        (rootOf_plain (by simpa using letter))
      simpa using Ne.symm own
  | driveRooted letter =>
      have own := letters plain
      rw [rootOf_root, if_pos (Or.inl (List.cons_ne_nil _ _))]
      refine parse_written proper (noSlash [_, ':', '\\'] ?_) (.driveRooted letter) (rootOf_root _)
      simpa using Ne.symm own
  | shared share =>
      have ⟨more, _, begins, _⟩ := share
      have present : drive ≠ [] := by
        rw [begins]
        exact List.cons_ne_nil _ _
      have own : '/' ∉ drive ++ ['\\'] := by
        intro member
        rcases List.mem_append.mp member with front | slash
        · exact plain (List.mem_append_left _ front)
        · exact absurd (List.mem_singleton.mp slash) (by decide)
      rw [rootOf_root, if_pos (Or.inl present)]
      refine parse_written proper (noSlash _ own) ?_ (rootOf_root drive)
      rw [List.append_assoc]
      exact .shared share
  | opened isOpen =>
      have ⟨more, begins, _⟩ := isOpen
      have present : text ≠ [] := by
        rw [begins]
        exact List.cons_ne_nil _ _
      have nothing : names '\\' [] = [] := rfl
      rw [if_pos (Or.inl present), nothing]
      dsimp only
      by_cases rooted : Rooted text []
      · have share := isShare_of_rooted isOpen rooted
        have bare : rootOf text [] = ['\\'] := if_pos rooted
        have own : '/' ∉ text ++ ['\\'] := by
          intro member
          rcases List.mem_append.mp member with front | slash
          · exact plain front
          · exact absurd (List.mem_singleton.mp slash) (by decide)
        rw [bare]
        have none : ∀ name ∈ ([] : List Text), Proper '\\' name := by simp
        refine parse_written none (noSlash _ own) ?_ (rootOf_root text)
        rw [List.append_assoc]
        exact .shared share
      · have bare : rootOf text [] = [] := if_neg rooted
        have same : text ++ [] ++ joinNames '\\' [] = text := by simp [joinNames]
        rw [bare, same, parse_of_shape plain (.opened isOpen), bare]
        rfl

/-- What is written of a path is read back. -/
theorem parse_format (text : Text) : parse ((parse text).format '\\' guarded) = parse text := by
  have plain := slash_normal text
  have shape := shape_splitRoot plain
  have read := parse_of_shape plain shape
  rw [parse_normal] at read
  rw [read]
  exact parse_format_shape plain shape

/-! ## Where joining does not put the names behind the path -/

theorem not_takesNames {text drive root rest : Text} (plain : '/' ∉ text)
    (shape : Shape text drive root rest) :
    ¬TakesNames text ↔ drive.head? = some '\\' ∧ root = [] ∧
      ¬(Rooted drive [] ∧ drive.getLast? ≠ some ':') := by
  unfold TakesNames
  rw [normal_of_plain plain, splitRoot_of_shape plain shape]
  simp only [not_or, ne_eq, not_not]

/-- A text that is split behind a share goes on with a separator there. -/
theorem separator_of_share {text drive root rest more : Text} (shape : Shape text drive root rest)
    (start : drive.head? = some '\\') (longer : text = drive ++ more) (nonempty : more ≠ []) :
    root = ['\\'] ∧ more.head? = some '\\' := by
  cases shape with
  | relative _ _ => exact absurd start (by simp)
  | rooted _ => exact absurd start (by simp)
  | drive letter _ => exact absurd start (by simpa using letter)
  | driveRooted letter => exact absurd start (by simpa using letter)
  | shared share => exact ⟨rfl, by rw [← List.append_cancel_left longer]; rfl⟩
  | opened isOpen => exact absurd (List.append_right_eq_self.mp longer.symm) nonempty

theorem rest_of_share {text drive root rest : Text} (shape : Shape text drive root rest)
    (start : drive.head? = some '\\') (bare : root = []) : rest = [] := by
  cases shape with
  | relative _ _ => exact absurd start (by simp)
  | rooted _ => exact absurd bare (by simp)
  | drive letter _ => exact absurd start (by simpa using letter)
  | driveRooted _ => exact absurd bare (by simp)
  | shared _ => exact absurd bare (by simp)
  | opened _ => rfl

/-- An unfinished share takes what is joined to it for a part of itself. -/
theorem parse_join_ne_of_open {root : Text} {parts : List Text} (nonempty : parts ≠ [])
    (joinable : ∀ part ∈ parts, Joinable part) (refuses : ¬TakesNames root) :
    parse (join root parts) ≠ { parse root with tail := (parse root).tail ++ parts } := by
  have undriven : ∀ part ∈ parts, Undriven part := fun part member =>
    (joinable part member).toUndriven
  have plain' : ∀ part ∈ parts, '/' ∉ part := fun part member =>
    (joinable part member).proper.2.2
  have plain := slash_normal root
  have shape := shape_splitRoot plain
  have refuses' : ¬TakesNames (normal root) := by
    unfold TakesNames
    rw [normal_normal]
    exact refuses
  have ⟨start, bare, unrooted⟩ := (not_takesNames plain shape).mp refuses'
  have noSlash : '/' ∉ join (normal root) parts := by
    rw [← normal_join undriven plain']
    exact slash_normal _
  have shape' := shape_splitRoot noSlash
  rw [← parse_normal (join root parts), normal_join undriven plain', ← parse_normal root,
    parse_of_shape noSlash shape', parse_of_shape plain shape]
  intro same
  rw [Parsed.mk.injEq] at same
  have ⟨drives, roots, _⟩ := same
  have present := extend_ne_nil nonempty (fun part member => (joinable part member).proper.1) []
  have head : (extend [] parts).head? ≠ some '\\' := head_extend undriven (by simp)
  have whole : join (normal root) parts = _ := join_eq undriven plain'
  rw [rest_of_share shape start bare, bare] at whole
  rw [drives] at shape' roots
  rw [bare] at roots
  have ⟨last, ends⟩ : ∃ last, (splitRoot (normal root)).1.getLast? = some last := by
    cases drive : (splitRoot (normal root)).1 with
    | nil => rw [drive] at start; exact absurd start (by simp)
    | cons first more => exact ⟨_, List.getLast?_eq_getLast_of_ne_nil (List.cons_ne_nil _ _)⟩
  by_cases listed : last ∈ ":\\/".toList
  · have closed : ∀ other ∈ (splitRoot (normal root)).1.getLast?, other ∈ ":\\/".toList := by
      intro other member
      rw [ends] at member
      exact Option.some.inj member ▸ listed
    rw [finish_closed _ (Or.inr closed), List.append_nil] at whole
    exact head (separator_of_share shape' start whole present).2
  · rw [finish_open ends listed present] at whole
    have ⟨written, _⟩ := separator_of_share shape' start whole (List.cons_ne_nil _ _)
    rw [written, rootOf_root] at roots
    have rooted : Rooted (splitRoot (normal root)).1 [] := by
      by_contra unmet
      rw [rootOf, if_neg unmet] at roots
      exact absurd roots (by simp)
    refine unrooted ⟨rooted, fun colon => ?_⟩
    rw [ends] at colon
    exact listed (Option.some.inj colon ▸ by simp)

/-! ## Weights -/

/-- The characters of names. -/
def weight (items : List Text) : ℕ := (items.map List.length).sum

theorem weight_append (front back : List Text) :
    weight (front ++ back) = weight front + weight back := by
  rw [weight, List.map_append, List.sum_append]
  rfl

theorem weight_names_cons (character : Char) (text : Text) :
    weight (names '\\' text) ≤ weight (names '\\' (character :: text)) := by
  unfold names
  rw [List.splitOn_cons_eq_if_modifyHead]
  by_cases separator : character = '\\'
  · rw [if_pos (beq_iff_eq.mpr separator)]
    simp
  · rw [if_neg fun same => separator (beq_iff_eq.mp same)]
    cases pieces : text.splitOn '\\' with
    | nil => exact absurd pieces (List.splitOn_ne_nil _ _)
    | cons first others =>
        by_cases empty : first = []
        · subst empty
          by_cases dot : character = '.'
          · simp [weight, dot]
          · simp [weight, dot]
        · by_cases dot : first = ['.']
          · simp [weight, dot]
          · simp [weight, empty, dot]

theorem weight_names_suffix {back text : Text} (suffix : back <:+ text) :
    weight (names '\\' back) ≤ weight (names '\\' text) := by
  have ⟨front, equal⟩ := suffix
  rw [← equal]
  clear suffix equal
  induction front with
  | nil => exact Nat.le_refl _
  | cons character rest inductionHypothesis =>
      exact Nat.le_trans inductionHypothesis (weight_names_cons character _)

theorem weight_names_le {name : Text} (flat : '\\' ∉ name) :
    weight (names '\\' name) ≤ name.length := by
  unfold names
  rw [List.splitOn_eq_singleton flat, List.filter_singleton]
  cases decide (name ≠ [] ∧ name ≠ ['.']) <;> simp [weight]

/-- The drives and roots that a path is split into. -/
inductive Anchor : Text → Text → Prop where
  | relative : Anchor [] []
  | rooted : Anchor [] ['\\']
  | drive {letter : Char} {root : Text} : letter ≠ '\\' → root = [] ∨ root = ['\\'] →
      Anchor [letter, ':'] root
  | shared {drive : Text} : IsShare drive → Anchor drive ['\\']
  | opened {drive : Text} : IsOpen drive → Anchor drive []

theorem anchor_of_shape {text drive root rest : Text} (shape : Shape text drive root rest) :
    Anchor drive root := by
  cases shape with
  | relative _ _ => exact .relative
  | rooted _ => exact .rooted
  | drive letter _ => exact .drive letter (Or.inl rfl)
  | driveRooted letter => exact .drive letter (Or.inr rfl)
  | shared share => exact .shared share
  | opened isOpen => exact .opened isOpen

theorem concat_of_shape {text drive root rest : Text} (plain : '/' ∉ text)
    (shape : Shape text drive root rest) : drive ++ root ++ rest = text := by
  have whole := splitRoot_concat text
  rwa [splitRoot_of_shape plain shape] at whole

theorem shape_unique {text drive root rest drive' root' rest' : Text} (plain : '/' ∉ text)
    (shape : Shape text drive root rest) (shape' : Shape text drive' root' rest') :
    rest = rest' := by
  have split := splitRoot_of_shape plain shape
  rw [splitRoot_of_shape plain shape'] at split
  exact (Prod.mk.inj (Prod.mk.inj split).2).2.symm

/-- An unfinished share is part of the drive of each text it starts. -/
theorem length_of_open {share more drive root rest : Text} (isOpen : IsOpen share)
    (plain : '/' ∉ share ++ more) (shape : Shape (share ++ more) drive root rest)
    (present : rest ≠ []) : rest.length + 1 ≤ more.length := by
  have ⟨names, begins, missing⟩ := isOpen
  have begins' : share ++ more = '\\' :: '\\' :: (names ++ more) := by
    rw [begins]
    rfl
  generalize joined : share ++ more = text at shape begins' plain
  cases shape with
  | relative start _ =>
      rw [begins'] at start
      exact absurd rfl start
  | rooted start =>
      rw [(List.cons.inj begins').2] at start
      exact absurd rfl start
  | drive letter _ => exact absurd (List.cons.inj begins').1 letter
  | driveRooted letter => exact absurd (List.cons.inj begins').1 letter
  | opened _ => exact absurd rfl present
  | shared whole =>
      have ⟨_, index, _, found⟩ := whole
      have noSlash : '/' ∉ rest := fun member =>
        plain (List.mem_append_right _ (List.mem_cons_of_mem _ member))
      have ⟨first, second⟩ := found rest noSlash
      rw [← joined] at first second
      have lengths := congrArg List.length joined
      rw [List.length_append, List.length_append, List.length_cons] at lengths
      -- Both separators would be inside the unfinished share.
      by_contra short
      have inside : drive.length < share.length := by omega
      have front : ∀ place < share.length, (share ++ more)[place]? = share[place]? :=
        fun place inside => List.getElem?_append_left inside
      have ⟨low, here, before⟩ := findFrom_some.mp first
      have ⟨low', here', _⟩ := findFrom_some.mp second
      have starts : shareStart share = shareStart (share ++ more) := by
        by_cases eight : 8 ≤ share.length
        · have long : HasPrefix (share ++ more) ↔ HasPrefix share := by
            unfold HasPrefix
            rw [List.take_append_of_le_length eight]
          unfold shareStart
          simp only [long]
        · have noLong : ¬HasPrefix share := by
            intro long
            have length := congrArg List.length long
            simp at length
            omega
          have noLong' : ¬HasPrefix (share ++ more) := by
            intro long
            rw [shareStart, if_pos long] at low
            omega
          rw [shareStart, shareStart, if_neg noLong, if_neg noLong']
      have found' : findFrom share (shareStart share) = some index := by
        rw [starts]
        refine findFrom_some.mpr ⟨low, (front index (by omega)).symm.trans here,
          fun earlier from' until' => ?_⟩
        rw [← front earlier (by omega)]
        exact before earlier from' until'
      have nothing := findFrom_none.mp (missing index found') drive.length low'
      exact nothing ((front drive.length inside).symm.trans here')

theorem length_of_slash {text drive root rest : Text} (shape : Shape text drive root rest)
    (start : text.head? = some '\\') : rest.length + 1 ≤ text.length := by
  cases shape with
  | relative other _ => exact absurd start other
  | rooted _ => exact Nat.le_refl _
  | drive letter _ => exact absurd (Option.some.inj start) letter
  | driveRooted letter => exact absurd (Option.some.inj start) letter
  | shared _ =>
      rw [List.length_append, List.length_cons]
      exact Nat.le_add_left _ _
  | opened isOpen =>
      have ⟨_, begins, _⟩ := isOpen
      rw [begins]
      exact Nat.succ_le_succ (Nat.zero_le _)

/-- Splitting takes no more than the path for the rest. -/
theorem suffix_finish {drive root path drive' root' rest : Text} (anchor : Anchor drive root)
    (plain : '/' ∉ finish drive root path)
    (shape : Shape (finish drive root path) drive' root' rest) : rest <:+ path := by
  have suffixes : ∀ {text front : Text}, text = front ++ path → Shape text drive' root' rest →
      '/' ∉ text → rest.length ≤ path.length → rest <:+ path := by
    intro text front equal shape plain short
    have whole := concat_of_shape plain shape
    have own : rest <:+ text := ⟨_, whole⟩
    have given : path <:+ text := ⟨front, equal.symm⟩
    exact List.suffix_of_suffix_length_le own given short
  cases anchor with
  | relative =>
      rw [finish_closed _ (Or.inr (by simp))] at shape plain
      exact ⟨_, concat_of_shape plain shape⟩
  | rooted =>
      rw [finish_closed _ (Or.inl (by simp))] at shape plain
      exact suffixes rfl shape plain (Nat.le_of_succ_le_succ (length_of_slash shape rfl))
  | drive letter root =>
      rw [finish_closed _ (Or.inr (by simp))] at shape plain
      rcases root with bare | written
      · subst bare
        by_cases slash : path.head? = some '\\'
        · have ⟨rest', equal⟩ := List.head?_eq_some_iff.mp slash
          subst equal
          rw [shape_unique plain shape (.driveRooted letter)]
          exact List.suffix_cons '\\' rest'
        · rw [shape_unique plain shape (.drive letter slash)]
          exact List.suffix_refl path
      · subst written
        rw [shape_unique plain shape (.driveRooted letter)]
        exact List.suffix_refl path
  | shared share =>
      rw [finish_closed _ (Or.inl (by simp)), List.append_assoc] at shape plain
      rw [shape_unique plain shape (.shared share)]
      exact List.suffix_refl path
  | opened isOpen =>
      by_cases present : rest = []
      · rw [present]
        exact List.nil_suffix
      · unfold finish at shape plain
        split at shape
        · next separated =>
          rw [if_pos separated] at plain
          have short := length_of_open isOpen plain shape present
          exact suffixes (List.append_cons drive '\\' path) shape plain
            (Nat.le_of_succ_le_succ short)
        · next joined =>
          rw [if_neg joined] at plain
          rw [List.append_nil] at shape plain
          have short := length_of_open isOpen plain shape present
          exact suffixes rfl shape plain (Nat.le_of_succ_le short)

/-! ## Names with drives -/

/-- A name without separators of either kind. -/
structure Flat (name : Text) : Prop where
  slash : '/' ∉ name
  backslash : '\\' ∉ name

/-- A name of which a letter and a colon are read as a drive. -/
theorem splitRoot_driven {letter : Char} {rest : Text} (flat : Flat (letter :: ':' :: rest)) :
    splitRoot (letter :: ':' :: rest) = ([letter, ':'], [], rest) := by
  refine splitRoot_of_shape flat.slash (.drive ?_ fun head => ?_)
  · exact fun same => flat.backslash (same ▸ List.mem_cons_self)
  · exact flat.backslash
      (List.mem_cons_of_mem _ (List.mem_cons_of_mem _ (List.mem_of_mem_head? head)))

theorem toLower_eq_colon {character : Char} : character.toLower = ':' ↔ character = ':' := by
  have letters : ∀ point < 91, 65 ≤ point → (Char.ofNat point).toLower ≠ ':' ∧
      Char.ofNat point ≠ ':' := by decide
  by_cases large : 'A'.val ≤ character.val ∧ character.val ≤ 'Z'.val
  · have low : 65 ≤ character.toNat := UInt32.le_iff_toNat_le.mp large.1
    have high : character.toNat ≤ 90 := UInt32.le_iff_toNat_le.mp large.2
    have ⟨lower, own⟩ := letters character.toNat (by omega) low
    rw [Char.ofNat_toNat] at lower own
    exact iff_of_false lower own
  · rw [Char.toLower, dif_neg large]

/-- A drive that is the same but for its case is the drive of a letter, too. -/
theorem anchor_drive {drive root : Text} (anchor : Anchor (normal drive) root) {letter : Char}
    (plain : letter ≠ '\\') (same : [letter, ':'].map Char.toLower = drive.map Char.toLower) :
    Anchor [letter, ':'] root := by
  have length := congrArg List.length same
  rw [List.length_map, List.length_map] at length
  generalize plainDrive : normal drive = text at anchor
  have length' : text.length = 2 := by
    rw [← plainDrive, normal, List.length_map, ← length]
    rfl
  have second : text[1]? = some ':' := by
    have lower := congrArg (fun text => text[1]?) same
    simp only [List.getElem?_map] at lower
    cases other : drive[1]? with
    | none => rw [other] at lower; exact absurd lower (by simp)
    | some character =>
        rw [other] at lower
        have colon : character = ':' := toLower_eq_colon.mp (Option.some.inj lower).symm
        rw [← plainDrive, normal, List.getElem?_map, other, colon]
        rfl
  have unshared : ∀ more, text ≠ '\\' :: '\\' :: more := by
    intro more begins
    rw [begins] at second
    exact absurd second (by simp)
  cases anchor with
  | relative => exact absurd length' (by simp)
  | rooted => exact absurd length' (by simp)
  | drive _ root => exact .drive plain root
  | shared share =>
      have ⟨more, _, begins, _⟩ := share
      exact absurd begins (unshared more)
  | opened isOpen =>
      have ⟨more, begins, _⟩ := isOpen
      exact absurd begins (unshared more)

theorem names_separate_append (path : Text) {name : Text} (plain : '/' ∉ name) :
    names '\\' (normal (separate path ++ name)) = names '\\' (normal path) ++ names '\\' name := by
  rw [normal_append, normal_separate, normal_of_plain plain,
    names_append_of_closed (separate_closed (slash_normal path)), names_separate]

theorem joinStep_driven {letter : Char} {rest : Text} (flat : Flat (letter :: ':' :: rest))
    (drive root path : Text) :
    joinStep (drive, root, path) (letter :: ':' :: rest) =
      if [letter, ':'].map Char.toLower ≠ drive.map Char.toLower then ([letter, ':'], [], rest)
      else ([letter, ':'], root, separate path ++ rest) := by
  unfold joinStep separate
  rw [splitRoot_driven flat]
  dsimp only
  rw [if_neg (not_not_intro rfl)]
  by_cases differs : [letter, ':'].map Char.toLower ≠ drive.map Char.toLower
  · rw [if_pos differs, if_pos ⟨List.cons_ne_nil _ _, differs⟩]
  · have same : ¬([letter, ':'] ≠ [] ∧ _) := fun both => differs both.2
    cases path.getLast? with
    | none => rw [if_neg differs, if_neg same, if_pos (List.cons_ne_nil _ _)]
    | some last => rw [if_neg differs, if_neg same, if_pos (List.cons_ne_nil _ _)]

/-- A step keeps the anchor, and adds at most the characters of the name; for a name with a
drive, fewer. -/
theorem joinStep_flat {drive root name : Text} (path : Text)
    (anchor : Anchor (normal drive) (normal root)) (flat : Flat name) :
    ∃ drive' root' path', joinStep (drive, root, path) name = (drive', root', path') ∧
      Anchor (normal drive') (normal root') ∧
      weight (names '\\' (normal path')) ≤ weight (names '\\' (normal path)) + name.length ∧
      (name[1]? = some ':' →
        weight (names '\\' (normal path')) < weight (names '\\' (normal path)) + name.length) := by
  by_cases driven : name[1]? = some ':'
  · match name with
    | letter :: colon :: rest =>
      have isColon : colon = ':' := Option.some.inj driven
      subst isColon
      have letter' : letter ≠ '\\' := fun same => flat.backslash (same ▸ List.mem_cons_self)
      have letter'' : letter ≠ '/' := fun same => flat.slash (same ▸ List.mem_cons_self)
      have plain : normal [letter, ':'] = [letter, ':'] :=
        normal_of_plain (by simpa using Ne.symm letter'')
      have noSlash : '/' ∉ rest := fun member =>
        flat.slash (List.mem_cons_of_mem _ (List.mem_cons_of_mem _ member))
      have noBackslash : '\\' ∉ rest := fun member =>
        flat.backslash (List.mem_cons_of_mem _ (List.mem_cons_of_mem _ member))
      have light := weight_names_le noBackslash
      rw [joinStep_driven flat]
      split_ifs with differs
      · refine ⟨_, _, _, rfl, ?_, ?_⟩
        · rw [plain]
          exact .drive letter' (Or.inl rfl)
        · rw [normal_of_plain noSlash]
          simp only [List.length_cons]
          omega
      · refine ⟨_, _, _, rfl, ?_, ?_⟩
        · rw [plain]
          exact anchor_drive anchor letter' (not_not.mp differs)
        · rw [names_separate_append path noSlash, weight_append]
          simp only [List.length_cons]
          omega
  · have undriven : ∀ part ∈ [name], Undriven part := by
      simpa using ⟨flat.backslash, driven⟩
    have plain : ∀ part ∈ [name], '/' ∉ part := by simpa using flat.slash
    have light := weight_names_le flat.backslash
    refine ⟨drive, root, separate path ++ name,
      foldl_joinStep undriven plain drive root path, anchor, ?_, fun colon => absurd colon driven⟩
    rw [names_separate_append path flat.slash, weight_append]
    omega

/-- A join keeps the anchor, and loses characters where a name has a drive. -/
theorem foldl_joinStep_flat {parts : List Text} (flat : ∀ part ∈ parts, Flat part)
    {drive root : Text} (path : Text) (anchor : Anchor (normal drive) (normal root)) :
    ∃ drive' root' path', parts.foldl joinStep (drive, root, path) = (drive', root', path') ∧
      Anchor (normal drive') (normal root') ∧
      weight (names '\\' (normal path')) ≤ weight (names '\\' (normal path)) + weight parts ∧
      ((∃ part ∈ parts, part[1]? = some ':') →
        weight (names '\\' (normal path')) < weight (names '\\' (normal path)) + weight parts) := by
  induction parts generalizing drive root path with
  | nil => exact ⟨drive, root, path, rfl, anchor, Nat.le_refl _, by simp⟩
  | cons part rest inductionHypothesis =>
      have ⟨drive', root', path', step, anchor', light, lighter⟩ :=
        joinStep_flat path anchor (flat part List.mem_cons_self)
      have ⟨drive'', root'', path'', steps, anchor'', light', lighter'⟩ := inductionHypothesis
        (fun other member => flat other (List.mem_cons_of_mem part member)) path' anchor'
      have total : weight (part :: rest) = part.length + weight rest := List.sum_cons
      refine ⟨drive'', root'', path'', ?_, anchor'', by omega,
        fun ⟨driven, member, colon⟩ => ?_⟩
      · rw [List.foldl_cons, step, steps]
      · rcases List.mem_cons.mp member with same | later
        · have := lighter (same ▸ colon)
          omega
        · have := lighter' ⟨driven, later, colon⟩
          omega

/-- A name with a drive is not put behind the path: it takes characters away. -/
theorem parse_join_ne_of_driven {root : Text} {parts : List Text}
    (flat : ∀ part ∈ parts, Flat part) (driven : ∃ part ∈ parts, part[1]? = some ':') :
    parse (join root parts) ≠ { parse root with tail := (parse root).tail ++ parts } := by
  have plain := slash_normal root
  have shape := shape_splitRoot plain
  have anchor : Anchor (normal (splitRoot root).1) (normal (splitRoot root).2.1) := by
    have own := anchor_of_shape shape
    rw [splitRoot_normal] at own
    exact own
  have ⟨drive, root', path, steps, anchor', _, lighter⟩ :=
    foldl_joinStep_flat flat (splitRoot root).2.2 anchor
  have joined : normal (join root parts) = finish (normal drive) (normal root') (normal path) := by
    rw [← normal_finish]
    unfold join
    have whole : parts.foldl joinStep (splitRoot root) = (drive, root', path) := steps
    rw [whole]
    rfl
  have plain' : '/' ∉ finish (normal drive) (normal root') (normal path) := by
    rw [← joined]
    exact slash_normal _
  have shape' := shape_splitRoot plain'
  have light := weight_names_suffix (suffix_finish anchor' plain' shape')
  have less := lighter driven
  intro same
  rw [← parse_normal (join root parts), joined, ← parse_normal root,
    parse_of_shape plain' shape', parse_of_shape plain shape, Parsed.mk.injEq] at same
  have tails := congrArg weight same.2.2
  dsimp only at tails
  rw [weight_append] at tails
  have rests : (splitRoot (normal root)).2.2 = normal (splitRoot root).2.2 := by
    rw [splitRoot_normal]
    rfl
  rw [rests] at tails
  omega

theorem parse_joined_eq (root : Text) (parts : List Text) :
    parse (joined root parts) = parse (join root parts) :=
  parse_format (join root parts)

/-- Joining puts the names behind those of the path just for undriven names, and for a path
that is no unfinished share. -/
theorem parse_joined_iff {root : Text} {parts : List Text}
    (proper : ∀ part ∈ parts, Proper '/' part) :
    parse (joined root parts) = { parse root with tail := (parse root).tail ++ parts } ↔
      (∀ part ∈ parts, Undriven part) ∧ (parts = [] ∨ TakesNames root) := by
  rw [parse_joined_eq]
  constructor
  · intro same
    have slash : ∀ part ∈ parts, '\\' ∉ part := by
      intro part member
      have listed : part ∈ (parse (join root parts)).tail := by
        rw [same]
        exact List.mem_append_right _ member
      exact (mem_names listed).2.2
    have flat : ∀ part ∈ parts, Flat part := fun part member =>
      ⟨(proper part member).2.2, slash part member⟩
    have undriven : ∀ part ∈ parts, Undriven part := fun part member =>
      ⟨slash part member, fun colon =>
        parse_join_ne_of_driven flat ⟨part, member, colon⟩ same⟩
    have joinable : ∀ part ∈ parts, Joinable part := fun part member =>
      ⟨undriven part member, proper part member⟩
    refine ⟨undriven, ?_⟩
    by_contra neither
    rw [not_or] at neither
    exact parse_join_ne_of_open neither.1 joinable neither.2 same
  · intro ⟨undriven, takes⟩
    exact parse_join (fun part member => ⟨undriven part member, proper part member⟩) takes

end RetroBrowser.Foundation.PurePath.Windows
