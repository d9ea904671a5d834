import RetroBrowser.Foundation.WindowsPath

/-!
Owns how a path reads under rules that it was not written with.

Contract: what Windows writes is one name for POSIX. What POSIX writes has the same names for
Windows, unless one of them holds a backslash or the first one comes to be a drive.
-/

namespace RetroBrowser.Foundation.PurePath

/-- The rules that a host reads its paths with. -/
inductive Flavour where
  | posix | windows
deriving DecidableEq, Repr

def Flavour.parse : Flavour → Text → Parsed
  | .posix => Posix.parse
  | .windows => Windows.parse

/-! ## Names of either kind -/

namespace Windows

/-- Without backslashes, the names between slashes are those of Windows. -/
theorem names_normal {text : Text} (plain : '\\' ∉ text) :
    names '\\' (normal text) = names '/' text := by
  have pieces : (normal text).splitOn '\\' = text.splitOn '/' := by
    induction text with
    | nil => rfl
    | cons head rest inductionHypothesis =>
        rw [List.mem_cons, not_or] at plain
        have later := inductionHypothesis plain.2
        unfold normal at later ⊢
        rw [List.map_cons, List.splitOn_cons_eq_if_modifyHead, List.splitOn_cons_eq_if_modifyHead,
          later]
        by_cases slash : head = '/'
        · simp [slash]
        · simp [slash, Ne.symm plain.1]
  unfold names
  rw [pieces]

/-- A start that is no slash stays none of the two. -/
theorem head_normal {text : Text} (start : text.head? ≠ some '/') (plain : '\\' ∉ text) :
    (normal text).head? ≠ some '\\' := by
  cases text with
  | nil => exact nofun
  | cons first rest =>
      have other : first ≠ '/' := fun same => start (congrArg some same)
      rw [normal, List.map_cons, if_neg other]
      exact fun same => plain (Option.some.inj same ▸ List.mem_cons_self)

/-- Neither rooted nor with a letter and a colon at its start. -/
theorem parse_relative_text {text : Text} (start : text.head? ≠ some '/') (plain : '\\' ∉ text)
    (second : text[1]? ≠ some ':') : parse text = ⟨[], [], names '/' text⟩ := by
  have head := head_normal start plain
  have colon : (normal text)[1]? ≠ some ':' := by
    rw [normal, List.getElem?_map]
    intro same
    obtain ⟨character, found, equal⟩ := Option.map_eq_some_iff.mp same
    split at equal
    · exact absurd equal (by decide)
    · exact second (equal ▸ found)
  rw [← parse_normal, parse_of_shape (slash_normal text) (.relative head colon),
    names_normal plain, rootOf_plain (by simp)]

/-- One slash, and a name behind it. -/
theorem parse_rooted_text {rest : Text} (start : rest.head? ≠ some '/') (plain : '\\' ∉ rest) :
    parse ('/' :: rest) = ⟨[], ['\\'], names '/' rest⟩ := by
  have head := head_normal start plain
  have whole : normal ('/' :: rest) = '\\' :: normal rest := rfl
  have shape : Shape (normal ('/' :: rest)) [] ['\\'] (normal rest) := by
    rw [whole]
    exact .rooted head
  rw [← parse_normal, parse_of_shape (slash_normal _) shape, names_normal plain, rootOf_root]

/-- A letter and a colon are a drive. -/
theorem drive_of_colon {letter : Char} {rest : Text} (slash : letter ≠ '/')
    (backslash : letter ≠ '\\') : drive (letter :: ':' :: rest) = [letter, ':'] := by
  have whole : normal (letter :: ':' :: rest) = letter :: ':' :: normal rest := by
    rw [normal, List.map_cons, List.map_cons, if_neg slash]
    rfl
  have plain : '/' ∉ letter :: ':' :: normal rest := whole ▸ slash_normal _
  unfold drive
  rw [← parse_normal, whole]
  by_cases rooted : (normal rest).head? = some '\\'
  · obtain ⟨more, equal⟩ := List.head?_eq_some_iff.mp rooted
    rw [equal] at plain ⊢
    rw [parse_of_shape plain (.driveRooted backslash)]
  · rw [parse_of_shape plain (.drive backslash rooted)]

theorem drive_relative_iff {text : Text} (start : text.head? ≠ some '/') (plain : '\\' ∉ text) :
    drive text = [] ↔ text[1]? ≠ some ':' := by
  constructor
  · intro undriven colon
    match text with
    | letter :: other :: rest =>
      have same : other = ':' := Option.some.inj colon
      rw [same, drive_of_colon (fun slash => start (congrArg some slash))
        fun backslash => plain (backslash ▸ List.mem_cons_self)] at undriven
      exact nomatch undriven
  · intro second
    rw [drive, parse_relative_text start plain second]

/-- A text without a drive starts with one slash at most. -/
theorem slashes_of_undriven {rest : Text} (undriven : drive ('/' :: rest) = []) :
    rest.head? ≠ some '/' := by
  intro slash
  obtain ⟨more, rfl⟩ := List.head?_eq_some_iff.mp slash
  have plain := slash_normal ('/' :: '/' :: more)
  have whole : normal ('/' :: '/' :: more) = '\\' :: '\\' :: normal more := rfl
  have shape := shape_splitRoot plain
  unfold drive at undriven
  rw [← parse_normal, parse_of_shape plain shape] at undriven
  dsimp only at undriven
  rw [undriven, whole] at shape
  generalize (splitRoot ('\\' :: '\\' :: normal more)).2.1 = root at shape
  generalize (splitRoot ('\\' :: '\\' :: normal more)).2.2 = tail at shape
  generalize text : '\\' :: '\\' :: normal more = written at shape
  generalize none : ([] : Text) = drive at shape
  cases shape with
  | relative start _ => exact start (by rw [← text]; rfl)
  | rooted start => exact start (by rw [← (List.cons.inj text).2]; rfl)
  | drive _ _ => exact nomatch none
  | driveRooted _ => exact nomatch none
  | shared share =>
      obtain ⟨_, _, begins, _⟩ := share
      exact nomatch none.trans begins
  | opened => exact nomatch none.trans text.symm

end Windows

/-! ## POSIX texts under the rules of Windows -/

namespace Posix

theorem splitRoot_plain {text : Text} (start : text.head? ≠ some '/') :
    splitRoot text = ([], text) :=
  splitRoot_slashes 0 start

/-- A text without backslashes and without a drive has the same names for Windows. -/
theorem windows_parse {text : Text} (plain : '\\' ∉ text) (undriven : Windows.drive text = []) :
    Windows.parse text = ⟨[], Windows.normal (parse text).root, (parse text).tail⟩ := by
  by_cases start : text.head? = some '/'
  · obtain ⟨rest, rfl⟩ := List.head?_eq_some_iff.mp start
    have single := Windows.slashes_of_undriven undriven
    have split : splitRoot ('/' :: rest) = (['/'], rest) := splitRoot_slashes 1 single
    rw [Windows.parse_rooted_text single fun member => plain (List.mem_cons_of_mem _ member), parse,
      split]
    rfl
  · have second := (Windows.drive_relative_iff start plain).mp undriven
    rw [Windows.parse_relative_text start plain second, parse, splitRoot_plain start]
    rfl

/-- The first name of a relative path is none that Windows takes for a drive. -/
def FirstUndriven (root : Text) (parts : List Text) : Prop :=
  (parse root).root = [] → ∀ first ∈ ((parse root).tail ++ parts).head?,
    first[1]? ≠ some ':'

theorem second_joinNames {first : Text} (others : List Text) (proper : Proper '/' first) :
    (joinNames '/' (first :: others))[1]? = some ':' ↔ first[1]? = some ':' := by
  match first, proper with
  | [], proper => exact absurd rfl proper.1
  | [single], _ => cases others <;> simp [joinNames, List.intercalate_cons_cons]
  | letter :: second :: more, _ => cases others <;> simp [joinNames, List.intercalate_cons_cons]

/-- A root without a drive is nothing or one slash. -/
theorem root_of_undriven {root : Text} (undriven : Windows.drive root = []) :
    (parse root).root = [] ∨ (parse root).root = ['/'] := by
  by_cases start : root.head? = some '/'
  · obtain ⟨rest, rfl⟩ := List.head?_eq_some_iff.mp start
    have split : splitRoot ('/' :: rest) = (['/'], rest) :=
      splitRoot_slashes 1 (Windows.slashes_of_undriven undriven)
    exact Or.inr (congrArg Prod.fst split)
  · exact Or.inl (congrArg Prod.fst (splitRoot_plain start))

/-- A joined path holds no backslash where neither the root nor the names do. -/
theorem backslash_joined {root : Text} {parts : List Text} (plain : '\\' ∉ root)
    (proper : ∀ part ∈ parts, Proper '/' part) (flat : ∀ part ∈ parts, '\\' ∉ part) :
    '\\' ∉ joined root parts := by
  intro member
  rcases mem_joined proper member with slash | dot | inRoot | ⟨part, listed, inside⟩
  · exact absurd slash (by decide)
  · exact absurd dot (by decide)
  · exact plain inRoot
  · exact flat part listed inside

/-- The joined path has no drive for Windows just when its first name is none. -/
theorem drive_joined_iff {root : Text} {parts : List Text} (plain : '\\' ∉ root)
    (undriven : Windows.drive root = []) (proper : ∀ part ∈ parts, Proper '/' part)
    (flat : ∀ part ∈ parts, '\\' ∉ part) :
    Windows.drive (joined root parts) = [] ↔ FirstUndriven root parts := by
  have noBackslash := backslash_joined plain proper flat
  have items : ∀ name ∈ (parse root).tail ++ parts, Proper '/' name := by
    intro name member
    rcases List.mem_append.mp member with own | joined
    · exact mem_names own
    · exact proper name joined
  have drive : (parse root).drive = [] := rfl
  unfold FirstUndriven
  unfold joined at noBackslash ⊢
  rw [parse_join root proper, Parsed.format, drive] at noBackslash ⊢
  dsimp only at noBackslash ⊢
  generalize (parse root).tail ++ parts = names at items noBackslash ⊢
  rcases root_of_undriven undriven with bare | rooted
  · rw [bare, if_neg (by simp)] at noBackslash ⊢
    cases names with
    | nil => exact iff_of_true (by decide) (by simp)
    | cons first others =>
        have start := head_joinNames items
        have second := second_joinNames others (items first List.mem_cons_self)
        refine (Windows.drive_relative_iff start noBackslash).trans ((not_congr second).trans ?_)
        simp
  · rw [rooted, if_pos (by simp)] at noBackslash ⊢
    refine iff_of_true ?_ fun bare => absurd bare (List.cons_ne_nil _ _)
    have start := head_joinNames items
    have whole : [] ++ ['/'] ++ joinNames '/' names = '/' :: joinNames '/' names := rfl
    rw [whole] at noBackslash ⊢
    rw [Windows.drive, Windows.parse_rooted_text start fun member =>
      noBackslash (List.mem_cons_of_mem _ member)]

/-- Windows finds the names behind those of the path just for names without backslashes, where
the first one is no drive. -/
theorem windows_parse_joined_iff {root : Text} {parts : List Text} (plain : '\\' ∉ root)
    (undriven : Windows.drive root = []) (proper : ∀ part ∈ parts, Proper '/' part) :
    Windows.parse (joined root parts) =
        { Windows.parse root with tail := (Windows.parse root).tail ++ parts } ↔
      (∀ part ∈ parts, '\\' ∉ part) ∧ FirstUndriven root parts := by
  constructor
  · intro same
    have flat : ∀ part ∈ parts, '\\' ∉ part := by
      intro part member
      have listed : part ∈ (Windows.parse (joined root parts)).tail := by
        rw [same]
        exact List.mem_append_right _ member
      exact (mem_names listed).2.2
    have drives := congrArg Parsed.drive same
    exact ⟨flat, (drive_joined_iff plain undriven proper flat).mp (drives.trans undriven)⟩
  · rintro ⟨flat, first⟩
    have undriven' := (drive_joined_iff plain undriven proper flat).mpr first
    rw [windows_parse (backslash_joined plain proper flat) undriven', windows_parse plain undriven,
      parse_joined root proper]

end Posix

/-! ## Windows texts under the rules of POSIX -/

namespace Posix

/-- A text without slashes is nothing, or one name. -/
theorem parse_plain {text : Text} (plain : '/' ∉ text) :
    parse text = ⟨[], [], if text = [] ∨ text = ['.'] then [] else [text]⟩ := by
  have start : text.head? ≠ some '/' := fun head => plain (List.mem_of_mem_head? head)
  have single : names '/' text = if text = [] ∨ text = ['.'] then [] else [text] := by
    unfold names
    rw [List.splitOn_eq_singleton plain]
    by_cases none : text = [] ∨ text = ['.']
    · rw [if_pos none]
      rcases none with rfl | rfl <;> rfl
    · obtain ⟨nonempty, dot⟩ := not_or.mp none
      simp [nonempty, dot]
  rw [parse, splitRoot_plain start, ← single]

/-- A path without a root and without names is written with slashes and dots. -/
theorem mem_of_blank {text : Text} (blank : parse text = ⟨[], [], []⟩) :
    text.head? ≠ some '/' ∧ ∀ character ∈ text, character = '/' ∨ character = '.' := by
  obtain ⟨count, rest, rfl, start⟩ := slashes text
  have none : count = 0 := by
    have roots : (splitRoot (List.replicate count '/' ++ rest)).1 = [] :=
      congrArg Parsed.root blank
    rw [splitRoot_slashes count start] at roots
    split at roots
    · simpa using roots
    · exact nomatch roots
  subst none
  refine ⟨start, fun character member => ?_⟩
  by_contra other
  obtain ⟨slash, dot⟩ := not_or.mp other
  obtain ⟨piece, listed, inside⟩ := mem_piece member slash
  have kept : piece ∈ names '/' rest := by
    refine List.mem_filter.mpr ⟨listed, decide_eq_true ⟨List.ne_nil_of_mem inside, ?_⟩⟩
    rintro rfl
    exact dot (List.mem_singleton.mp inside)
  have nothing : names '/' (splitRoot rest).2 = [] := congrArg Parsed.tail blank
  rw [splitRoot_plain start] at nothing
  rw [nothing] at kept
  exact nomatch kept

end Posix

namespace Windows

/-- Such a path is not one of Windows alone. -/
theorem undriven_of_blank {text : Text} (blank : Posix.parse text = ⟨[], [], []⟩) :
    '\\' ∉ text ∧ drive text = [] := by
  obtain ⟨start, marks⟩ := Posix.mem_of_blank blank
  have plain : '\\' ∉ text := fun member => by
    rcases marks _ member with slash | dot
    · exact absurd slash (by decide)
    · exact absurd dot (by decide)
  refine ⟨plain, (drive_relative_iff start plain).mpr fun colon => ?_⟩
  rcases marks _ (List.mem_of_getElem? colon) with slash | dot
  · exact absurd slash (by decide)
  · exact absurd dot (by decide)

/-- What Windows writes has no slash. -/
theorem slash_joined (root : Text) (parts : List Text) : '/' ∉ joined root parts := by
  have plain := slash_normal (join root parts)
  have shape := shape_splitRoot plain
  have whole := concat_of_shape plain shape
  have front : '/' ∉ (splitRoot (normal (join root parts))).1 ++
      (splitRoot (normal (join root parts))).2.1 := fun member =>
    plain (whole ▸ List.mem_append_left _ member)
  have listed : ∀ name ∈ names '\\' (splitRoot (normal (join root parts))).2.2,
      '/' ∉ name := by
    intro name member inside
    exact slash_of_shape plain shape ((plain_piece (List.mem_filter.mp member).1).2 inside)
  have joinedNames : ∀ items : List Text, (∀ name ∈ items, '/' ∉ name) →
      '/' ∉ joinNames '\\' items := by
    intro items each member
    rcases mem_joinNames member with backslash | ⟨name, inside, character⟩
    · exact absurd backslash (by decide)
    · exact each name inside character
  rw [joined, ← parse_normal, parse_of_shape plain shape, Parsed.format]
  dsimp only
  generalize names '\\' (splitRoot (normal (join root parts))).2.2 = items at listed ⊢
  rw [List.mem_append, not_or] at front
  split
  · rw [List.mem_append, List.mem_append, not_or, not_or]
    refine ⟨⟨front.1, ?_⟩, joinedNames items listed⟩
    unfold rootOf
    split
    · decide
    · exact front.2
  · cases items with
    | nil => decide
    | cons first others =>
        dsimp only
        split
        · refine joinedNames _ fun name member => ?_
          rcases List.mem_cons.mp member with rfl | later
          · decide
          · exact listed name later
        · exact joinedNames _ listed

theorem joined_nil (root : Text) : joined root [] = str root := by
  have same : parse (join root []) = parse root := by
    have read : parse (join root []) = { parse root with tail := (parse root).tail ++ [] } :=
      parse_join (by simp) (Or.inl rfl)
    rwa [List.append_nil] at read
  rw [joined, same]
  rfl

/-- POSIX finds the names behind those of the path only for none, and for a path that is one name
which Windows writes as it is. -/
theorem posix_parse_joined_iff {root : Text} {parts : List Text}
    (own : '\\' ∈ root ∨ drive root ≠ []) (proper : ∀ part ∈ parts, Proper '/' part) :
    Posix.parse (joined root parts) =
        { Posix.parse root with tail := (Posix.parse root).tail ++ parts } ↔
      parts = [] ∧ Posix.parse root = ⟨[], [], [str root]⟩ := by
  have named : Posix.parse root ≠ ⟨[], [], []⟩ := fun blank =>
    own.elim (undriven_of_blank blank).1 fun driven => driven (undriven_of_blank blank).2
  have read := Posix.parse_plain (slash_joined root parts)
  constructor
  · intro same
    rw [same] at read
    have bare : (Posix.parse root).root = [] := congrArg Parsed.root read
    have tails := congrArg Parsed.tail read
    dsimp only at tails
    have few : ((Posix.parse root).tail ++ parts).length ≤ 1 := by
      rw [tails]
      split <;> simp
    have none : parts = [] := by
      by_contra some
      have one := List.length_pos_iff.mpr some
      rw [List.length_append] at few
      have nothing : (Posix.parse root).tail = [] := List.length_eq_zero_iff.mp (by omega)
      have parts' : Posix.parse root =
        ⟨[], (Posix.parse root).root, (Posix.parse root).tail⟩ := rfl
      exact named (by rw [parts', bare, nothing])
    subst none
    refine ⟨rfl, ?_⟩
    rw [List.append_nil, joined_nil] at read
    rw [joined_nil] at tails
    split at read
    · exact absurd read named
    · exact read
  · rintro ⟨rfl, single⟩
    have tail : names '/' (Posix.splitRoot root).2 = [str root] := congrArg Parsed.tail single
    have proper' : Proper '/' (str root) := mem_names (tail ▸ List.mem_singleton_self _)
    rw [joined_nil] at read ⊢
    rw [read, if_neg (not_or.mpr ⟨proper'.1, proper'.2.1⟩), List.append_nil]
    exact single.symm

end Windows

end RetroBrowser.Foundation.PurePath
