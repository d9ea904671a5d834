import Mathlib.Data.List.Induction
import RetroBrowser.Foundation.PurePath
import RetroBrowser.Foundation.Splitting

/-!
Owns what joining proper names to a path comes to: on POSIX the names of the path
with those names behind them, whatever the path.

Contract: a written path is read back as the path it was written from.
-/

namespace RetroBrowser.Foundation.PurePath

variable {separator : Char}

/-! ## Names between separators -/

theorem names_of_proper {name : Text} (proper : Proper separator name) :
    names separator name = [name] := by
  have ⟨nonempty, dot, plain⟩ := proper
  unfold names
  rw [List.splitOn_eq_singleton plain]
  simp [nonempty, dot]

theorem names_append (front back : Text) :
    names separator (front ++ separator :: back) = names separator front ++
      names separator back := by
  unfold names
  rw [List.splitOn_append_cons_self, List.filter_append]

/-- A separator at the end separates already. -/
theorem names_append_of_closed {front : Text}
    (closed : ∀ last ∈ front.getLast?, last = separator)
    (back : Text) : names separator (front ++ back) = names separator front ++
      names separator back := by
  induction front using List.reverseRecOn with
  | nil => rfl
  | append_singleton init last _ =>
      have same : last = separator := closed last List.getLast?_concat
      have nothing : names separator [] = [] := rfl
      rw [same, List.append_assoc, List.singleton_append, names_append,
        names_append init [], nothing, List.append_nil]

theorem mem_names {name text : Text} (member : name ∈ names separator text) :
    Proper separator name := by
  have ⟨listed, kept⟩ := List.mem_filter.mp member
  have ⟨nonempty, dot⟩ := of_decide_eq_true kept
  exact ⟨nonempty, dot, (plain_piece listed).1⟩

theorem extension_subset (name : Text) : extension name ⊆ '.' :: name := by
  intro character member
  simp only [extension] at member
  split at member
  · rcases List.mem_cons.mp member with dot | inside
    · rw [dot]
      exact List.mem_cons_self
    · have listed : ((name.dropWhile (· = '.')).splitOn '.').getLastD [] ∈
          (name.dropWhile (· = '.')).splitOn '.' := by
        rw [List.getLastD_eq_getLast?, List.getLast?_eq_some_getLast (List.splitOn_ne_nil '.' _)]
        exact List.getLast_mem _
      have whole := (plain_piece listed).2 inside
      exact List.mem_cons_of_mem _ (List.dropWhile_subset _ whole)
  · exact absurd member List.not_mem_nil

/-- The suffix of a path is part of one name. -/
theorem Posix.slash_suffix (text : Text) : '/' ∉ Posix.suffix text := by
  unfold Posix.suffix
  split
  · exact List.not_mem_nil
  · rename_i name last
    have proper : Proper '/' name := mem_names (List.mem_of_getLast? last)
    intro slash
    rcases List.mem_cons.mp (extension_subset name slash) with dot | inside
    · exact absurd dot (by decide)
    · exact proper.2.2 inside

/-- Joined names are read back. -/
theorem names_joinNames {items : List Text} (proper : ∀ name ∈ items, Proper separator name) :
    names separator (joinNames separator items) = items := by
  by_cases empty : items = []
  · subst empty
    rfl
  · unfold names joinNames
    rw [List.splitOn_intercalate separator (fun name member => (proper name member).2.2) empty]
    refine List.filter_eq_self.mpr fun name member => ?_
    exact decide_eq_true ⟨(proper name member).1, (proper name member).2.1⟩

/-- Joined names start with no separator. -/
theorem head_joinNames {items : List Text} (proper : ∀ name ∈ items, Proper separator name) :
    (joinNames separator items).head? ≠ some separator := by
  cases items with
  | nil => simp [joinNames]
  | cons first rest =>
      have ⟨nonempty, _, plain⟩ := proper first List.mem_cons_self
      cases first with
      | nil => exact absurd rfl nonempty
      | cons head tail =>
          have differs : head ≠ separator := fun same => plain (same ▸ List.mem_cons_self)
          cases rest <;> simpa [joinNames, List.intercalate] using differs

theorem mem_joinNames {character : Char} {items : List Text}
    (member : character ∈ joinNames separator items) :
    character = separator ∨ ∃ name ∈ items, character ∈ name := by
  induction items with
  | nil => exact absurd member (by simp [joinNames])
  | cons first rest inductionHypothesis =>
      cases rest with
      | nil => exact Or.inr ⟨first, List.mem_cons_self, by simpa [joinNames] using member⟩
      | cons second others =>
          rw [joinNames, List.intercalate_cons_cons] at member
          rcases List.mem_append.mp member with front | later
          · rcases List.mem_append.mp front with here | between
            · exact Or.inr ⟨first, List.mem_cons_self, here⟩
            · exact Or.inl (List.mem_singleton.mp between)
          · exact (inductionHypothesis later).imp_right fun ⟨name, listed, inside⟩ =>
              ⟨name, List.mem_cons_of_mem first listed, inside⟩

theorem joinNames_concat {items : List Text} (nonempty : items ≠ []) (name : Text) :
    joinNames separator (items ++ [name]) = joinNames separator items ++ separator :: name := by
  induction items with
  | nil => exact absurd rfl nonempty
  | cons first rest inductionHypothesis =>
      cases rest with
      | nil => simp [joinNames]
      | cons second others =>
          have later := inductionHypothesis (List.cons_ne_nil second others)
          simp only [joinNames, List.cons_append, List.intercalate_cons_cons] at later ⊢
          rw [later]
          simp

/-! ## POSIX -/

namespace Posix

/-- One step of `posixpath.join`. -/
def joinStep (joined part : Text) : Text :=
  if part.head? = some '/' ∨ joined = [] then part
  else if joined.getLast? = some '/' then joined ++ part
  else joined ++ '/' :: part

theorem join_eq_foldl (path : Text) (parts : List Text) :
    join path parts = parts.foldl joinStep path :=
  rfl

/-- The slashes before the first other character. -/
theorem slashes (text : Text) :
    ∃ count rest, text = List.replicate count '/' ++ rest ∧ rest.head? ≠ some '/' := by
  induction text with
  | nil => exact ⟨0, [], rfl, by simp⟩
  | cons head tail inductionHypothesis =>
      by_cases slash : head = '/'
      · have ⟨count, rest, equal, plain⟩ := inductionHypothesis
        exact ⟨count + 1, rest, by rw [slash, equal, List.replicate_succ, List.cons_append],
          plain⟩
      · exact ⟨0, head :: tail, rfl, by simpa using slash⟩

/-- One or two slashes are the root; of more, the first one. -/
theorem splitRoot_slashes (count : ℕ) {rest : Text} (plain : rest.head? ≠ some '/') :
    splitRoot (List.replicate count '/' ++ rest) =
      if count ≤ 2 then (List.replicate count '/', rest)
      else (['/'], List.replicate (count - 1) '/' ++ rest) := by
  match count with
  | 0 | 1 | 2 =>
    cases rest with
    | nil => rfl
    | cons head tail =>
        have differs : head ≠ '/' := by simpa using plain
        simp [splitRoot, List.replicate, differs]
  | count + 3 =>
    rw [if_neg (by omega)]
    rfl

/-- What starts with no slash goes to the rest. -/
theorem splitRoot_append (text : Text) {more : Text} (plain : more.head? ≠ some '/') :
    splitRoot (text ++ more) = ((splitRoot text).1, (splitRoot text).2 ++ more) := by
  have ⟨count, rest, equal, start⟩ := slashes text
  have start' : (rest ++ more).head? ≠ some '/' := by
    cases rest with
    | nil => exact plain
    | cons head tail => exact start
  rw [equal, List.append_assoc, splitRoot_slashes count start', splitRoot_slashes count start]
  split
  · rfl
  · rw [List.append_assoc]

/-- The root and the rest are the text. -/
theorem splitRoot_concat (text : Text) : (splitRoot text).1 ++ (splitRoot text).2 = text := by
  have ⟨count, rest, equal, start⟩ := slashes text
  rw [equal, splitRoot_slashes count start]
  split
  · rfl
  · next many =>
    have one : count = count - 1 + 1 := by omega
    rw [← List.append_assoc, List.singleton_append, ← List.replicate_succ, ← one]

theorem head_of_proper {separator : Char} {name : Text} (proper : Proper separator name) :
    name.head? ≠ some separator := fun head =>
  proper.2.2 (List.mem_of_mem_head? head)

theorem parse_append (text : Text) {more : Text} (plain : more.head? ≠ some '/') :
    parse (text ++ more) =
      ⟨[], (splitRoot text).1, names '/' ((splitRoot text).2 ++ more)⟩ := by
  rw [parse, splitRoot_append text plain]

theorem parse_joinStep (text : Text) {name : Text} (proper : Proper '/' name) :
    parse (joinStep text name) = { parse text with tail := (parse text).tail ++ [name] } := by
  have start := head_of_proper proper
  have single := names_of_proper proper
  unfold joinStep
  induction text using List.reverseRecOn with
  | nil =>
      rw [if_pos (Or.inr rfl)]
      exact (parse_append [] start).trans (congrArg _ single)
  | append_singleton init last _ =>
      have other : ¬(name.head? = some '/' ∨ init ++ [last] = []) := by simp [start]
      rw [if_neg other, List.getLast?_concat]
      by_cases slash : last = '/'
      · have closed : ∀ last' ∈ (splitRoot (init ++ [last])).2.getLast?, last' = '/' := by
          intro last' member
          have ends := congrArg List.getLast? (splitRoot_concat (init ++ [last]))
          rw [List.getLast?_append, Option.mem_def.mp member, List.getLast?_concat] at ends
          exact (Option.some.inj ends).trans slash
        rw [if_pos (congrArg some slash), parse_append _ start,
          names_append_of_closed closed, single]
        rfl
      · have next : (last :: '/' :: name).head? ≠ some '/' := by simpa using slash
        have alone : [last].head? ≠ some '/' := by simpa using slash
        have split : names '/' (((splitRoot init).2 ++ [last]) ++ '/' :: name) = _ :=
          names_append _ name
        rw [List.append_assoc, List.singleton_append, single] at split
        rw [if_neg (by simpa using slash), List.append_assoc, List.singleton_append,
          parse_append init next, parse_append init alone, split]

/-- Joining puts the names behind those of the path. -/
theorem parse_join (root : Text) {parts : List Text}
    (proper : ∀ part ∈ parts, Proper '/' part) :
    parse (join root parts) = { parse root with tail := (parse root).tail ++ parts } := by
  rw [join_eq_foldl]
  induction parts generalizing root with
  | nil => simp
  | cons part rest inductionHypothesis =>
      rw [List.foldl_cons, inductionHypothesis _ fun other member =>
        proper other (List.mem_cons_of_mem part member),
          parse_joinStep root (proper part List.mem_cons_self)]
      simp

theorem parse_root_names (text : Text) {items : List Text}
    (proper : ∀ name ∈ items, Proper '/' name) :
    parse ((parse text).root ++ joinNames '/' items) = ⟨[], (parse text).root, items⟩ := by
  have root : splitRoot (splitRoot text).1 = ((splitRoot text).1, []) := by
    have ⟨count, rest, equal, start⟩ := slashes text
    rw [equal, splitRoot_slashes count start]
    split
    · next few => match count, few with
      | 0, _ | 1, _ | 2, _ => rfl
    · rfl
  show parse ((splitRoot text).1 ++ _) = _
  rw [parse_append _ (head_joinNames proper), root, List.nil_append, names_joinNames proper]
  rfl

/-- What is written of a path is read back. -/
theorem parse_format (text : Text) :
    parse ((parse text).format '/' fun _ => false) = parse text := by
  have proper : ∀ name ∈ (parse text).tail, Proper '/' name := fun name => mem_names
  have read : parse ((parse text).root ++ joinNames '/' (parse text).tail) = parse text :=
    parse_root_names text proper
  have drive : (parse text).drive = [] := rfl
  unfold Parsed.format
  rw [drive, List.nil_append]
  by_cases rooted : (parse text).root = []
  · rw [if_neg (by simp [rooted])]
    rw [rooted, List.nil_append] at read
    cases tail : (parse text).tail with
    | nil =>
        have dot : parse ['.'] = parse (joinNames '/' []) := by decide
        rw [tail] at read
        exact dot.trans read
    | cons first rest =>
        rw [tail] at read
        exact read
  · rw [if_pos (Or.inr rooted), read]

theorem parse_joined (root : Text) {parts : List Text}
    (proper : ∀ part ∈ parts, Proper '/' part) :
    parse (joined root parts) = { parse root with tail := (parse root).tail ++ parts } := by
  rw [joined, parse_format, parse_join root proper]

/-- A joined path ends with the last name, behind a slash. -/
theorem joined_concat (root : Text) {parts : List Text} {name : Text} (nonempty : parts ≠ [])
    (proper : ∀ part ∈ parts ++ [name], Proper '/' part) :
    ∃ front, joined root (parts ++ [name]) = front ++ '/' :: name := by
  have parsed := parse_join root proper
  have drive : (parse root).drive = [] := rfl
  have present : (parse root).tail ++ parts ≠ [] := by simp [nonempty]
  have names : joinNames '/' (((parse root).tail ++ parts) ++ [name]) = _ :=
    joinNames_concat present name
  rw [joined, parsed, Parsed.format, ← List.append_assoc, drive]
  dsimp only
  split
  · exact ⟨[] ++ (parse root).root ++ joinNames '/' ((parse root).tail ++ parts), by
      rw [names, List.append_assoc, List.append_assoc, List.append_assoc]⟩
  · cases tail : (parse root).tail ++ parts with
    | nil => exact absurd tail present
    | cons first rest =>
        rw [tail] at names
        exact ⟨joinNames '/' (first :: rest), names⟩

/-- A joined path holds characters of its parts, and slashes and dots. -/
theorem mem_joined {root : Text} {parts : List Text} {character : Char}
    (proper : ∀ part ∈ parts, Proper '/' part) (member : character ∈ joined root parts) :
    character = '/' ∨ character = '.' ∨ character ∈ root ∨
      ∃ part ∈ parts, character ∈ part := by
  have drive : (parse root).drive = [] := rfl
  have inRoot : ∀ character ∈ (parse root).root, character ∈ root := by
    intro character member
    rw [← splitRoot_concat root]
    exact List.mem_append_left _ member
  have inTail : ∀ name ∈ (parse root).tail, ∀ character ∈ name, character ∈ root := by
    intro name listed character inside
    rw [← splitRoot_concat root]
    exact List.mem_append_right _ ((plain_piece (List.mem_filter.mp listed).1).2 inside)
  have ofNames : character ∈ joinNames '/' ((parse root).tail ++ parts) →
      character = '/' ∨ character = '.' ∨ character ∈ root ∨
        ∃ part ∈ parts, character ∈ part := by
    intro joined
    rcases mem_joinNames joined with slash | ⟨name, listed, inside⟩
    · exact Or.inl slash
    · rcases List.mem_append.mp listed with old | new
      · exact Or.inr (Or.inr (Or.inl (inTail name old character inside)))
      · exact Or.inr (Or.inr (Or.inr ⟨name, new, inside⟩))
  rw [joined, parse_join root proper, Parsed.format, drive] at member
  dsimp only at member
  split at member
  · rcases List.mem_append.mp member with front | names
    · exact Or.inr (Or.inr (Or.inl (inRoot character front)))
    · exact ofNames names
  · cases tail : (parse root).tail ++ parts with
    | nil =>
        rw [tail] at member
        exact Or.inr (Or.inl (List.mem_singleton.mp member))
    | cons first rest =>
        rw [tail] at member ofNames
        exact ofNames member

end Posix

end RetroBrowser.Foundation.PurePath
