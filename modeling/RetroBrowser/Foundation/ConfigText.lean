import RetroBrowser.Foundation.Splitting

/-!
Owns the lines of a configuration file, `key = "text"`: writing a setting with a
backslash before backslashes and quotes, and reading the settings of a section.

Contract: what is written with keys of letters, digits and underscores, and with
texts without line ends, is read back.
-/

namespace RetroBrowser.Foundation.ConfigText

abbrev Text := List Char

/-- A backslash before each backslash and quote. -/
def escape (text : Text) : Text :=
  text.flatMap fun character =>
    if character = '\\' ∨ character = '"' then ['\\', character] else [character]

/-- The line of a setting. -/
def writeSetting (setting : Text × Text) : Text :=
  setting.1 ++ " = ".toList ++ '"' :: (escape setting.2 ++ ['"'])

/-- The text up to the closing quote, and what follows. -/
def readText : Text → Option (Text × Text)
  | '"' :: rest => some ([], rest)
  | '\\' :: character :: rest =>
    if character = '\\' ∨ character = '"' then
      (readText rest).map fun (text, after) => (character :: text, after)
    else none
  | ['\\'] => none
  | character :: rest => (readText rest).map fun (text, after) => (character :: text, after)
  | [] => none

def isKeyCharacter (character : Char) : Bool := character.isAlphanum || character == '_'

/-- The setting of a line. -/
def readSetting (line : Text) : Option (Text × Text) :=
  match line.dropWhile isKeyCharacter with
  | ' ' :: '=' :: ' ' :: '"' :: rest =>
    match readText rest with
    | some (text, []) => some (line.takeWhile isKeyCharacter, text)
    | _ => none
  | _ => none

/-- The settings of a section; empty lines have none. -/
def readSettings (lines : List Text) : Option (List (Text × Text)) :=
  (lines.filter fun line => !line.isEmpty).mapM readSetting

/-- The lines after the last line that is the heading. -/
def sectionAfter (heading text : Text) : List Text :=
  ((text.splitOn '\n').reverse.takeWhile fun line => line ≠ heading).reverse

/-- A key, and a text without line ends. -/
def Writable (setting : Text × Text) : Prop :=
  setting.1 ≠ [] ∧ (∀ character ∈ setting.1, isKeyCharacter character = true) ∧
    '\n' ∉ setting.2

theorem escape_special {character : Char} (special : character = '\\' ∨ character = '"')
    (rest : Text) : escape (character :: rest) = '\\' :: character :: escape rest := by
  simp [escape, special]

theorem escape_plain {character : Char} (plain : ¬(character = '\\' ∨ character = '"'))
    (rest : Text) : escape (character :: rest) = character :: escape rest := by
  simp [escape, plain]

theorem readText_plain {character : Char} (plain : ¬(character = '\\' ∨ character = '"'))
    (rest : Text) : readText (character :: rest) =
      (readText rest).map fun (text, after) => (character :: text, after) := by
  rw [not_or] at plain
  rw [readText]
  · exact plain.2
  · exact fun _ _ same => absurd same plain.1
  · exact fun same => absurd same plain.1

theorem readText_escape (text rest : Text) :
    readText (escape text ++ '"' :: rest) = some (text, rest) := by
  induction text with
  | nil => rfl
  | cons character others inductionHypothesis =>
      by_cases special : character = '\\' ∨ character = '"'
      · rw [escape_special special, List.cons_append, List.cons_append, readText, if_pos special,
          inductionHypothesis]
        rfl
      · rw [escape_plain special, List.cons_append, readText_plain special, inductionHypothesis]
        rfl

theorem mem_escape {character : Char} {text : Text} (member : character ∈ escape text) :
    character = '\\' ∨ character ∈ text := by
  have ⟨source, inside, written⟩ := List.mem_flatMap.mp member
  split at written
  · rcases List.mem_cons.mp written with slash | own
    · exact Or.inl slash
    · exact Or.inr (List.mem_singleton.mp own ▸ inside)
  · exact Or.inr (List.mem_singleton.mp written ▸ inside)

theorem readSetting_writeSetting {setting : Text × Text} (writable : Writable setting) :
    readSetting (writeSetting setting) = some setting := by
  have ⟨key, text⟩ := setting
  have ⟨_, plain, _⟩ := writable
  have read : readText (escape text ++ ['"']) = some (text, []) := readText_escape text []
  have start : (" = ".toList ++ '"' :: (escape text ++ ['"'])) =
      ' ' :: '=' :: ' ' :: '"' :: (escape text ++ ['"']) := rfl
  have blank : isKeyCharacter ' ' = false := by decide
  unfold readSetting writeSetting
  rw [List.append_assoc, start, List.dropWhile_append_of_pos plain,
    List.takeWhile_append_of_pos plain,
    List.dropWhile_cons_of_neg (by simp [blank]), List.takeWhile_cons_of_neg (by simp [blank]),
    List.append_nil]
  simp only [read]

/-- A line starts as its key does. -/
theorem head_writeSetting {setting : Text × Text} (writable : Writable setting) :
    ∃ character ∈ (writeSetting setting).head?, isKeyCharacter character = true := by
  have ⟨key, text⟩ := setting
  have ⟨nonempty, plain, _⟩ := writable
  cases key with
  | nil => exact absurd rfl nonempty
  | cons head tail => exact ⟨head, rfl, plain head List.mem_cons_self⟩

theorem newline_writeSetting {setting : Text × Text} (writable : Writable setting) :
    '\n' ∉ writeSetting setting := by
  have ⟨_, plain, text⟩ := writable
  intro member
  have middle : '\n' ∉ " = ".toList := by decide
  rcases List.mem_append.mp member with front | quoted
  · rcases List.mem_append.mp front with key | between
    · exact absurd (plain '\n' key) (by decide)
    · exact middle between
  · rcases List.mem_cons.mp quoted with quote | body
    · exact absurd quote (by decide)
    · rcases List.mem_append.mp body with escaped | quote
      · exact (mem_escape escaped).elim (by decide) text
      · exact absurd (List.mem_singleton.mp quote) (by decide)

theorem readSettings_lines {settings : List (Text × Text)}
    (writable : ∀ setting ∈ settings, Writable setting) :
    readSettings (settings.map writeSetting ++ [[]]) = some settings := by
  unfold readSettings
  have lines : (settings.map writeSetting ++ [[]]).filter (fun line => !line.isEmpty) =
      settings.map writeSetting := by
    rw [List.filter_append, List.filter_eq_self.mpr]
    · exact List.append_nil _
    · intro line member
      have ⟨setting, listed, equal⟩ := List.mem_map.mp member
      have ⟨character, head, _⟩ := head_writeSetting (writable setting listed)
      rw [equal] at head
      cases line with
      | nil => exact absurd head (by simp)
      | cons first rest => rfl
  rw [lines]
  clear lines
  induction settings with
  | nil => rfl
  | cons setting rest inductionHypothesis =>
      have others := inductionHypothesis fun other member =>
        writable other (List.mem_cons_of_mem setting member)
      rw [List.map_cons, List.mapM_cons, others,
        readSetting_writeSetting (writable setting List.mem_cons_self)]
      rfl

/-- What stands behind the last occurrence. -/
theorem takeWhile_reverse {heading : Text} {lines : List Text} (absent : heading ∉ lines)
    (before : List Text) :
    ((before ++ heading :: lines).reverse.takeWhile fun line => line ≠ heading).reverse =
      lines := by
  have others : ∀ line ∈ lines.reverse, decide (line ≠ heading) = true := by
    intro line member
    exact decide_eq_true fun same => absent (same ▸ List.mem_reverse.mp member)
  rw [List.reverse_append, List.reverse_cons, List.append_assoc,
    List.takeWhile_append_of_pos others, List.singleton_append,
    List.takeWhile_cons_of_neg (by simp), List.append_nil, List.reverse_reverse]

/-- A section of written settings is read back, whatever text is before its heading. -/
theorem readSettings_section {heading : Text} (plain : '\n' ∉ heading)
    (start : ∃ character ∈ heading.head?, isKeyCharacter character = false) (before : Text)
    {settings : List (Text × Text)} (present : settings ≠ [])
    (writable : ∀ setting ∈ settings, Writable setting) :
    readSettings (sectionAfter heading (before ++ '\n' :: (heading ++ '\n' ::
      (['\n'].intercalate (settings.map writeSetting) ++ ['\n'])))) = some settings := by
  have split : (['\n'].intercalate (settings.map writeSetting) ++ ['\n']).splitOn '\n' =
      settings.map writeSetting ++ [[]] := by
    have lines : ∀ line ∈ settings.map writeSetting, '\n' ∉ line := by
      intro line member
      have ⟨setting, listed, equal⟩ := List.mem_map.mp member
      exact equal ▸ newline_writeSetting (writable setting listed)
    rw [List.splitOn_append_cons_self, List.splitOn_nil,
      List.splitOn_intercalate '\n' lines (by simpa using present)]
  have absent : heading ∉ settings.map writeSetting ++ [[]] := by
    intro member
    have ⟨first, head, noKey⟩ := start
    rcases List.mem_append.mp member with listed | empty
    · have ⟨setting, own, equal⟩ := List.mem_map.mp listed
      have ⟨first', head', isKey⟩ := head_writeSetting (writable setting own)
      rw [equal, Option.mem_def.mp head, Option.mem_def, Option.some.injEq] at head'
      rw [head', isKey] at noKey
      exact Bool.noConfusion noKey
    · rw [List.mem_singleton.mp empty] at head
      exact absurd head (by simp)
  unfold sectionAfter
  rw [List.splitOn_append_cons_self, List.splitOn_append_cons_self_of_not_mem plain, split,
    takeWhile_reverse absent, readSettings_lines writable]

end RetroBrowser.Foundation.ConfigText
