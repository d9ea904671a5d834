import RetroBrowser.Foundation.JsonReader
import RetroBrowser.SessionManager.Providers.Execution.RuntimeAgent

/-!
Owns how the adapters classify the answers of RomM and of Runtime Agent, from the bytes on: what
they return, and which errors leave them.

Contract: an error that is handled becomes an `OrchestrationError`; the errors of each
part are named by a lemma of their own. Of what `json.loads` raises, two errors are handled.
-/

namespace RetroBrowser.SessionManager

open RetroBrowser.Foundation

/-! ## Fallible computations -/

section Except

variable {α β : Type} {error : Error}

theorem bind_error {first : Except Error β} {next : β → Except Error α}
    (raises : (first >>= next) = .error error) :
    first = .error error ∨ ∃ value, first = .ok value ∧ next value = .error error := by
  cases first with
  | error other => exact Or.inl (congrArg Except.error (Except.error.inj raises))
  | ok value => exact Or.inr ⟨value, rfl, raises⟩

theorem bind_ok {first : Except Error β} {next : β → Except Error α} {result : α} :
    (first >>= next) = .ok result ↔ ∃ value, first = .ok value ∧ next value = .ok result := by
  cases first with
  | error other =>
      exact ⟨fun equal => (nomatch equal), fun ⟨_, equal, _⟩ => (nomatch equal)⟩
  | ok value =>
      exact ⟨fun equal => ⟨value, rfl, equal⟩, fun ⟨_, same, equal⟩ =>
        Except.ok.inj same ▸ equal⟩

theorem mapError_ok {ε : Type} {first : Except ε α} {value : α} {seen : ε → Error} :
    first.mapError seen = .ok value ↔ first = .ok value := by
  cases first with
  | ok found =>
      exact ⟨fun equal => congrArg Except.ok (Except.ok.inj equal),
        fun equal => congrArg Except.ok (Except.ok.inj equal)⟩
  | error error => exact ⟨nofun, nofun⟩

theorem mapError_error {ε : Type} {first : Except ε α} {seen : ε → Error}
    (raises : first.mapError seen = .error error) :
    ∃ raised, first = .error raised ∧ seen raised = error := by
  cases first with
  | ok found => exact nomatch raises
  | error raised => exact ⟨raised, rfl, Except.error.inj raises⟩

theorem translating_ok {handles : Error → Bool} {replacement : Error}
    {program : Except Error α} {result : α} :
    translating handles replacement program = .ok result ↔ program = .ok result := by
  cases program with
  | ok value => rfl
  | error other => exact ⟨fun equal => (nomatch equal), fun equal => (nomatch equal)⟩

theorem translating_error {handles : Error → Bool} {replacement : Error}
    {program : Except Error α} (raises : translating handles replacement program = .error error) :
    error = replacement ∨ program = .error error ∧ handles error = false := by
  cases program with
  | ok value => exact nomatch raises
  | error other =>
      have same := Except.error.inj raises
      by_cases handled : handles other = true
      · rw [if_pos handled] at same
        exact Or.inl same.symm
      · rw [if_neg handled] at same
        rw [← same]
        exact Or.inr ⟨rfl, Bool.eq_false_iff.mpr handled⟩

/-- A traversal raises what its first refused item raises. -/
theorem mapM_error {program : β → Except Error α} {items : List β} :
    items.mapM program = .error error ↔ ∃ before item after, items = before ++ item :: after ∧
      (∀ earlier ∈ before, ∃ value, program earlier = .ok value) ∧
        program item = .error error := by
  induction items with
  | nil =>
      refine iff_of_false nofun ?_
      rintro ⟨before, item, after, split, _⟩
      cases before <;> cases split
  | cons first rest inductionHypothesis =>
      rw [List.mapM_cons]
      simp only [List.cons_eq_append_iff]
      cases begins : program first with
      | error refused =>
          show (Except.error refused : Except Error (List α)) = .error error ↔ _
          rw [Except.error.injEq]
          constructor
          · rintro rfl
            exact ⟨[], first, rest, Or.inl ⟨rfl, rfl⟩, nofun, begins⟩
          · rintro ⟨before, item, after, ⟨rfl, split⟩ | ⟨_, rfl, _⟩, earlier, raises⟩
            · rw [(List.cons.inj split).1, begins] at raises
              exact Except.error.inj raises
            · obtain ⟨value, returned⟩ := earlier first List.mem_cons_self
              exact nomatch begins.symm.trans returned
      | ok value =>
          have goesOn : (Except.ok value >>= fun value => rest.mapM program >>= fun values =>
              pure (value :: values)) = .error error ↔ rest.mapM program = .error error := by
            cases rest.mapM program with
            | error refused => exact Iff.rfl
            | ok values => exact iff_of_false nofun nofun
          rw [goesOn, inductionHypothesis]
          constructor
          · rintro ⟨before, item, after, rfl, earlier, raises⟩
            refine ⟨first :: before, item, after, Or.inr ⟨before, rfl, rfl⟩, ?_, raises⟩
            intro other member
            rcases List.mem_cons.mp member with rfl | inside
            · exact ⟨value, begins⟩
            · exact earlier other inside
          · rintro ⟨before, item, after, ⟨rfl, split⟩ | ⟨before', rfl, split⟩, earlier, raises⟩
            · rw [(List.cons.inj split).1, begins] at raises
              exact nomatch raises
            · exact ⟨before', item, after, split,
                fun other inside => earlier other (List.mem_cons_of_mem _ inside), raises⟩

end Except

/-- What is said of every answer is said of the one there is. -/
theorem forall_answer_iff {status : ℤ} {raw : List UInt8} {property : ℤ → List UInt8 → Prop} :
    (∀ status' raw', some (status, raw) = some (status', raw') → property status' raw') ↔
      property status raw := by
  refine ⟨fun all => all status raw rfl, fun holds _ _ same => ?_⟩
  cases same
  exact holds

/-! ## Documents -/

/-- `json.loads` returns a document or raises what the adapters handle. -/
def Reads (loads : Loads) (raw : List UInt8) : Prop :=
  loads raw ≠ .error .digits ∧ loads raw ≠ .error .recursion

theorem reads_of_ok {loads : Loads} {raw : List UInt8} {document : PythonValue}
    (read : loads raw = .ok document) : Reads loads raw := by
  unfold Reads
  rw [read]
  exact ⟨nofun, nofun⟩

theorem readDocument_ok {loads : Loads} {replacement : Error} {raw : List UInt8}
    {document : PythonValue} (read : loads raw = .ok document) :
    readDocument loads replacement raw = .ok document := by
  unfold readDocument
  rw [read]

/-- What is raised of bytes that are no document. -/
theorem readDocument_error {loads : Loads} (replacement : Error) {raw : List UInt8}
    {error : LoadsError} (raises : loads raw = .error error) :
    readDocument loads replacement raw = .error replacement ∧ Reads loads raw ∨
      (∃ escaped, readDocument loads replacement raw = .error escaped ∧ escaped ≠ .key ∧
        escaped.isOrchestration = false) ∧ ¬Reads loads raw := by
  unfold readDocument Reads
  rw [raises]
  cases error with
  | unicodeDecode | jsonDecode => exact Or.inl ⟨rfl, nofun, nofun⟩
  | digits => exact Or.inr ⟨⟨_, rfl, nofun, rfl⟩, fun reads => reads.1 rfl⟩
  | recursion => exact Or.inr ⟨⟨_, rfl, nofun, rfl⟩, fun reads => reads.2 rfl⟩

/-- `str()` raises `RecursionError` only. -/
theorem text_error {repr : PythonValue → Option String} {value : PythonValue} {error : Error}
    (raises : (value.toStr repr).mapError Error.ofRead = .error error) : value.TooDeep repr := by
  obtain ⟨raised, read, _⟩ := mapError_error raises
  exact (PythonValue.toStr_error read).2

theorem text_tooDeep {repr : PythonValue → Option String} {value : PythonValue}
    (deep : value.TooDeep repr) :
    (value.toStr repr).mapError Error.ofRead = .error (.other "RecursionError") := by
  rw [deep]
  rfl

/-! ## RomM -/

namespace HttpRomMProvider

variable {provider : HttpRomMProvider} {members : List (PythonStr × PythonValue)} {key : String}
variable {error : Error}

theorem item_ok {value : PythonValue} :
    item members key = .ok value ↔ members.lookup (.text key) = some value := by
  unfold item PythonValue.item
  cases members.lookup (.text key) with
  | none => exact ⟨nofun, nofun⟩
  | some found =>
      exact ⟨fun equal => congrArg some (Except.ok.inj equal),
        fun equal => congrArg Except.ok (Option.some.inj equal)⟩

theorem item_error (raises : item members key = .error error) : error = .key := by
  unfold item PythonValue.item at raises
  cases found : members.lookup (.text key) with
  | none => rw [found] at raises; exact (Except.error.inj raises).symm
  | some value => rw [found] at raises; exact nomatch raises

theorem item_bind {α : Type} {next : PythonValue → Except Error α} {value : PythonValue}
    (found : members.lookup (.text key) = some value) :
    (item members key >>= next) = next value := by
  rw [item_ok.mpr found]
  rfl

theorem item_bind_ok {α : Type} {next : PythonValue → Except Error α} {result : α} :
    (item members key >>= next) = .ok result ↔
      ∃ value, members.lookup (.text key) = some value ∧ next value = .ok result := by
  simp only [bind_ok, item_ok]

theorem item_bind_error {α : Type} {next : PythonValue → Except Error α}
    (raises : (item members key >>= next) = .error error) : error = .key ∨
      ∃ value, members.lookup (.text key) = some value ∧ next value = .error error := by
  rcases bind_error raises with absent | ⟨value, found, raised⟩
  · exact Or.inl (item_error absent)
  · exact Or.inr ⟨value, item_ok.mp found, raised⟩

/-- Reading a number raises an error that is handled, but for an infinite float. -/
theorem toInt_error {value : PythonValue} (raises : toInt value = .error error) :
    handlesRecord error = true ∨ ∃ negative, value = .float (.infinite negative) := by
  obtain ⟨raised, read, same⟩ := mapError_error raises
  rcases PythonValue.toInt_error read with ⟨message, type | value⟩ | infinite
  · exact Or.inl (same ▸ type ▸ rfl)
  · exact Or.inl (same ▸ value ▸ rfl)
  · exact Or.inr infinite

theorem resolveBeneath_error {relative : PythonStr}
    (raises : provider.resolveBeneath relative = .error error) :
    error.isOrchestration = true ∨ error.isValueError = true := by
  rcases translating_error raises with replaced | ⟨raised, unhandled⟩
  · exact Or.inl (replaced ▸ rfl)
  · refine Or.inr ?_
    rcases bind_error raised with root | ⟨root, _, rest⟩
    · exact (provider.files.lawful _ _ root).resolve_left (by simp [unhandled])
    · rcases bind_error rest with resolved | ⟨resolved, _, done⟩
      · unfold Files.resolveJoined at resolved
        split at resolved
        · exact (provider.files.lawful _ _ resolved).resolve_left (by simp [unhandled])
        · exact (provider.files.lawfulOdd _ _ _ resolved).resolve_left (by simp [unhandled])
      · exact nomatch done

theorem canonicalPath_error {value : PythonValue}
    (raises : provider.canonicalPath value = .error error) :
    error.isOrchestration = true ∨ error.isValueError = true := by
  unfold canonicalPath at raises
  split at raises
  · dsimp only at raises
    split_ifs at raises
    · exact Or.inl (Except.error.inj raises ▸ rfl)
    · rcases bind_error raises with unresolved | ⟨⟨root, resolved⟩, _, rest⟩
      · exact resolveBeneath_error unresolved
      · dsimp only at rest
        split_ifs at rest
        · exact Or.inl (Except.error.inj rest ▸ rfl)
        · exact nomatch rest
  · exact Or.inl (Except.error.inj raises ▸ rfl)

/-- The path is beneath the ROM root. -/
def Beneath (provider : HttpRomMProvider) (path : PurePath.Resolved) : Prop :=
  ∃ root, provider.files.resolve provider.romRoot.toList = .ok (.path root) ∧
    path.isRelativeTo root = true

/-- The root of a path that resolves is the resolved ROM root. -/
theorem resolveBeneath_root {relative : PythonStr} {root resolved : Place}
    (returns : provider.resolveBeneath relative = .ok (root, resolved)) :
    provider.files.resolve provider.romRoot.toList = .ok root := by
  obtain ⟨found, resolves, rest⟩ := bind_ok.mp (translating_ok.mp returns)
  obtain ⟨_, _, pair⟩ := bind_ok.mp rest
  have same : found = root := congrArg Prod.fst (Except.ok.inj pair)
  exact same ▸ resolves

theorem canonicalPath_beneath {value : PythonValue} {path : PurePath.Resolved}
    (returns : provider.canonicalPath value = .ok (.path path)) : provider.Beneath path := by
  unfold canonicalPath at returns
  split at returns
  · dsimp only at returns
    split_ifs at returns
    obtain ⟨⟨root, resolved⟩, found, rest⟩ := bind_ok.mp returns
    dsimp only at rest
    split_ifs at rest with outside
    have same : resolved = .path path := Except.ok.inj rest
    rw [not_or, Bool.not_eq_false, Bool.not_eq_false, same] at outside
    have resolves := resolveBeneath_root found
    cases root with
    | path root => exact ⟨root, resolves, outside.2⟩
    | odd name beneath => exact nomatch outside.2
  · exact nomatch returns

/-- The members describe these fields: they are read from them. -/
structure Describes (provider : HttpRomMProvider) (members : List (PythonStr × PythonValue))
    (fields : GameFields) : Prop where
  rommRomId : ∃ value, members.lookup (.text "romm_rom_id") = some value ∧
    value.toInt = .ok fields.rommRomId
  platform : ∃ value, members.lookup (.text "platform") = some value ∧
    value.toStr provider.repr = .ok fields.platform
  romSha256 : ∃ value, members.lookup (.text "rom_sha256") = some value ∧
    value.toStr provider.repr = .ok fields.romSha256
  canonicalPath : ∃ value, members.lookup (.text "relative_path") = some value ∧
    ∃ path, provider.canonicalPath value = .ok path ∧ path.str = fields.canonicalPath

theorem fields_ok {fields : GameFields} :
    provider.fields members = .ok fields ↔ provider.Describes members fields := by
  constructor
  · intro returns
    obtain ⟨number, readNumber, rest⟩ := bind_ok.mp returns
    obtain ⟨value, foundNumber, toNumber⟩ := item_bind_ok.mp readNumber
    obtain ⟨platform, readPlatform, rest'⟩ := bind_ok.mp rest
    obtain ⟨name, foundPlatform, toPlatform⟩ := item_bind_ok.mp readPlatform
    obtain ⟨digest, readDigest, rest''⟩ := bind_ok.mp rest'
    obtain ⟨sum, foundDigest, toDigest⟩ := item_bind_ok.mp readDigest
    obtain ⟨path, readPath, built⟩ := bind_ok.mp rest''
    obtain ⟨relative, foundRelative, canonical⟩ := item_bind_ok.mp readPath
    rw [← Except.ok.inj built]
    exact
      { rommRomId := ⟨value, foundNumber, mapError_ok.mp toNumber⟩
        platform := ⟨name, foundPlatform, mapError_ok.mp toPlatform⟩
        romSha256 := ⟨sum, foundDigest, mapError_ok.mp toDigest⟩
        canonicalPath := ⟨relative, foundRelative, path, canonical, rfl⟩ }
  · rintro ⟨⟨value, foundNumber, toNumber⟩, ⟨name, foundPlatform, toPlatform⟩,
      ⟨sum, foundDigest, toDigest⟩, ⟨relative, foundRelative, path, canonical, pathText⟩⟩
    refine bind_ok.mpr ⟨fields.rommRomId,
      item_bind_ok.mpr ⟨value, foundNumber, mapError_ok.mpr toNumber⟩, ?_⟩
    refine bind_ok.mpr ⟨fields.platform,
      item_bind_ok.mpr ⟨name, foundPlatform, mapError_ok.mpr toPlatform⟩, ?_⟩
    refine bind_ok.mpr ⟨fields.romSha256,
      item_bind_ok.mpr ⟨sum, foundDigest, mapError_ok.mpr toDigest⟩, ?_⟩
    refine bind_ok.mpr ⟨path, item_bind_ok.mpr ⟨relative, foundRelative, canonical⟩, ?_⟩
    rw [pathText]
    rfl

/-- The number is there and is infinite. -/
def Overflows (members : List (PythonStr × PythonValue)) : Prop :=
  ∃ negative, members.lookup (.text "romm_rom_id") = some (.float (.infinite negative))

/-- The number is read, and of a value that is there the text is taken, for which it is nested
too deeply. -/
def Overwhelms (provider : HttpRomMProvider) (members : List (PythonStr × PythonValue)) : Prop :=
  (∃ value, members.lookup (.text "romm_rom_id") = some value ∧
    ∃ number, value.toInt = .ok number) ∧
  ∃ platform, members.lookup (.text "platform") = some platform ∧
    (platform.TooDeep provider.repr ∨ ∃ digest,
      members.lookup (.text "rom_sha256") = some digest ∧ digest.TooDeep provider.repr)

/-- The errors of the guarded block. -/
theorem fields_error (raises : provider.fields members = .error error) :
    error.isOrchestration = true ∨ handlesRecord error = true ∨ Overflows members ∨
      provider.Overwhelms members := by
  have missing : error = .key → handlesRecord error = true := fun key => key ▸ rfl
  rcases bind_error raises with raised | ⟨number, readNumber, rest⟩
  · rcases item_bind_error raised with absent | ⟨value, found, unread⟩
    · exact Or.inr (Or.inl (missing absent))
    · rcases toInt_error unread with handled | ⟨negative, infinite⟩
      · exact Or.inr (Or.inl handled)
      · exact Or.inr (Or.inr (Or.inl ⟨negative, infinite ▸ found⟩))
  obtain ⟨value, foundNumber, toNumber⟩ := item_bind_ok.mp readNumber
  have read := mapError_ok.mp toNumber
  rcases bind_error rest with raised | ⟨platform, readPlatform, rest'⟩
  · rcases item_bind_error raised with absent | ⟨name, found, unread⟩
    · exact Or.inr (Or.inl (missing absent))
    · exact Or.inr (Or.inr (Or.inr
        ⟨⟨value, foundNumber, number, read⟩, name, found, Or.inl (text_error unread)⟩))
  obtain ⟨name, foundPlatform, _⟩ := item_bind_ok.mp readPlatform
  rcases bind_error rest' with raised | ⟨digest, _, rest''⟩
  · rcases item_bind_error raised with absent | ⟨sum, found, unread⟩
    · exact Or.inr (Or.inl (missing absent))
    · exact Or.inr (Or.inr (Or.inr ⟨⟨value, foundNumber, number, read⟩, name, foundPlatform,
        Or.inr ⟨sum, found, text_error unread⟩⟩))
  rcases bind_error rest'' with raised | ⟨path, _, built⟩
  · rcases item_bind_error raised with absent | ⟨relative, _, uncanonical⟩
    · exact Or.inr (Or.inl (missing absent))
    · rcases canonicalPath_error uncanonical with orchestration | value
      · exact Or.inl orchestration
      · exact Or.inr (Or.inl (by simp [handlesRecord, value]))
  · exact nomatch built

theorem fields_overflows (overflows : Overflows members) :
    provider.fields members = .error (.other "OverflowError") := by
  obtain ⟨negative, infinite⟩ := overflows
  unfold fields
  rw [item_bind infinite]
  rfl

theorem fields_overwhelms (overwhelms : provider.Overwhelms members) :
    provider.fields members = .error (.other "RecursionError") := by
  obtain ⟨⟨value, found, number, read⟩, platform, foundPlatform, deep⟩ := overwhelms
  unfold fields
  rw [item_bind found, toInt, mapError_ok.mpr read, item_bind foundPlatform]
  by_cases first : platform.TooDeep provider.repr
  · rw [toStr, text_tooDeep first]
    rfl
  obtain ⟨digest, foundDigest, second⟩ := deep.resolve_left first
  cases text : provider.toStr platform with
  | error raised => exact absurd (text_error text) first
  | ok text =>
      rw [item_bind foundDigest, toStr, text_tooDeep second]
      rfl

theorem construct_ok {fields : GameFields} (valid : fields.valid = true) :
    ∃ record, construct fields = .ok record ∧ record.valid = true ∧
      record.rommRomId = fields.rommRomId ∧
        fields.canonicalPath = .text record.canonicalPath := by
  unfold GameFields.valid at valid
  unfold construct
  cases built : fields.record with
  | none => rw [built] at valid; exact nomatch valid
  | some record =>
      rw [built] at valid
      refine ⟨record, if_pos valid, valid, ?_⟩
      unfold GameFields.record at built
      split at built
      next path _ _ samePath _ =>
        have same := Option.some.inj built
        rw [samePath, ← same]
        exact ⟨rfl, rfl⟩
      next => exact nomatch built

theorem construct_error {fields : GameFields} (refused : fields.valid = false) :
    construct fields = .error (.value "game record validation failed") := by
  unfold GameFields.valid at refused
  unfold construct
  cases built : fields.record with
  | none => rfl
  | some record =>
      rw [built] at refused
      exact if_neg fun valid => Bool.noConfusion (refused.symm.trans valid)

/-- A document of a 200 is not classified: its number is infinite, a value is nested too deeply
for its text, or it describes a record for the right game that the model refuses. -/
def Escapes (provider : HttpRomMProvider) (rommRomId : ℤ) (document : PythonValue) : Prop :=
  ∃ members, document = .dict members ∧
    (Overflows members ∨ provider.Overwhelms members ∨ ∃ fields,
      provider.Describes members fields ∧ fields.rommRomId = rommRomId ∧ fields.valid = false)

/-- The answer is one that the adapter reads as it should: `json.loads` raises nothing that is not
handled, a 404 has a body that is read, and a document of a 200 does not escape. -/
structure Foreseen (provider : HttpRomMProvider) (loads : Loads) (rommRomId status : ℤ)
    (raw : List UInt8) : Prop where
  reads : raw.length ≤ maxResponseBytes → raw ≠ [] → Reads loads raw
  missing : status = 404 → raw = [] ∨
    raw.length ≤ maxResponseBytes ∧ ∃ document, loads raw = .ok document
  document : status = 200 → raw.length ≤ maxResponseBytes → raw ≠ [] → ∀ document,
    loads raw = .ok document → ¬provider.Escapes rommRomId document

/-- A record of the game that its model accepts, at a path beneath the ROM root; or
`KeyError` for 404 and nothing else; or an `OrchestrationError`. -/
def Classified (provider : HttpRomMProvider) (rommRomId : ℤ) (status : Option ℤ) :
    Except Error GameRecord → Prop
  | .ok record => status ≠ some 404 ∧ record.valid = true ∧ record.rommRomId = rommRomId ∧
      ∃ path, provider.Beneath path ∧ record.canonicalPath = String.ofList path.str
  | .error error => (error = .key ↔ status = some 404) ∧
      (error = .key ∨ error.isOrchestration = true)

theorem classified_orchestration {rommRomId : ℤ} {status : Option ℤ} {message : String} :
    provider.Classified rommRomId status (.error (.orchestration message)) ↔
      status ≠ some 404 := by
  constructor
  · intro ⟨key, _⟩ missing
    exact nomatch key.mpr missing
  · intro differs
    exact ⟨iff_of_false nofun differs, Or.inr rfl⟩

theorem not_classified {rommRomId : ℤ} {status : Option ℤ} (other : error ≠ .key)
    (foreign : error.isOrchestration = false) :
    ¬provider.Classified rommRomId status (.error error) := by
  rintro ⟨_, key | orchestration⟩
  · exact other key
  · exact Bool.noConfusion (foreign.symm.trans orchestration)

theorem escapes_dict {rommRomId : ℤ} :
    provider.Escapes rommRomId (.dict members) ↔
      Overflows members ∨ provider.Overwhelms members ∨ ∃ fields,
        provider.fields members = .ok fields ∧ fields.rommRomId = rommRomId ∧
          fields.valid = false := by
  simp only [fields_ok]
  constructor
  · rintro ⟨members', same, escapes⟩
    rw [PythonValue.dict.inj same]
    exact escapes
  · exact fun escapes => ⟨members, rfl, escapes⟩

/-- What becomes of a dictionary. -/
def answered (provider : HttpRomMProvider) (rommRomId : ℤ)
    (members : List (PythonStr × PythonValue)) : Except Error GameRecord := do
  let fields ← translating handlesRecord (.orchestration "RomM returned an invalid game record")
    (provider.fields members)
  if fields.rommRomId ≠ rommRomId then
    throw (.orchestration "RomM returned a mismatched game record")
  else construct fields

/-- An error of the guarded block that is not handled leaves. -/
theorem answered_escapes {rommRomId : ℤ} {name : String}
    (raises : provider.fields members = .error (.other name))
    (unhandled : handlesRecord (.other name) = false) :
    ¬provider.Classified rommRomId (some 200) (provider.answered rommRomId members) := by
  unfold answered translating
  rw [raises]
  show ¬provider.Classified _ _ (.error (if handlesRecord (.other name) = true then _ else _))
  rw [unhandled]
  exact not_classified nofun rfl

theorem answered_classified (provider : HttpRomMProvider) (rommRomId : ℤ)
    (members : List (PythonStr × PythonValue)) :
    provider.Classified rommRomId (some 200) (provider.answered rommRomId members) ↔
      ¬provider.Escapes rommRomId (.dict members) := by
  have found : (some 200 : Option ℤ) ≠ some 404 := by decide
  rw [escapes_dict]
  by_cases overflows : Overflows members
  · exact iff_of_false (answered_escapes (fields_overflows overflows) rfl)
      (not_not_intro (Or.inl overflows))
  by_cases overwhelms : provider.Overwhelms members
  · exact iff_of_false (answered_escapes (fields_overwhelms overwhelms) rfl)
      (not_not_intro (Or.inr (Or.inl overwhelms)))
  simp only [overflows, overwhelms, false_or]
  unfold answered
  cases read : provider.fields members with
  | error error =>
      refine iff_of_true ?_ fun ⟨_, equal, _⟩ => nomatch equal
      rcases fields_error read with orchestration | handled | raises
      · cases error with
        | orchestration message =>
            show provider.Classified _ _ (.error (if handlesRecord (.orchestration message) =
              true then _ else .orchestration message))
            exact classified_orchestration.mpr found
        | _ => exact nomatch orchestration
      · show provider.Classified _ _ (.error (if handlesRecord error = true then _ else error))
        rw [if_pos handled]
        exact classified_orchestration.mpr found
      · exact absurd raises (not_or.mpr ⟨overflows, overwhelms⟩)
  | ok fields =>
      show provider.Classified _ _ (if fields.rommRomId ≠ rommRomId then _
        else construct fields) ↔ _
      by_cases mismatched : fields.rommRomId ≠ rommRomId
      · rw [if_pos mismatched]
        refine iff_of_true (classified_orchestration.mpr found)
          fun ⟨other, equal, same, _⟩ => ?_
        exact mismatched (Except.ok.inj equal ▸ same)
      rw [if_neg mismatched]
      cases valid : fields.valid with
      | true =>
          obtain ⟨record, built, accepted, sameId, text⟩ := construct_ok valid
          rw [built]
          refine iff_of_true ⟨found, accepted, sameId.trans (not_not.mp mismatched), ?_⟩
            fun ⟨other, equal, _, refused⟩ => ?_
          · obtain ⟨_, _, place, canonical, same⟩ := (fields_ok.mp read).canonicalPath
            rw [text] at same
            cases place with
            | path path =>
                exact ⟨path, canonicalPath_beneath canonical, (PythonStr.text.inj same).symm⟩
            | odd name beneath => exact nomatch same
          · rw [← Except.ok.inj equal, valid] at refused
            exact Bool.noConfusion refused
      | false =>
          rw [construct_error valid]
          exact iff_of_false (not_classified nofun rfl)
            (not_not_intro ⟨fields, rfl, not_not.mp mismatched, valid⟩)

/-- A status with a document that was read. -/
theorem resolveGame_read (provider : HttpRomMProvider) {requester : Requester}
    {rommRomId status : ℤ} {document : PythonValue}
    (requested : requester s!"/multiplayer/games/{rommRomId}" = .ok (status, document)) :
    provider.Classified rommRomId (some status) (provider.resolveGame requester rommRomId) ↔
      (status = 200 → ¬provider.Escapes rommRomId document) := by
  unfold resolveGame
  rw [requested]
  show provider.Classified _ _ (if status = 404 then _ else _) ↔ _
  by_cases missing : status = 404
  · rw [if_pos missing]
    refine iff_of_true ⟨iff_of_true rfl (congrArg some missing), Or.inl rfl⟩ fun accepted => ?_
    omega
  have differs : some status ≠ some 404 := fun same => missing (Option.some.inj same)
  rw [if_neg missing]
  by_cases refused : status ≠ 200
  · rw [if_pos refused]
    exact iff_of_true (classified_orchestration.mpr differs) fun accepted => absurd accepted refused
  rw [if_neg refused]
  have accepted : status = 200 := not_not.mp refused
  cases document with
  | dict members =>
      rw [accepted]
      exact (provider.answered_classified rommRomId members).trans
        ⟨fun classified _ => classified, fun classified => classified rfl⟩
  | null | bool | int | float | str | list =>
      exact iff_of_true (classified_orchestration.mpr differs) fun _ ⟨_, equal, _⟩ =>
        nomatch equal

/-- A request that fails. -/
theorem resolveGame_error (provider : HttpRomMProvider) {requester : Requester} {rommRomId : ℤ}
    (requested : requester s!"/multiplayer/games/{rommRomId}" = .error error) :
    provider.resolveGame requester rommRomId = .error error := by
  unfold resolveGame
  rw [requested]
  rfl

/-! What is foreseen, by the bytes of the answer. -/

section Foreseen

variable {loads : Loads} {rommRomId status : ℤ} {raw : List UInt8}

theorem foreseen_long (long : maxResponseBytes < raw.length) :
    provider.Foreseen loads rommRomId status raw ↔ status ≠ 404 := by
  constructor
  · intro foreseen missing
    rcases foreseen.missing missing with empty | ⟨short, _⟩
    · exact absurd long (by simp [empty])
    · exact absurd short (Nat.not_le.mpr long)
  · intro differs
    exact
      { reads := fun short => absurd short (Nat.not_le.mpr long)
        missing := fun missing => absurd missing differs
        document := fun _ short => absurd short (Nat.not_le.mpr long) }

theorem foreseen_empty : provider.Foreseen loads rommRomId status [] where
  reads _ some := absurd rfl some
  missing _ := Or.inl rfl
  document _ _ some := absurd rfl some

theorem foreseen_read {document : PythonValue} (short : raw.length ≤ maxResponseBytes)
    (some : raw ≠ []) (read : loads raw = .ok document) :
    provider.Foreseen loads rommRomId status raw ↔
      (status = 200 → ¬provider.Escapes rommRomId document) := by
  constructor
  · exact fun foreseen accepted => foreseen.document accepted short some document read
  · intro fine
    refine
      { reads := fun _ _ => reads_of_ok read
        missing := fun _ => Or.inr ⟨short, document, read⟩
        document := fun accepted _ _ other same => ?_ }
    rw [read] at same
    exact Except.ok.inj same ▸ fine accepted

theorem foreseen_unread {raised : LoadsError} (short : raw.length ≤ maxResponseBytes)
    (some : raw ≠ []) (raises : loads raw = .error raised) :
    provider.Foreseen loads rommRomId status raw ↔ Reads loads raw ∧ status ≠ 404 := by
  constructor
  · intro foreseen
    refine ⟨foreseen.reads short some, fun missing => ?_⟩
    rcases foreseen.missing missing with empty | ⟨_, document, same⟩
    · exact some empty
    · exact nomatch raises.symm.trans same
  · rintro ⟨reads, differs⟩
    exact
      { reads := fun _ _ => reads
        missing := fun missing => absurd missing differs
        document := fun _ _ _ _ same => nomatch raises.symm.trans same }

end Foreseen

/-- The status and the bytes of an answer decide. -/
theorem resolveGame_answered (provider : HttpRomMProvider) {loads : Loads}
    {answers : String → Option (ℤ × List UInt8)} {rommRomId status : ℤ} {raw : List UInt8}
    (answer : answers s!"/multiplayer/games/{rommRomId}" = some (status, raw)) :
    provider.Classified rommRomId (some status)
        (provider.resolveGame (request loads answers) rommRomId) ↔
      provider.Foreseen loads rommRomId status raw := by
  have requested : request loads answers s!"/multiplayer/games/{rommRomId}" =
      if maxResponseBytes < raw.length then .error (.orchestration "RomM response is too large")
      else if raw = [] then .ok (status, .dict [])
      else readDocument loads (.orchestration "RomM returned invalid JSON") raw >>= fun document =>
        pure (status, document) := by
    rw [request, answer]
  have differs : some status ≠ some 404 ↔ status ≠ 404 := not_congr Option.some_inj
  by_cases long : maxResponseBytes < raw.length
  · rw [if_pos long] at requested
    rw [provider.resolveGame_error requested, classified_orchestration, differs,
      foreseen_long long]
  have short : raw.length ≤ maxResponseBytes := Nat.not_lt.mp long
  rw [if_neg long] at requested
  by_cases empty : raw = []
  · rw [if_pos empty] at requested
    rw [provider.resolveGame_read requested, escapes_dict, empty]
    refine iff_of_true (fun _ escapes => ?_) foreseen_empty
    rcases escapes with ⟨_, number⟩ | ⟨⟨_, number, _⟩, _⟩ | ⟨_, read, _⟩
    · exact nomatch number
    · exact nomatch number
    · exact nomatch read
  rw [if_neg empty] at requested
  cases loaded : loads raw with
  | ok document =>
      rw [readDocument_ok loaded] at requested
      rw [provider.resolveGame_read requested, foreseen_read short empty loaded]
  | error error =>
      rw [foreseen_unread short empty loaded]
      rcases readDocument_error (.orchestration "RomM returned invalid JSON") loaded with
        ⟨raised, reads⟩ | ⟨⟨escaped, raised, other, foreign⟩, unread⟩
      · rw [raised] at requested
        rw [provider.resolveGame_error requested, classified_orchestration, differs,
          and_iff_right reads]
      · rw [raised] at requested
        rw [provider.resolveGame_error requested]
        exact iff_of_false (not_classified other foreign) fun both => unread both.1

/-- An answer is classified just where it is one that is foreseen. -/
theorem resolveGame_classified (provider : HttpRomMProvider) (loads : Loads)
    (answers : String → Option (ℤ × List UInt8)) (rommRomId : ℤ) :
    provider.Classified rommRomId ((answers s!"/multiplayer/games/{rommRomId}").map Prod.fst)
        (provider.resolveGame (request loads answers) rommRomId) ↔
      ∀ status raw, answers s!"/multiplayer/games/{rommRomId}" = some (status, raw) →
        provider.Foreseen loads rommRomId status raw := by
  cases answer : answers s!"/multiplayer/games/{rommRomId}" with
  | none =>
      have requested : request loads answers s!"/multiplayer/games/{rommRomId}" =
          .error (.orchestration "RomM is unavailable") := by rw [request, answer]
      rw [provider.resolveGame_error requested]
      exact iff_of_true (classified_orchestration.mpr nofun) nofun
  | some answered =>
      obtain ⟨status, raw⟩ := answered
      exact (provider.resolveGame_answered answer).trans forall_answer_iff.symm

end HttpRomMProvider

/-! ## Runtime Agent -/

/-- Only an `OrchestrationError` leaves the call. -/
def OnlyOrchestration {α : Type} (outcome : Except Error α) : Prop :=
  ∀ error, outcome = .error error → error.isOrchestration = true

section OnlyOrchestration

variable {α β : Type}

theorem onlyOrchestration_error {error : Error} :
    OnlyOrchestration (.error error : Except Error α) ↔ error.isOrchestration = true :=
  ⟨fun only => only error rfl, fun orchestration _ equal =>
    Except.error.inj equal ▸ orchestration⟩

theorem onlyOrchestration_orchestration (message : String) :
    OnlyOrchestration (.error (.orchestration message) : Except Error α) :=
  onlyOrchestration_error.mpr rfl

/-- The first item that is refused decides. -/
theorem onlyOrchestration_mapM {program : β → Except Error α} {items : List β} :
    OnlyOrchestration (items.mapM program) ↔ ¬∃ before item after,
      items = before ++ item :: after ∧
        (∀ earlier ∈ before, ∃ value, program earlier = .ok value) ∧
        ¬OnlyOrchestration (program item) := by
  constructor
  · rintro only ⟨before, item, after, split, earlier, escapes⟩
    exact escapes fun error refused =>
      only error (mapM_error.mpr ⟨before, item, after, split, earlier, refused⟩)
  · intro none error raises
    obtain ⟨before, item, after, split, earlier, refused⟩ := mapM_error.mp raises
    by_contra foreign
    exact none ⟨before, item, after, split, earlier, fun only => foreign (only error refused)⟩

end OnlyOrchestration

namespace LocalRuntimeAgentProvider

open HttpRomMProvider (item_bind item_bind_ok item_bind_error)

variable {provider : LocalRuntimeAgentProvider} {members : List (PythonStr × PythonValue)}
variable {error : Error} {loads : Loads} {answers : Answers}

theorem healthStatus_error {value : PythonValue} (raises : healthStatus value = .error error) :
    handlesRecord error = true := by
  unfold healthStatus at raises
  split at raises
  · exact nomatch raises
  · exact nomatch raises
  · exact nomatch raises
  · exact nomatch raises
  · exact Except.error.inj raises ▸ rfl

theorem toUUID_error {text : PythonStr} (raises : toUUID text = .error error) :
    handlesRecord error = true := by
  unfold toUUID at raises
  split at raises
  · split at raises
    · exact nomatch raises
    · exact Except.error.inj raises ▸ rfl
  · exact Except.error.inj raises ▸ rfl

theorem stateText_error {text : PythonStr} (raises : stateText text = .error error) :
    handlesRecord error = true := by
  unfold stateText at raises
  split at raises
  · exact nomatch raises
  · exact Except.error.inj raises ▸ rfl

/-- The members describe this runtime: it is read from them. -/
structure Describes (provider : LocalRuntimeAgentProvider)
    (members : List (PythonStr × PythonValue)) (handle : RuntimeHandle) : Prop where
  runtimeId : ∃ value, members.lookup (.text "participant_id") = some value ∧
    ∃ text, value.toStr provider.repr = .ok text ∧ toUUID text = .ok handle.runtimeId
  state : ∃ value, members.lookup (.text "state") = some value ∧
    value.toStr provider.repr = .ok (.text handle.state)
  healthStatus : ∃ value, members.lookup (.text "health_status") = some value ∧
    LocalRuntimeAgentProvider.healthStatus value = .ok handle.healthStatus

theorem stateText_ok {text : PythonStr} {state : String} :
    stateText text = .ok state ↔ text = .text state := by
  cases text with
  | text value =>
      exact ⟨fun equal => congrArg PythonStr.text (Except.ok.inj equal),
        fun equal => congrArg Except.ok (PythonStr.text.inj equal)⟩
  | surrogates => exact ⟨nofun, nofun⟩

theorem record_ok {handle : RuntimeHandle} :
    provider.record members = .ok handle ↔ provider.Describes members handle := by
  constructor
  · intro returns
    obtain ⟨id, readId, rest⟩ := bind_ok.mp returns
    obtain ⟨value, foundId, toText⟩ := item_bind_ok.mp readId
    obtain ⟨runtimeId, parsed, rest'⟩ := bind_ok.mp rest
    obtain ⟨state, readState, rest''⟩ := bind_ok.mp rest'
    obtain ⟨name, foundState, toState⟩ := item_bind_ok.mp readState
    obtain ⟨status, foundStatus, rest₃⟩ := item_bind_ok.mp rest''
    obtain ⟨text, stateRead, rest₄⟩ := bind_ok.mp rest₃
    obtain ⟨health, healthRead, built⟩ := bind_ok.mp rest₄
    rw [← Except.ok.inj built]
    exact
      { runtimeId := ⟨value, foundId, id, mapError_ok.mp toText, parsed⟩
        state := ⟨name, foundState, stateText_ok.mp stateRead ▸ mapError_ok.mp toState⟩
        healthStatus := ⟨status, foundStatus, healthRead⟩ }
  · rintro ⟨⟨value, foundId, id, toText, parsed⟩, ⟨name, foundState, toState⟩,
      ⟨status, foundStatus, healthRead⟩⟩
    refine bind_ok.mpr ⟨id, item_bind_ok.mpr ⟨value, foundId, mapError_ok.mpr toText⟩, ?_⟩
    refine bind_ok.mpr ⟨handle.runtimeId, parsed, ?_⟩
    refine bind_ok.mpr ⟨.text handle.state,
      item_bind_ok.mpr ⟨name, foundState, mapError_ok.mpr toState⟩, ?_⟩
    refine item_bind_ok.mpr ⟨status, foundStatus, ?_⟩
    refine bind_ok.mpr ⟨handle.state, rfl, ?_⟩
    exact bind_ok.mpr ⟨handle.healthStatus, healthRead, rfl⟩

/-- Of a value that is there the text is taken, for which it is nested too deeply. -/
def Overwhelms (provider : LocalRuntimeAgentProvider)
    (members : List (PythonStr × PythonValue)) : Prop :=
  ∃ value, members.lookup (.text "participant_id") = some value ∧
    (value.TooDeep provider.repr ∨ ∃ text runtimeId, value.toStr provider.repr = .ok text ∧
      toUUID text = .ok runtimeId ∧ ∃ state, members.lookup (.text "state") = some state ∧
        state.TooDeep provider.repr)

/-- The errors of the guarded block. -/
theorem record_error (raises : provider.record members = .error error) :
    handlesRecord error = true ∨ provider.Overwhelms members := by
  have missing : error = .key → handlesRecord error = true := fun key => key ▸ rfl
  rcases bind_error raises with raised | ⟨id, readId, rest⟩
  · rcases item_bind_error raised with absent | ⟨value, found, unread⟩
    · exact Or.inl (missing absent)
    · exact Or.inr ⟨value, found, Or.inl (text_error unread)⟩
  obtain ⟨value, foundId, toText⟩ := item_bind_ok.mp readId
  rcases bind_error rest with malformed | ⟨runtimeId, parsed, rest'⟩
  · exact Or.inl (toUUID_error malformed)
  rcases bind_error rest' with raised | ⟨state, _, rest''⟩
  · rcases item_bind_error raised with absent | ⟨name, found, unread⟩
    · exact Or.inl (missing absent)
    · exact Or.inr ⟨value, foundId, Or.inr ⟨id, runtimeId, mapError_ok.mp toText, parsed,
        name, found, text_error unread⟩⟩
  rcases item_bind_error rest'' with absent | ⟨status, _, rest₃⟩
  · exact Or.inl (missing absent)
  rcases bind_error rest₃ with refused | ⟨text, _, rest₄⟩
  · exact Or.inl (stateText_error refused)
  rcases bind_error rest₄ with unknown | ⟨health, _, built⟩
  · exact Or.inl (healthStatus_error unknown)
  · exact nomatch built

theorem record_overwhelms (overwhelms : provider.Overwhelms members) :
    provider.record members = .error (.other "RecursionError") := by
  obtain ⟨value, found, deep⟩ := overwhelms
  unfold record
  rw [item_bind found]
  rcases deep with deep | ⟨text, runtimeId, toText, parsed, state, foundState, deep⟩
  · rw [toStr, text_tooDeep deep]
    rfl
  · rw [toStr, mapError_ok.mpr toText]
    show (toUUID text >>= _) = _
    rw [parsed, item_bind foundState, toStr, text_tooDeep deep]
    rfl

/-- The document of an operation that worked is not classified: a value is nested too deeply for
its text. -/
def Escapes (provider : LocalRuntimeAgentProvider) (status : ℤ) (document : PythonValue) : Prop :=
  200 ≤ status ∧ status < 300 ∧ ∃ members, document = .dict members ∧
    provider.Overwhelms members

/-- The same of a list: its items describe runtimes, up to one that is not classified. -/
def ListEscapes (provider : LocalRuntimeAgentProvider) (status : ℤ) (document : PythonValue) :
    Prop :=
  status = 200 ∧ ∃ members before item after, document = .dict members ∧
    members.lookup (.text "items") = some (.list (before ++ item :: after)) ∧
    (∀ earlier ∈ before, ∃ members handle, earlier = .dict members ∧
      provider.Describes members handle) ∧ provider.Escapes 200 item

theorem handle_onlyOrchestration (provider : LocalRuntimeAgentProvider) (status : ℤ)
    (document : PythonValue) :
    OnlyOrchestration (provider.handle status document) ↔ ¬provider.Escapes status document := by
  unfold handle
  by_cases outside : status < 200 ∨ 300 ≤ status
  · rw [if_pos outside]
    refine iff_of_true (onlyOrchestration_orchestration _) ?_
    rintro ⟨least, below, _⟩
    omega
  rw [if_neg outside]
  cases document with
  | dict members =>
      have inside : provider.Escapes status (.dict members) ↔ provider.Overwhelms members := by
        constructor
        · rintro ⟨_, _, members', same, overwhelms⟩
          exact PythonValue.dict.inj same ▸ overwhelms
        · intro overwhelms
          exact ⟨by omega, by omega, members, rfl, overwhelms⟩
      rw [inside]
      dsimp only
      by_cases overwhelms : provider.Overwhelms members
      · refine iff_of_false ?_ (not_not_intro overwhelms)
        rw [record_overwhelms overwhelms, translating, onlyOrchestration_error]
        decide
      · refine iff_of_true ?_ overwhelms
        intro error raises
        rcases translating_error raises with replaced | ⟨raised, unhandled⟩
        · exact replaced ▸ rfl
        · have handled := (record_error raised).resolve_right overwhelms
          exact Bool.noConfusion (handled.symm.trans unhandled)
  | null | bool | int | float | str | list =>
      refine iff_of_true (onlyOrchestration_orchestration _) ?_
      rintro ⟨_, _, _, equal, _⟩
      exact nomatch equal

theorem handle_ok {document : PythonValue} :
    (∃ handle, provider.handle 200 document = .ok handle) ↔
    ∃ members handle, document = .dict members ∧ provider.Describes members handle := by
  unfold handle
  rw [if_neg (by decide)]
  cases document with
  | dict members =>
      constructor
      · rintro ⟨handle, returned⟩
        exact ⟨members, handle, rfl, record_ok.mp (translating_ok.mp returned)⟩
      · rintro ⟨_, handle, same, describes⟩
        exact ⟨handle,
          translating_ok.mpr (record_ok.mpr (PythonValue.dict.inj same ▸ describes))⟩
  | null | bool | int | float | str | list =>
      refine iff_of_false ?_ ?_
      · rintro ⟨_, equal⟩
        exact nomatch equal
      · rintro ⟨_, _, equal, _⟩
        exact nomatch equal

/-- The answer is one that the adapter reads as it should: `json.loads` raises nothing that is not
handled, and its document does not escape. -/
structure Foreseen (escapes : ℤ → PythonValue → Prop) (loads : Loads) (status : ℤ)
    (raw : List UInt8) : Prop where
  reads : raw.length ≤ maxResponseBytes → Reads loads raw
  document : raw.length ≤ maxResponseBytes → ∀ document, loads raw = .ok document →
    ¬escapes status document

section Foreseen

variable {escapes : ℤ → PythonValue → Prop} {status : ℤ} {raw : List UInt8}

theorem foreseen_long (long : maxResponseBytes < raw.length) :
    Foreseen escapes loads status raw where
  reads short := absurd short (Nat.not_le.mpr long)
  document short := absurd short (Nat.not_le.mpr long)

theorem foreseen_read {document : PythonValue} (short : raw.length ≤ maxResponseBytes)
    (read : loads raw = .ok document) :
    Foreseen escapes loads status raw ↔ ¬escapes status document := by
  constructor
  · exact fun foreseen => foreseen.document short document read
  · intro fine
    refine { reads := fun _ => reads_of_ok read, document := fun _ other same => ?_ }
    rw [read] at same
    exact Except.ok.inj same ▸ fine

theorem foreseen_unread {raised : LoadsError} (short : raw.length ≤ maxResponseBytes)
    (raises : loads raw = .error raised) :
    Foreseen escapes loads status raw ↔ Reads loads raw :=
  ⟨fun foreseen => foreseen.reads short, fun reads =>
    { reads := fun _ => reads
      document := fun _ _ same => nomatch raises.symm.trans same }⟩

end Foreseen

/-- A request, and what is made of its answer. -/
theorem request_onlyOrchestration {α : Type} (next : ℤ × PythonValue → Except Error α)
    {escapes : ℤ → PythonValue → Prop} (method path : String) (payload : Option Json)
    (classifies : ∀ status document,
      OnlyOrchestration (next (status, document)) ↔ ¬escapes status document) :
    OnlyOrchestration (request loads answers method path payload >>= next) ↔
      ∀ status raw, answers method path payload = some (status, raw) →
        Foreseen escapes loads status raw := by
  unfold request
  cases answers method path payload with
  | none => exact iff_of_true (onlyOrchestration_orchestration _) nofun
  | some answer =>
  obtain ⟨status, raw⟩ := answer
  rw [forall_answer_iff]
  dsimp only
  unfold received
  by_cases long : maxResponseBytes < raw.length
  · rw [if_pos long]
    exact iff_of_true (onlyOrchestration_orchestration _) (foreseen_long long)
  rw [if_neg long]
  have short : raw.length ≤ maxResponseBytes := Nat.not_lt.mp long
  cases loaded : loads raw with
  | ok document =>
      rw [readDocument_ok loaded, foreseen_read short loaded]
      exact classifies status document
  | error error =>
      rw [foreseen_unread short loaded]
      rcases readDocument_error (.orchestration "Runtime Agent returned invalid JSON") loaded with
        ⟨raised, reads⟩ | ⟨⟨escaped, raised, _, foreign⟩, unread⟩
      · rw [raised]
        exact iff_of_true (onlyOrchestration_orchestration _) reads
      · rw [raised]
        refine iff_of_false (fun only => ?_) unread
        exact Bool.noConfusion (foreign.symm.trans (onlyOrchestration_error.mp only))

/-- `create` refuses a request whose role and host do not belong together before it asks. -/
theorem create_onlyOrchestration (provider : LocalRuntimeAgentProvider) (loads : Loads)
    (answers : Answers) (runtime : RuntimeRequest) :
    OnlyOrchestration (provider.create (request loads answers) runtime) ↔
      (runtime.role = .host ↔ runtime.hostParticipantId = none) ∧
        ∀ status raw,
          answers "POST" "/v1/runtimes" (some (provider.payload runtime)) = some (status, raw) →
            Foreseen provider.Escapes loads status raw := by
  unfold create
  have refusal : ∀ message,
      ¬OnlyOrchestration (.error (.value message) : Except Error RuntimeHandle) :=
    fun message only => Bool.false_ne_true (only _ rfl)
  split_ifs with host client
  · exact iff_of_false (refusal _) fun ⟨paired, _⟩ => host.2 (paired.mp host.1)
  · refine iff_of_false (refusal _) fun ⟨paired, _⟩ => ?_
    have role := paired.mpr client.2
    rw [client.1] at role
    exact nomatch role
  · have paired : runtime.role = .host ↔ runtime.hostParticipantId = none := by
      cases role : runtime.role with
      | host =>
          simp only [role, true_and, not_not] at host
          exact iff_of_true rfl host
      | client =>
          simp only [role, true_and] at client
          exact iff_of_false nofun client
    rw [and_iff_right paired]
    exact request_onlyOrchestration _ _ _ _ provider.handle_onlyOrchestration

theorem inspect_onlyOrchestration (provider : LocalRuntimeAgentProvider) (loads : Loads)
    (answers : Answers) (participantId : UUID) :
    OnlyOrchestration (provider.inspect (request loads answers) participantId) ↔
      ∀ status raw,
        answers "GET" ("/v1/runtimes/" ++ UUID.str participantId) none = some (status, raw) →
          Foreseen provider.Escapes loads status raw :=
  request_onlyOrchestration _ _ _ _ provider.handle_onlyOrchestration

/-- What `list` makes of an answer. -/
def listed (provider : LocalRuntimeAgentProvider) (status : ℤ) (document : PythonValue) :
    Except Error (List RuntimeHandle) :=
  if status ≠ 200 then
    .error (.orchestration s!"Runtime Agent rejected the operation with HTTP {status}")
  else
    match document with
    | .dict members =>
      match members.lookup (.text "items") with
      | some (.list items) => items.mapM (provider.handle 200)
      | _ => .error (.orchestration "Runtime Agent returned an invalid runtime list")
    | _ => .error (.orchestration "Runtime Agent returned an invalid runtime list")

theorem listed_onlyOrchestration (provider : LocalRuntimeAgentProvider) (status : ℤ)
    (document : PythonValue) :
    OnlyOrchestration (provider.listed status document) ↔
      ¬provider.ListEscapes status document := by
  unfold listed
  by_cases refused : status ≠ 200
  · rw [if_pos refused]
    exact iff_of_true (onlyOrchestration_orchestration _) fun ⟨accepted, _⟩ => refused accepted
  rw [if_neg refused]
  have accepted : status = 200 := not_not.mp refused
  cases document with
  | dict members =>
      dsimp only
      split
      next items found =>
        rw [onlyOrchestration_mapM, not_iff_not]
        simp only [handle_onlyOrchestration, handle_ok, not_not]
        constructor
        · rintro ⟨before, item, after, rfl, earlier, escapes⟩
          exact ⟨accepted, members, before, item, after, rfl, found, earlier, escapes⟩
        · rintro ⟨_, members', before, item, after, same, found', earlier, escapes⟩
          rw [← PythonValue.dict.inj same, found] at found'
          exact ⟨before, item, after, PythonValue.list.inj (Option.some.inj found'), earlier,
            escapes⟩
      next other =>
        refine iff_of_true (onlyOrchestration_orchestration _) ?_
        rintro ⟨_, members', before, item, after, same, found, _⟩
        rw [← PythonValue.dict.inj same] at found
        exact other _ found
  | null | bool | int | float | str | list =>
      refine iff_of_true (onlyOrchestration_orchestration _) ?_
      rintro ⟨_, _, _, _, _, equal, _⟩
      exact nomatch equal

theorem list_onlyOrchestration (provider : LocalRuntimeAgentProvider) (loads : Loads)
    (answers : Answers) :
    OnlyOrchestration (provider.list (request loads answers)) ↔
      ∀ status raw, answers "GET" "/v1/runtimes" none = some (status, raw) →
        Foreseen provider.ListEscapes loads status raw :=
  request_onlyOrchestration (fun answer => provider.listed answer.1 answer.2) _ _ _
    provider.listed_onlyOrchestration

end LocalRuntimeAgentProvider

section Example

/-- A provider on a file system without links, where every path exists. -/
def exampleRomM : HttpRomMProvider where
  romRoot := "/roms"
  files :=
    { resolve := fun path =>
        let parts := PurePath.names '/' path
        if proper : ∀ part ∈ parts, PurePath.Proper '/' part then
          .ok (.path ⟨parts, proper⟩)
        else .error (.other "OSError")
      resolveOdd := fun _ _ => .error (.other "OSError")
      isFile := fun _ => true
      lawful := by
        intro path error raises
        dsimp only at raises
        split_ifs at raises
        exact Or.inl (Except.error.inj raises ▸ rfl)
      lawfulOdd := by
        intro root relative error raises
        exact Or.inl (Except.error.inj raises ▸ rfl) }
  repr _ := some ""

/-- The documents of these examples have no real number but `Infinity`. -/
def exampleLoads : Loads := Json.loadsPython fun _ => .infinite false

/-- The body with this number and this platform. -/
def exampleBody (number : Json) (platform : String) : List UInt8 :=
  Json.encodeUtf8 (Json.dumps (.object [("romm_rom_id", number), ("platform", .string platform),
    ("rom_sha256", .string "103c79a6e3968b817a3e24d63e53cc02f8eaab3f41a05cf73ac4c544df0e887a"),
    ("relative_path", .string "nes/game.nes")]))

/-- An integer of so many digits. -/
def ones (count : ℕ) : List UInt8 := Json.encodeUtf8 (List.replicate count '1')

theorem ones_printable (count : ℕ) : (List.replicate count '1').all Json.isPrintable = true :=
  List.all_eq_true.mpr fun character member => by
    rw [List.eq_of_mem_replicate member]
    rfl

theorem ones_length (count : ℕ) : (ones count).length = count := by
  have ascii : (List.replicate count '1').all Json.isAscii = true :=
    List.all_eq_true.mpr fun character member =>
      Json.isAscii_of_isPrintable (List.all_eq_true.mp (ones_printable count) character member)
  rw [ones, Json.encodeUtf8_ascii ascii, List.length_map, List.length_replicate]

theorem ones_loads {count : ℕ} (long : Json.maxDigits < count) :
    exampleLoads (ones count) = .error .digits := by
  rw [exampleLoads, ones, Json.loadsPython, Json.decode_printable (ones_printable count)]
  dsimp only
  rw [Json.loads_ones long]

theorem resolveGame_digits {provider : HttpRomMProvider} {loads : Loads} {raw : List UInt8}
    (short : raw.length ≤ HttpRomMProvider.maxResponseBytes) (some : raw ≠ [])
    (long : loads raw = .error .digits) (rommRomId : ℤ) :
    provider.resolveGame (HttpRomMProvider.request loads fun _ => .some (200, raw)) rommRomId =
      .error (.value "Exceeds the limit (4300 digits) for integer string conversion") := by
  unfold HttpRomMProvider.resolveGame HttpRomMProvider.request readDocument
  dsimp only
  rw [if_neg (Nat.not_lt.mpr short), if_neg some, long]
  rfl

theorem list_digits {provider : LocalRuntimeAgentProvider} {loads : Loads} {raw : List UInt8}
    (short : raw.length ≤ LocalRuntimeAgentProvider.maxResponseBytes)
    (long : loads raw = .error .digits) :
    provider.list (LocalRuntimeAgentProvider.request loads fun _ _ _ => .some (200, raw)) =
      .error (.value "Exceeds the limit (4300 digits) for integer string conversion") := by
  unfold LocalRuntimeAgentProvider.list LocalRuntimeAgentProvider.request
    LocalRuntimeAgentProvider.received readDocument
  dsimp only
  rw [if_neg (Nat.not_lt.mpr short), long]
  rfl

def exampleAgentProvider : LocalRuntimeAgentProvider where
  config :=
    { image := "sha256:103c79a6e3968b817a3e24d63e53cc02f8eaab3f41a05cf73ac4c544df0e887a"
      streamNetwork := "retro-stream", netplayNetwork := "retro-netplay", gpuProfile := .cpu
      netplayPort := 55435, orchestrationSecret := "0123456789abcdef0123456789abcdef" }
  hmac _ _ := ""
  repr _ := some ""

end Example

end RetroBrowser.SessionManager
