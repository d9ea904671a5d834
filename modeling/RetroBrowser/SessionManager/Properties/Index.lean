import RetroBrowser.SessionManager.Properties.Concurrency

/-!
Owns the index of the Valkey repository: with the commands of all callers in any
order, a listing contains every session whose storing was answered before the
listing began.

Contract: a program may rely on the record of one session to stay or to make way
for a later version, on the member of the index to stay, and on a version number
to tell whether the record has changed.
-/

namespace RetroBrowser.SessionManager

open RetroBrowser.Foundation RetroBrowser.Foundation.Concurrent

namespace ValkeySessionRepository

variable {κ : Type} (self : ValkeySessionRepository) (session : Session)

/-- The version is stored under its key, or a later one. -/
def Holds (store : ValkeyStore) : Prop :=
  ∃ record, self.stored store session.sessionId = some record ∧
    (record = session ∨ session.revision < record.revision)

/-- The records are under their keys and satisfy the validators, and what the index says of the
session is true. -/
structure Indexed (repository : ValkeySessionRepository) (session : Session)
    (store : ValkeyStore) : Prop where
  own : ∀ key entry, store.entries key = some entry → key = repository.key entry.value.sessionId
  valid : ∀ key entry, store.entries key = some entry → entry.value.validate = .ok ()
  once : (store.members repository.indexKey).Nodup
  present : repository.key session.sessionId ∈ store.members repository.indexKey →
    (repository.stored store session.sessionId).isSome

/-- What all callers rely on, as long as the key of the session does not expire. -/
structure Grows (repository : ValkeySessionRepository) (session : Session)
    (before after : ValkeyStore) : Prop where
  kept : ∀ record, repository.stored before session.sessionId = some record →
    ∃ record', repository.stored after session.sessionId = some record' ∧
      (record' = record ∨ record.revision < record'.revision)
  member : repository.key session.sessionId ∈ before.members repository.indexKey →
    repository.key session.sessionId ∈ after.members repository.indexKey
  version : before.versions (repository.key session.sessionId) ≤
    after.versions (repository.key session.sessionId)
  unchanged : before.versions (repository.key session.sessionId) =
      after.versions (repository.key session.sessionId) →
    repository.stored before session.sessionId = repository.stored after session.sessionId

variable {self session} {before between after store : ValkeyStore}

theorem Grows.refl (store : ValkeyStore) : self.Grows session store store where
  kept := fun record found => ⟨record, found, Or.inl rfl⟩
  member := id
  version := Nat.le_refl _
  unchanged := fun _ => rfl

theorem Grows.trans (first : self.Grows session before between)
    (second : self.Grows session between after) : self.Grows session before after where
  kept := by
    intro record found
    obtain ⟨middle, here, newer⟩ := first.kept record found
    obtain ⟨final, there, newest⟩ := second.kept middle here
    refine ⟨final, there, ?_⟩
    cases newest with
    | inl same => rwa [same]
    | inr later =>
        cases newer with
        | inl same => exact Or.inr (same ▸ later)
        | inr earlier => exact Or.inr (earlier.trans later)
  member := fun member => second.member (first.member member)
  version := first.version.trans second.version
  unchanged := by
    intro same
    have low := first.version
    have high := second.version
    exact (first.unchanged (by omega)).trans (second.unchanged (by omega))

theorem Grows.isSome (grows : self.Grows session before after)
    (present : (self.stored before session.sessionId).isSome) :
    (self.stored after session.sessionId).isSome := by
  obtain ⟨record, found⟩ := Option.isSome_iff_exists.mp present
  obtain ⟨record', found', _⟩ := grows.kept record found
  rw [found']
  rfl

theorem Holds.grow (holds : self.Holds session before) (grows : self.Grows session before after) :
    self.Holds session after := by
  obtain ⟨record, found, newer⟩ := holds
  obtain ⟨record', found', later⟩ := grows.kept record found
  refine ⟨record', found', ?_⟩
  cases later with
  | inl same => rwa [same]
  | inr later =>
      cases newer with
      | inl same => exact Or.inr (same ▸ later)
      | inr earlier => exact Or.inr (earlier.trans later)

section Commands

variable {value : Session}

/-- Where nothing is written, there is nothing to keep. -/
theorem Grows.quiet (entries : after.entries = before.entries)
    (versions : after.versions = before.versions)
    (member : self.key session.sessionId ∈ before.members self.indexKey →
      self.key session.sessionId ∈ after.members self.indexKey) :
    self.Grows session before after where
  kept := by
    intro record found
    refine ⟨record, ?_, Or.inl rfl⟩
    rwa [stored, entries]
  member := member
  version := by rw [versions]
  unchanged := fun _ => by rw [stored, stored, entries]

theorem Indexed.set (indexed : self.Indexed session store) (valid : value.validate = .ok ())
    (seconds : Int) :
    self.Indexed session (store.set (self.key value.sessionId) value seconds) := by
  have entry_cases : ∀ key entry,
      (store.set (self.key value.sessionId) value seconds).entries key = some entry →
      key = self.key value.sessionId ∧ entry.value = value ∨
        store.entries key = some entry := by
    intro key entry found
    rw [ValkeyStore.set_entries] at found
    split at found
    · rename_i same
      cases found
      exact Or.inl ⟨same, rfl⟩
    · exact Or.inr found
  constructor
  · intro key entry found
    cases entry_cases key entry found with
    | inl written => rw [written.2, written.1]
    | inr earlier => exact indexed.own key entry earlier
  · intro key entry found
    cases entry_cases key entry found with
    | inl written => rwa [written.2]
    | inr earlier => exact indexed.valid key entry earlier
  · exact indexed.once
  · intro member
    rw [stored_set]
    split
    · rfl
    · exact indexed.present member

/-- A write of a later version. -/
theorem Grows.set (later : value.sessionId = session.sessionId → ∀ record,
      self.stored store session.sessionId = some record → record.revision < value.revision)
    (seconds : Int) :
    self.Grows session store (store.set (self.key value.sessionId) value seconds) := by
  have changes : Changes (self.key value.sessionId) store
      (store.set (self.key value.sessionId) value seconds) :=
    self.changes_set value.sessionId value seconds
  by_cases same : value.sessionId = session.sessionId
  · rw [same] at changes
    constructor
    · intro record found
      refine ⟨value, ?_, Or.inr (later same record found)⟩
      rw [stored_set, if_pos same.symm]
    · exact id
    · rw [same, changes.version]
      exact Nat.le_succ _
    · intro versions
      rw [same, changes.version] at versions
      exact absurd versions (Nat.succ_ne_self _).symm
  · have other : self.key session.sessionId ≠ self.key value.sessionId :=
      fun keys => same (self.key_injective keys).symm
    have untouched : self.stored (store.set (self.key value.sessionId) value seconds)
        session.sessionId = self.stored store session.sessionId := by
      rw [stored_set, if_neg (Ne.symm same)]
    constructor
    · intro record found
      exact ⟨record, untouched.trans found, Or.inl rfl⟩
    · exact id
    · rw [changes.versions _ other]
    · exact fun _ => untouched.symm

theorem Indexed.sadd (indexed : self.Indexed session store) {key : String}
    (present : key = self.key session.sessionId → (self.stored store session.sessionId).isSome) :
    self.Indexed session (store.sadd self.indexKey key) where
  own := indexed.own
  valid := indexed.valid
  once := by
    rw [ValkeyStore.sadd_members]
    exact indexed.once.insert
  present := by
    rw [ValkeyStore.sadd_members]
    intro member
    cases List.mem_insert_iff.mp member with
    | inl same => exact present same.symm
    | inr earlier => exact indexed.present earlier

theorem Grows.sadd (key : String) : self.Grows session store (store.sadd self.indexKey key) := by
  refine .quiet rfl rfl fun member => ?_
  rw [ValkeyStore.sadd_members]
  exact List.mem_insert_of_mem member

theorem mem_sadd (key : String) : key ∈ (store.sadd self.indexKey key).members self.indexKey := by
  rw [ValkeyStore.sadd_members]
  exact List.mem_insert_self

theorem Indexed.srem (indexed : self.Indexed session store) (key : String) :
    self.Indexed session (store.srem self.indexKey key) where
  own := indexed.own
  valid := indexed.valid
  once := by
    rw [ValkeyStore.srem_members]
    exact indexed.once.erase key
  present := by
    rw [ValkeyStore.srem_members]
    exact fun member => indexed.present (List.mem_of_mem_erase member)

theorem Grows.srem {key : String} (other : key ≠ self.key session.sessionId) :
    self.Grows session store (store.srem self.indexKey key) := by
  refine .quiet rfl rfl fun member => ?_
  rw [ValkeyStore.srem_members]
  exact (List.mem_erase_of_ne other.symm).mpr member

end Commands

/-! ## The programs -/

variable (self session)

/-- What is expected of a listing: every session once, in the order of creation, and the session
where it was promised. -/
structure Complete (session : Session) (promised : Prop) (sessions : List Session) : Prop where
  distinct : (sessions.map Session.sessionId).Nodup
  sorted : sessions.Pairwise fun left right => left.createdAt ≤ right.createdAt
  contains : promised → ∃ record ∈ sessions, record.sessionId = session.sessionId ∧
    (record = session ∨ session.revision < record.revision)

/-- What the programs end with: a stored version is held and is in the index, and a listing is
complete. -/
def Ends (promised : κ → Prop) (token : κ) (label : Label κ) (store : ValkeyStore) : Prop :=
  match label with
  | .called .. | .listing _ => False
  | .answered own operation answer => own = token ∧
      (answer = .stored → operation.written = some session → self.Holds session store ∧
        self.key session.sessionId ∈ store.members self.indexKey)
  | .listed own result => own = token ∧
      ∃ sessions, result = .ok sessions ∧ Complete session (promised token) sessions

variable {self session} {promised : κ → Prop} {token : κ} {connection : Connection}
  {written : Session} {expectedRevision : Nat}

/-- A program is guarded. -/
abbrev Sound (self : ValkeySessionRepository) (session : Session)
    (promised : κ → Prop) (token : κ)
    (program : Caller κ) (connection : Connection) (store : ValkeyStore) : Prop :=
  (self.service κ).Guarded (self.Indexed session) (self.Grows session)
    (self.Ends session promised token) program connection store

/-- An answer that stores nothing. -/
theorem sound_refused {operation : SessionOperation} {answer : Answer}
    (refused : answer ≠ .stored) :
    self.Sound session promised token (.done (.answered token operation answer)) connection store :=
  fun _ _ _ => ⟨rfl, fun stored => absurd stored refused⟩

/-- An answer that stores a version that is held. -/
theorem sound_stored {operation : SessionOperation}
    (held : operation.written = some session → self.Holds session store ∧
      self.key session.sessionId ∈ store.members self.indexKey) :
    self.Sound session promised token (.done (.answered token operation .stored))
      connection store :=
  fun _ grows _ =>
    ⟨rfl, fun _ same => ⟨(held same).1.grow grows, grows.member (held same).2⟩⟩

theorem sound_timed {next : Int → Caller κ} (indexed : self.Indexed session store)
    (sound : ∀ seconds later, self.Grows session store later → self.Indexed session later →
      self.Sound session promised token (next seconds) connection later) :
    self.Sound session promised token (self.timed written next) connection store := by
  unfold timed
  split
  · exact sound _ _ (.refl _) indexed
  · exact fun later grows indexed => ⟨indexed, .refl _, sound _ _ grows indexed⟩

theorem sound_adding (valid : written.validate = .ok ()) (seconds : Int) :
    self.Sound session promised token (self.adding token written seconds) connection store := by
  intro later grows indexed
  show _ ∧ _ ∧ Service.Guarded _ _ _ _ _ _ _
  by_cases taken : (later.entries (self.key written.sessionId)).isSome
  · have performed : later.perform (.setNew (self.key written.sessionId) written seconds)
        connection = (false, connection, later) := if_pos taken
    simp only [service, performed]
    exact ⟨indexed, .refl _, sound_refused (by decide)⟩
  · have performed : later.perform (.setNew (self.key written.sessionId) written seconds)
        connection = (true, connection,
          later.set (self.key written.sessionId) written seconds) := if_neg taken
    simp only [service, performed]
    have first : ∀ record, self.stored later written.sessionId = some record → False := by
      intro record found
      apply taken
      rw [← Option.isSome_map (f := Entry.value), ← stored, found]
      rfl
    refine ⟨indexed.set valid seconds, .set (fun same record found => ?_) seconds, ?_⟩
    · exact (first record (same ▸ found)).elim
    intro latest grows indexed
    have held : written.sessionId = session.sessionId →
      (self.stored latest session.sessionId).isSome :=
      fun same => grows.isSome (by rw [stored_set, if_pos same.symm]; rfl)
    refine ⟨indexed.sadd fun keys => held (self.key_injective keys), .sadd _, sound_stored ?_⟩
    intro same
    cases same
    refine ⟨Holds.grow ⟨session, ?_, Or.inl rfl⟩ (grows.trans (.sadd _)), mem_sadd _⟩
    rw [stored_set, if_pos rfl]

theorem sound_getting (sessionId : UUID) :
    self.Sound session promised token (self.getting token sessionId) connection store := by
  have refused : ∀ result, Answer.ofFound result ≠ .stored := by
    intro result
    cases result <;> simp [Answer.ofFound]
  exact fun later grows indexed => ⟨indexed, .refl _, sound_refused (refused _)⟩

/-- The answer to a save, after the watch is gone. -/
theorem sound_saved {answer : Answer}
    (held : answer = .stored → written = session → self.Holds session store ∧
      self.key session.sessionId ∈ store.members self.indexKey) :
    self.Sound session promised token (saved token written expectedRevision answer) connection
      store := by
  intro later grows indexed
  refine ⟨indexed, .refl _, ?_⟩
  intro latest more indexed
  refine ⟨rfl, fun stored same => ?_⟩
  obtain ⟨holds, member⟩ := held stored (Option.some.inj same)
  exact ⟨holds.grow (grows.trans more), (grows.trans more).member member⟩

/-- As long as the record has not changed since the watch, it has a lower revision. -/
def Lower (repository : ValkeySessionRepository) (session written : Session) (version : Nat)
    (store : ValkeyStore) : Prop :=
  written.sessionId = session.sessionId → ∀ later, repository.Grows session store later →
    later.versions (repository.key session.sessionId) = version →
    ∀ record, repository.stored later session.sessionId = some record →
      record.revision < written.revision

theorem Lower.grow {version : Nat} (lower : self.Lower session written version before)
    (grows : self.Grows session before after) : self.Lower session written version after :=
  fun same later more => lower same later (grows.trans more)

theorem sound_executing (valid : written.validate = .ok ()) {version : Nat}
    (lower : self.Lower session written version store) (seconds : Int) :
    self.Sound session promised token (self.executing token written expectedRevision seconds)
      (some (self.key written.sessionId, version)) store := by
  intro later grows indexed
  show _ ∧ _ ∧ Service.Guarded _ _ _ _ _ _ _
  by_cases intact : later.intact (some (self.key written.sessionId, version)) = true
  · have performed : later.perform (.execute [.set (self.key written.sessionId) written seconds,
        .sadd self.indexKey (self.key written.sessionId)])
        (some (self.key written.sessionId, version)) =
      (true, none, (later.set (self.key written.sessionId) written seconds).sadd self.indexKey
        (self.key written.sessionId)) := if_pos intact
    simp only [service, performed]
    have current : later.versions (self.key written.sessionId) = version := of_decide_eq_true intact
    have set := indexed.set valid seconds
    have grown : self.Grows session later
        (later.set (self.key written.sessionId) written seconds) := by
      apply Grows.set
      intro same record found
      exact lower same later grows (same ▸ current) record found
    have here : written.sessionId = session.sessionId → self.stored
        (later.set (self.key written.sessionId) written seconds) session.sessionId =
          some written := by
      intro same
      rw [stored_set, if_pos same.symm]
    refine ⟨set.sadd fun keys => ?_, grown.trans (.sadd _), sound_saved fun _ same => ?_⟩
    · rw [here (self.key_injective keys)]
      rfl
    · cases same
      exact ⟨⟨session, here rfl, Or.inl rfl⟩, mem_sadd _⟩
  · have performed : later.perform (.execute [.set (self.key written.sessionId) written seconds,
        .sadd self.indexKey (self.key written.sessionId)])
        (some (self.key written.sessionId, version)) = (false, none, later) := if_neg intact
    simp only [service, performed]
    exact ⟨indexed, .refl _, sound_saved fun stored => by cases stored⟩

theorem sound_checking (valid : written.validate = .ok ()) (indexed : self.Indexed session store)
    {version : Nat} (watched : written.sessionId = session.sessionId →
      version ≤ store.versions (self.key session.sessionId)) :
    self.Sound session promised token
      (self.checking token written expectedRevision (self.stored store written.sessionId))
      (some (self.key written.sessionId, version)) store := by
  cases found : self.stored store written.sessionId with
  | none => exact sound_saved fun stored => by cases stored
  | some raw =>
      obtain ⟨entry, here, value⟩ := Option.map_eq_some_iff.mp found
      have decodes : decode raw = .ok raw := decode_ok (value ▸ indexed.valid _ entry here)
      unfold checking
      dsimp only
      rw [decodes]
      dsimp only
      by_cases mismatch : raw.revision ≠ expectedRevision ∨
        written.revision ≠ expectedRevision + 1
      · rw [if_pos mismatch]
        exact sound_saved fun stored => by cases stored
      · rw [if_neg mismatch]
        apply sound_timed indexed
        intro seconds later grows _
        refine sound_executing valid (Lower.grow ?_ grows) seconds
        -- What has the version of the watch is what has just been read.
        intro same latest more current record stored
        rw [same] at found
        have unchanged := more.unchanged (Nat.le_antisymm more.version (current ▸ watched same))
        rw [← unchanged, found] at stored
        cases stored
        omega

theorem sound_saving (valid : written.validate = .ok ()) :
    self.Sound session promised token (self.saving token written expectedRevision) connection
      store := by
  intro later grows indexed
  refine ⟨indexed, .refl _, ?_⟩
  intro latest more indexed
  exact ⟨indexed, .refl _, sound_checking valid indexed fun same => same ▸ more.version⟩

/-- The loop of a listing: what it has found and what it still has to read are different sessions,
and the promised one is among them. -/
theorem sound_collecting (keys : List String) (sessions : List Session)
    (distinct : (sessions.map (fun record => self.key record.sessionId) ++ keys).Nodup)
    (present : self.key session.sessionId ∈ keys → (self.stored store session.sessionId).isSome)
    (contains : promised token → self.Holds session store ∧
      (self.key session.sessionId ∈ keys ∨ ∃ record ∈ sessions,
        record.sessionId = session.sessionId ∧
        (record = session ∨ session.revision < record.revision))) :
    self.Sound session promised token (self.collecting token keys sessions) connection store := by
  induction keys generalizing sessions store with
  | nil =>
      intro later grows indexed
      refine ⟨rfl, _, rfl, ?_, ?_, ?_⟩
      · rw [List.append_nil] at distinct
        have ids : (sessions.map Session.sessionId).Nodup := by
          apply List.Nodup.of_map self.key
          rwa [List.map_map]
        exact ((List.perm_insertionSort _ sessions).map Session.sessionId).nodup_iff.mpr ids
      · exact List.pairwise_insertionSort _ sessions
      · intro promise
        obtain ⟨record, member, good⟩ := (contains promise).2.resolve_left List.not_mem_nil
        exact ⟨record, (List.mem_insertionSort _).mpr member, good⟩
  | cons key keys inductionHypothesis =>
      intro later grows indexed
      have here : self.key session.sessionId = key →
          (self.stored later session.sessionId).isSome :=
        fun same => grows.isSome (present (same ▸ List.mem_cons_self))
      cases found : later.entries key with
      | none =>
          have performed : later.perform (.get key) connection = (none, connection, later) :=
            congrArg (fun entry => (Option.map Entry.value entry, connection, later)) found
          have other : key ≠ self.key session.sessionId := by
            intro same
            have some_ := here same.symm
            rw [stored, ← same, found] at some_
            cases some_
          show _ ∧ _ ∧ Service.Guarded _ _ _ _ _ _ _
          simp only [service, performed]
          refine ⟨indexed, .refl _, fun latest more indexed =>
            ⟨indexed.srem key, .srem other, ?_⟩⟩
          have grown := (grows.trans more).trans (.srem other)
          apply inductionHypothesis
          · exact distinct.sublist ((List.sublist_cons_self key keys).append_left _)
          · exact fun member => grown.isSome (present (List.mem_cons_of_mem _ member))
          · intro promise
            obtain ⟨holds, either⟩ := contains promise
            refine ⟨holds.grow grown, either.imp_left fun member => ?_⟩
            exact (List.mem_cons.mp member).resolve_left other.symm
      | some entry =>
          have performed : later.perform (.get key) connection =
              (some entry.value, connection, later) :=
            congrArg (fun entry => (Option.map Entry.value entry, connection, later)) found
          have own := indexed.own key entry found
          show _ ∧ _ ∧ Service.Guarded _ _ _ _ _ _ _
          simp only [service, performed, decode_ok (indexed.valid key entry found)]
          refine ⟨indexed, .refl _, ?_⟩
          apply inductionHypothesis
          · rwa [List.map_append, List.map_singleton, List.append_assoc, ← own]
          · exact fun member => grows.isSome (present (List.mem_cons_of_mem _ member))
          · intro promise
            obtain ⟨holds, either⟩ := contains promise
            refine ⟨holds.grow grows, ?_⟩
            cases either with
            | inr earlier =>
                obtain ⟨record, member, good⟩ := earlier
                exact Or.inr ⟨record, List.mem_append_left _ member, good⟩
            | inl member =>
                cases List.mem_cons.mp member with
                | inr later => exact Or.inl later
                | inl now =>
                    obtain ⟨record, stored, newer⟩ := holds.grow grows
                    rw [ValkeySessionRepository.stored, now, found] at stored
                    cases stored
                    have same := self.key_injective (now.trans own)
                    exact Or.inr ⟨entry.value, by simp, same.symm, newer⟩

/-- Every program is guarded. A listing is promised what is held and in the index when it begins. -/
theorem sound_program {request : Request} (validates : request.Validates)
    (indexed : self.Indexed session store)
    (promise : promised token → self.Holds session store ∧
      self.key session.sessionId ∈ store.members self.indexKey) :
    self.Sound session promised token (self.program token request) connection store := by
  cases request with
  | add added =>
      rw [program_add]
      exact sound_timed indexed fun seconds later _ _ =>
        sound_adding validates seconds
  | get sessionId =>
      rw [program_get]
      exact sound_getting sessionId
  | save saved expectedRevision =>
      rw [program_save]
      exact sound_saving validates
  | list =>
      rw [program_list]
      intro later grows indexed
      refine ⟨indexed, .refl _, sound_collecting _ _ ?_ indexed.present fun promises => ?_⟩
      · exact indexed.once
      · obtain ⟨holds, member⟩ := promise promises
        exact ⟨holds.grow grows, Or.inl (grows.member member)⟩

theorem befalls_grows {incident : Incident} (lasting : incident ≠ .expire session.sessionId)
    (indexed : self.Indexed session before) (befalls : self.befall before incident = some after) :
    self.Indexed session after ∧ self.Grows session before after := by
  cases incident with
  | wait duration =>
      cases befalls
      exact ⟨⟨indexed.own, indexed.valid, indexed.once, indexed.present⟩, .quiet rfl rfl id⟩
  | arrange members =>
      obtain ⟨same, equal⟩ := Option.ite_none_right_eq_some.mp befalls
      cases equal
      refine ⟨⟨indexed.own, indexed.valid, ?_, ?_⟩, .quiet rfl rfl ?_⟩
      · dsimp only
        rw [Function.update_self]
        exact same.nodup_iff.mpr indexed.once
      · dsimp only
        rw [Function.update_self]
        exact fun member => indexed.present (same.mem_iff.mp member)
      · dsimp only
        rw [Function.update_self]
        exact same.mem_iff.mpr
  | expire sessionId =>
      obtain ⟨_, equal⟩ := Option.ite_none_right_eq_some.mp befalls
      cases equal
      have other : session.sessionId ≠ sessionId := fun same => lasting (same ▸ rfl)
      have keys : self.key session.sessionId ≠ self.key sessionId :=
        fun same => other (self.key_injective same)
      have untouched : self.stored (before.expire (self.key sessionId)) session.sessionId =
          self.stored before session.sessionId := by
        rw [stored_expire, if_neg other]
      have remains : ∀ key entry, (before.expire (self.key sessionId)).entries key =
        some entry →
          before.entries key = some entry := by
        intro key entry found
        rw [ValkeyStore.expire_entries] at found
        split at found
        · cases found
        · exact found
      refine ⟨⟨?_, ?_, indexed.once, ?_⟩, ?_, id, ?_, fun _ => untouched.symm⟩
      · exact fun key entry found => indexed.own key entry (remains key entry found)
      · exact fun key entry found => indexed.valid key entry (remains key entry found)
      · rw [untouched]
        exact indexed.present
      · exact fun record found => ⟨record, untouched.trans found, Or.inl rfl⟩
      · exact (Function.update_of_ne keys _ _).symm.le

/-! ## The runs -/

variable [DecidableEq κ] {state state' : State κ} {schedule : List (Move κ Request Incident)}
  {shown : List (Label κ)}

/-- What holds of the labels of some moves: an answered version is held and in the index, and a
listing is complete. -/
theorem guards_moves (lasting : ∀ token, .event token (.expire session.sessionId) ∉ schedule)
    (validated : ∀ move ∈ schedule, Validated move) {fact : ValkeyStore → Prop}
    (stable : ∀ before after, self.Grows session before after → fact before → fact after)
    (promise : ∀ store token, fact store → promised token → self.Holds session store ∧
      self.key session.sessionId ∈ store.members self.indexKey)
    (guards : (self.service κ).Guards (fun store => self.Indexed session store ∧ fact store)
      (self.Grows session) (self.Ends session promised) state)
    (ran : (self.service κ).moves state schedule = some (shown, state')) :
    (self.service κ).Guards (fun store => self.Indexed session store ∧ fact store)
      (self.Grows session) (self.Ends session promised) state' ∧
    ∀ label ∈ shown, (self.service κ).Announces label ∨ ∃ token store,
      self.Ends session promised token label store ∧ self.Grows session store state'.store := by
  have moved := guards.moves Grows.refl (fun _ _ _ first second => first.trans second) ?_ ?_ ran
  · obtain ⟨kept, _, answers⟩ := moved
    exact ⟨kept, answers⟩
  · rintro token request planned label program connection store ⟨indexed, known⟩ started
    cases started
    have validates : request.Validates := validated _ planned
    apply (sound_program validates indexed (promise store token known)).strengthen fun _ => And.left
    exact fun before after invariant indexed grows => ⟨indexed, stable _ _ grows invariant.2⟩
  · rintro token incident planned store after ⟨indexed, known⟩ befalls
    have lasts : incident ≠ .expire session.sessionId := fun same =>
      lasting token (same ▸ planned)
    obtain ⟨indexed', grows⟩ := befalls_grows lasts indexed befalls
    exact ⟨⟨indexed', stable _ _ grows known⟩, grows⟩

omit [DecidableEq κ] in
theorem not_announced {operation : SessionOperation} {token : κ} :
    ¬(self.service κ).Announces (.answered token operation .stored) := by
  intro announced
  cases announced with
  | inl starts =>
      obtain ⟨own, request, program, started⟩ := starts
      cases request <;> cases started
  | inr reports =>
      obtain ⟨own, incident, member⟩ := reports
      cases incident <;> simp [service] at member

omit [DecidableEq κ] in
theorem not_announced_listed {result : Except Error (List Session)} {token : κ} :
    ¬(self.service κ).Announces (.listed token result) := by
  intro announced
  cases announced with
  | inl starts =>
      obtain ⟨own, request, program, started⟩ := starts
      cases request <;> cases started
  | inr reports =>
      obtain ⟨own, incident, member⟩ := reports
      cases incident <;> simp [service] at member

omit [DecidableEq κ] in
/-- The guards at the beginning. -/
theorem guards_initial :
    (self.service κ).Guards (fun store => self.Indexed session store ∧ True) (self.Grows session)
      (self.Ends session fun _ => False) (self.service κ).initial where
  invariant := by
    refine ⟨⟨?_, ?_, List.nodup_nil, ?_⟩, trivial⟩
    · intro key entry found
      cases found
    · intro key entry found
      cases found
    · intro member
      cases member
  running := by
    intro token program runs
    cases runs

/-- What was answered is held and in the index from then on. -/
theorem stored_held {token : κ} {operation : SessionOperation}
    (lasting : ∀ token, .event token (.expire session.sessionId) ∉ schedule)
    (validated : ∀ move ∈ schedule, Validated move)
    (ran : (self.service κ).moves (self.service κ).initial schedule = some (shown, state))
    (stored : .answered token operation .stored ∈ shown)
    (written : operation.written = some session) :
    (self.service κ).Guards (fun store => self.Indexed session store ∧ True) (self.Grows session)
      (self.Ends session fun _ => False) state ∧
    self.Holds session state.store ∧
      self.key session.sessionId ∈ state.store.members self.indexKey := by
  obtain ⟨guards, answers⟩ := guards_moves lasting validated (fun _ _ _ _ => trivial)
    (fun _ _ _ => False.elim)
    guards_initial ran
  obtain ⟨own, store, ends, grows⟩ := (answers _ stored).resolve_left not_announced
  obtain ⟨holds, member⟩ := ends.2 rfl written
  exact ⟨guards, holds.grow grows, grows.member member⟩

end ValkeySessionRepository

/-- What has been stored is in every listing that begins afterwards, or a later version is, while
the key does not expire and the records that are handed over validate. The listing returns, with
every session once and in the order of creation. -/
theorem stored_versions_listed {κ : Type} [DecidableEq κ] (repository : ValkeySessionRepository)
    (early late : List (Move κ ValkeySessionRepository.Request ValkeySessionRepository.Incident))
    (shown more : List (ValkeySessionRepository.Label κ))
    (between after : ValkeySessionRepository.State κ) (writer reader : κ)
    (operation : SessionOperation)
    (session : Session) (result : Except Error (List Session))
    (validated : ∀ move ∈ early ++ late, ValkeySessionRepository.Validated move)
    (ran : (repository.service κ).moves (repository.service κ).initial early =
      some (shown, between))
    (further : (repository.service κ).moves between (.request reader .list :: late) =
      some (more, after))
    (stored : .answered writer operation .stored ∈ shown)
    (written : operation.written = some session) (listed : .listed reader result ∈ more)
    (lasting : ∀ token, .event token (.expire session.sessionId) ∉ early ++ late) :
    ∃ sessions, result = .ok sessions ∧ (sessions.map Session.sessionId).Nodup ∧
      sessions.Pairwise (fun left right => left.createdAt ≤ right.createdAt) ∧
      ∃ record ∈ sessions, record.sessionId = session.sessionId ∧
        (record = session ∨ session.revision < record.revision) := by
  have lastingEarly : ∀ token, .event token (.expire session.sessionId) ∉ early :=
    fun token member => lasting token (List.mem_append_left _ member)
  have lastingLate : ∀ token, .event token (.expire session.sessionId) ∉
      .request reader ValkeySessionRepository.Request.list :: late := by
    intro token member
    cases List.mem_cons.mp member with
    | inl same => cases same
    | inr inside => exact lasting token (List.mem_append_right _ inside)
  have validatedEarly : ∀ move ∈ early, ValkeySessionRepository.Validated move :=
    fun move member => validated move (List.mem_append_left _ member)
  have validatedLate : ∀ move ∈ .request reader ValkeySessionRepository.Request.list :: late,
      ValkeySessionRepository.Validated move := by
    intro move member
    rcases List.mem_cons.mp member with rfl | inside
    · trivial
    · exact validated move (List.mem_append_right _ inside)
  obtain ⟨guards, held⟩ :=
    ValkeySessionRepository.stored_held lastingEarly validatedEarly ran stored written
  -- The caller of the listing is new, so it runs no program yet.
  have idle : between.processes reader = .idle := by
    obtain ⟨labels, _, _, moved, _⟩ := Service.moves_cons further
    cases Service.move_cases moved with
    | inl begins =>
        obtain ⟨_, _, _, _, same, idle, _⟩ := begins
        cases same
        exact idle
    | inr others =>
        obtain ⟨_, _, same, _⟩ | ⟨_, _, _, same, _⟩ | ⟨_, _, _, same, _⟩ := others
        all_goals cases same
  have promised : (repository.service κ).Guards (fun store => repository.Indexed session store ∧
      repository.Holds session store ∧
        repository.key session.sessionId ∈ store.members repository.indexKey)
      (repository.Grows session) (repository.Ends session fun token => token = reader) between := by
    refine ⟨⟨guards.invariant.1, held⟩, fun token program runs => ?_⟩
    have other : token ≠ reader := by
      intro same
      rw [same, idle] at runs
      cases runs
    apply Service.Guarded.strengthen ((guards.running token program runs).weaken ?_)
    · exact fun store invariant => ⟨invariant.1, trivial⟩
    · exact fun before after invariant indexed grows =>
        ⟨indexed.1, invariant.2.1.grow grows, grows.member invariant.2.2⟩
    · intro label store ends
      cases label with
      | called | listing => exact ends
      | answered => exact ends
      | listed own result =>
          obtain ⟨own, sessions, equal, complete⟩ := ends
          exact ⟨own, sessions, equal, complete.distinct, complete.sorted,
            fun same => absurd same other⟩
  obtain ⟨_, answers⟩ := ValkeySessionRepository.guards_moves lastingLate validatedLate
    (fun before after grows known => ⟨known.1.grow grows, grows.member known.2⟩)
    (fun store token known _ => known) promised further
  obtain ⟨token, store, ⟨own, sessions, equal, complete⟩, _⟩ :=
    (answers _ listed).resolve_left ValkeySessionRepository.not_announced_listed
  exact ⟨sessions, equal, complete.distinct, complete.sorted, complete.contains own.symm⟩

theorem saved_version_listed :
    ∃ sessions, Except.ok [exampleVersion 1] = Except.ok (ε := Error) sessions ∧
      (sessions.map Session.sessionId).Nodup ∧
      sessions.Pairwise (fun left right => left.createdAt ≤ right.createdAt) ∧
      ∃ record ∈ sessions, record.sessionId = (exampleVersion 1).sessionId ∧
        (record = exampleVersion 1 ∨ (exampleVersion 1).revision < record.revision) :=
  stored_versions_listed exampleRepository exampleSchedule [.advance 4, .advance 4, .advance 4]
    (exampleSaved ++ exampleRead) [.listing 4, .listed 4 (.ok [exampleVersion 1])] _ _ 1 4
    (.save (exampleVersion 1) 0) (exampleVersion 1) (.ok [exampleVersion 1])
    (by decide +kernel) rfl rfl (by simp [exampleSaved]) rfl (by simp) (by simp [exampleSchedule])

end RetroBrowser.SessionManager
