import RetroBrowser.SessionManager.Repositories.Callers

/-!
Owns the simulation of the Valkey repository, with the store commands of its
callers in any order, by the in-memory repository called once at a time.

Contract: an `add` takes effect at its `SET NX` and a `get` at its `GET`. A `save`
that the in-memory repository would refuse at `WATCH` is refused there; any other
takes effect at `EXEC`, unless the record changes before, which refuses it.
-/

namespace RetroBrowser.SessionManager

open RetroBrowser.Foundation RetroBrowser.Foundation.Concurrent

/-- What an operation does to the in-memory repository; expiry removes the record. -/
def SessionOperation.perform : SessionOperation → InMemorySessionRepository →
    Answer × InMemorySessionRepository
  | .add session, sessions =>
      match InMemorySessionRepository.add sessions session with
      | .ok added => (.stored, added)
      | .error error => (.raised error.className, sessions)
  | .get sessionId, sessions =>
      (.found (InMemorySessionRepository.get sessions sessionId), sessions)
  | .save session expectedRevision, sessions =>
      match InMemorySessionRepository.save sessions session expectedRevision with
      | .ok saved => (.stored, saved)
      | .error error => (.raised error.className, sessions)
  | .expire sessionId, sessions =>
      (.expired, sessions.filter fun session => session.sessionId ≠ sessionId)

namespace InMemorySessionRepository

/-- The in-memory repository, called once at a time. -/
def object : Object InMemorySessionRepository SessionOperation Answer :=
  ⟨[], SessionOperation.perform⟩

variable {sessions : InMemorySessionRepository} {session : Session} {expectedRevision : Nat}

theorem get_append (absent : get sessions session.sessionId = none) (sessionId : UUID) :
    get (sessions ++ [session]) sessionId =
      if sessionId = session.sessionId then some session else get sessions sessionId := by
  unfold get at absent ⊢
  rw [List.find?_append]
  by_cases same : sessionId = session.sessionId
  · rw [if_pos same, same, absent]
    simp
  · rw [if_neg same]
    simp [Ne.symm same]

theorem get_filter (removed sessionId : UUID) :
    get (sessions.filter fun session => session.sessionId ≠ removed) sessionId =
      if sessionId = removed then none else get sessions sessionId := by
  unfold get
  rw [List.find?_filter]
  by_cases same : sessionId = removed
  · rw [if_pos same, List.find?_eq_none]
    intro session _ found
    simp only [decide_eq_true_eq] at found
    simp_all
  · rw [if_neg same]
    refine congrArg (fun test => List.find? test sessions) (funext fun session => ?_)
    by_cases wanted : session.sessionId = sessionId <;> simp [wanted, same]

/-- The save would be accepted. -/
def Fits (current : Option Session) (session : Session) (expectedRevision : Nat) : Prop :=
  ∃ record, current = some record ∧ record.revision = expectedRevision ∧
    session.revision = expectedRevision + 1

theorem perform_add (absent : get sessions session.sessionId = none) :
    (SessionOperation.add session).perform sessions = (.stored, sessions ++ [session]) := by
  rw [SessionOperation.perform, add_ok absent]

theorem perform_add_present {record : Session}
    (present : get sessions session.sessionId = some record) :
    (SessionOperation.add session).perform sessions = (.raised "ConflictError", sessions) := by
  rw [SessionOperation.perform, add, present]
  rfl

theorem perform_save (fits : Fits (get sessions session.sessionId) session expectedRevision) :
    (SessionOperation.save session expectedRevision).perform sessions =
      (.stored, overwrite sessions session) := by
  have ⟨record, found, revision, next⟩ := fits
  rw [← revision] at next ⊢
  rw [SessionOperation.perform, save_ok found next]

theorem perform_save_refused
    (unfit : ¬Fits (get sessions session.sessionId) session expectedRevision) :
    (SessionOperation.save session expectedRevision).perform sessions =
      (.raised "RepositoryConflict", sessions) := by
  unfold SessionOperation.perform
  dsimp only
  cases saved : save sessions session expectedRevision with
  | ok after =>
      unfold save at saved
      split at saved
      · cases saved
      · rename_i record found
        split_ifs at saved with revision next
        exact absurd ⟨record, found, not_not.mp revision, not_not.mp next⟩ unfit
  | error error =>
      unfold save at saved
      split at saved
      · cases saved
        rfl
      · split_ifs at saved <;> cases saved <;> rfl

end InMemorySessionRepository

/-- The commands that write no record. -/
def Command.Aside : Command → Prop
  | .setNew .. | .execute _ => False
  | _ => True

/-- They leave the records as they are. -/
theorem Command.Aside.unchanged {command : Command} (aside : command.Aside)
    (connection : Connection) (store : ValkeyStore) :
    (store.perform command connection).2.2.entries = store.entries ∧
      (store.perform command connection).2.2.versions = store.versions := by
  cases command with
  | setNew | execute => exact aside.elim
  | now | get | smembers | sadd | srem | watch | reset => exact ⟨rfl, rfl⟩

namespace ValkeySessionRepository

open InMemorySessionRepository (Fits)

variable {κ : Type} (self : ValkeySessionRepository)

theorem key_injective : Function.Injective self.key := by
  intro left right same
  apply UUID.str_injective
  have texts := congrArg String.toList same
  simp only [key, String.toList_append] at texts
  exact String.toList_injective (List.append_cancel_left texts)

variable (store : ValkeyStore) (token : κ) (session : Session) (expectedRevision : Nat)

/-- What is stored under the key of an identifier. -/
def stored (sessionId : UUID) : Option Session :=
  (store.entries (self.key sessionId)).map Entry.value

/-- What a save does under its watch; whether it has still to read the record. -/
inductive UnderWatch : Bool → Caller κ → Prop
  | updating : UnderWatch true (self.updating token session expectedRevision)
  | timing : UnderWatch false (.send .now fun now =>
      self.executing token session expectedRevision (self.secondsAt session now))
  | executing (seconds : Int) :
      UnderWatch false (self.executing token session expectedRevision seconds)

/-- The program of a caller, what it watches, and how far its call is. -/
inductive Tracked : Process Command Command.Reply (Label κ) → Connection →
    Phase SessionOperation Answer → Prop
  | idle {connection : Connection} : Tracked .idle connection .idle
  | finished {connection : Connection} {phase : Phase SessionOperation Answer} :
      Tracked .finished connection phase
  | aside {connection : Connection} {program : Caller κ}
      (all : program.All Command.Aside fun label => label.visible = none) :
      Tracked (.running program) connection .idle
  | settled {connection : Connection} {program : Caller κ}
      {operation : SessionOperation} {answer : Answer}
      (all : program.All Command.Aside fun label =>
        label.visible = some (.answered token answer)) :
      Tracked (.running program) connection (.settled operation answer)
  | timing {connection : Connection} {session : Session} (valid : session.validate = .ok ()) :
      Tracked (.running (.send .now fun now =>
        self.adding token session (self.secondsAt session now))) connection
        (.calling (.add session))
  | adding {connection : Connection} {session : Session} (valid : session.validate = .ok ())
      (seconds : Int) :
      Tracked (.running (self.adding token session seconds)) connection (.calling (.add session))
  | getting {connection : Connection} (sessionId : UUID) :
      Tracked (.running (self.getting token sessionId)) connection (.calling (.get sessionId))
  | saving {connection : Connection} {session : Session} (valid : session.validate = .ok ())
      (expectedRevision : Nat) :
      Tracked (.running (self.saving token session expectedRevision)) connection
        (.calling (.save session expectedRevision))
  | hopeful {session : Session} {expectedRevision : Nat} {reads : Bool} {program : Caller κ}
      (valid : session.validate = .ok ())
      (under : self.UnderWatch token session expectedRevision reads program)
      (fits : Fits (self.stored store session.sessionId) session expectedRevision) :
      Tracked (.running program)
        (some (self.key session.sessionId, store.versions (self.key session.sessionId)))
        (.calling (.save session expectedRevision))
  | lost {session : Session} {expectedRevision version : Nat} {reads : Bool} {program : Caller κ}
      (under : self.UnderWatch token session expectedRevision reads program)
      (late : version < store.versions (self.key session.sessionId) ∨
        reads = true ∧ version = store.versions (self.key session.sessionId) ∧
          ¬Fits (self.stored store session.sessionId) session expectedRevision) :
      Tracked (.running program) (some (self.key session.sessionId, version))
        (.settled (.save session expectedRevision) (.raised "RepositoryConflict"))

variable {self store token session expectedRevision}
variable {process : Process Command Command.Reply (Label κ)} {connection : Connection}
  {phase : Phase SessionOperation Answer}

theorem Tracked.unchanged (tracked : self.Tracked store token process connection phase)
    {after : ValkeyStore} (entries : after.entries = store.entries)
    (versions : after.versions = store.versions) :
    self.Tracked after token process connection phase := by
  have same : ∀ sessionId, self.stored after sessionId = self.stored store sessionId := by
    intro sessionId
    rw [stored, entries, stored]
  cases tracked with
  | idle => exact .idle
  | finished => exact .finished
  | aside all => exact .aside all
  | settled all => exact .settled all
  | timing valid => exact .timing valid
  | adding valid seconds => exact .adding valid seconds
  | getting sessionId => exact .getting sessionId
  | saving valid expectedRevision => exact .saving valid expectedRevision
  | hopeful valid under fits =>
      rw [← versions]
      exact .hopeful valid under (by rwa [same])
  | lost under late => exact .lost under (by rwa [versions, same])

/-- The record under one key is written, or expires. -/
structure Changes (key : String) (before after : ValkeyStore) : Prop where
  entries : ∀ other, other ≠ key → after.entries other = before.entries other
  version : after.versions key = before.versions key + 1
  versions : ∀ other, other ≠ key → after.versions other = before.versions other

/-- A change refuses the saves that watch the record, and touches no other call. -/
theorem Tracked.changes (tracked : self.Tracked store token process connection phase)
    {sessionId : UUID} {after : ValkeyStore} (changes : Changes (self.key sessionId) store after) :
    ∃ phase', self.Tracked after token process connection phase' ∧
      (phase' = phase ∨ ∃ session expectedRevision,
        phase = .calling (.save session expectedRevision) ∧ session.sessionId = sessionId ∧
        Fits (self.stored store sessionId) session expectedRevision ∧
        phase' = .settled (.save session expectedRevision) (.raised "RepositoryConflict")) := by
  cases tracked with
  | idle => exact ⟨_, .idle, Or.inl rfl⟩
  | finished => exact ⟨_, .finished, Or.inl rfl⟩
  | aside all => exact ⟨_, .aside all, Or.inl rfl⟩
  | settled all => exact ⟨_, .settled all, Or.inl rfl⟩
  | timing valid => exact ⟨_, .timing valid, Or.inl rfl⟩
  | adding valid seconds => exact ⟨_, .adding valid seconds, Or.inl rfl⟩
  | getting sessionId => exact ⟨_, .getting sessionId, Or.inl rfl⟩
  | saving valid expectedRevision => exact ⟨_, .saving valid expectedRevision, Or.inl rfl⟩
  | @hopeful session expectedRevision reads program valid under fits =>
      by_cases same : session.sessionId = sessionId
      · refine ⟨_, .lost under (Or.inl ?_), Or.inr ⟨session, expectedRevision, rfl, same,
          same ▸ fits, rfl⟩⟩
        rw [same, changes.version]
        exact Nat.lt_succ_self _
      · have other : self.key session.sessionId ≠ self.key sessionId :=
          fun keys => same (self.key_injective keys)
        rw [← changes.versions _ other]
        refine ⟨_, .hopeful valid under ?_, Or.inl rfl⟩
        rwa [stored, changes.entries _ other]
  | @lost session expectedRevision version reads program under late =>
      refine ⟨_, .lost under ?_, Or.inl rfl⟩
      by_cases same : session.sessionId = sessionId
      · rw [same] at late ⊢
        rw [changes.version]
        omega
      · have other : self.key session.sessionId ≠ self.key sessionId :=
          fun keys => same (self.key_injective keys)
        rwa [changes.versions _ other, stored, changes.entries _ other]

/-! ## The simulation -/

/-- The store with all its callers. -/
abbrev State (κ : Type) := Shared κ Command Command.Reply Connection ValkeyStore (Label κ)

/-- The repositories agree, and every caller is where its call is. -/
structure Refines (repository : ValkeySessionRepository) (state : State κ)
    (abstract : Atomic κ InMemorySessionRepository SessionOperation Answer) : Prop where
  agree : ∀ sessionId,
    repository.stored state.store sessionId =
      InMemorySessionRepository.get abstract.value sessionId
  valid : ∀ sessionId record, repository.stored state.store sessionId = some record →
    record.validate = .ok ()
  tracked : ∀ token, repository.Tracked state.store token (state.processes token)
    (state.connections token) (abstract.phase token)
  finite : ∃ tokens : List κ, ∀ token, token ∉ tokens → abstract.phase token = .idle

variable [DecidableEq κ] {state : State κ}
  {abstract : Atomic κ InMemorySessionRepository SessionOperation Answer}

/-- A caller moves, and no record changes. -/
theorem Refines.own (refines : self.Refines state abstract) {after : ValkeyStore}
    {process : Process Command Command.Reply (Label κ)} {connection : Connection}
    {phase : Phase SessionOperation Answer} (entries : after.entries = state.store.entries)
    (versions : after.versions = state.store.versions)
    (own : self.Tracked state.store token process connection phase) :
    self.Refines ⟨after, Function.update state.connections token connection,
      Function.update state.processes token process⟩
      ⟨abstract.value, Function.update abstract.phase token phase⟩ := by
  have same : ∀ sessionId, self.stored after sessionId = self.stored state.store sessionId := by
    intro sessionId
    rw [stored, entries, stored]
  have ⟨tokens, outside⟩ := refines.finite
  refine ⟨fun sessionId => (same sessionId).trans (refines.agree sessionId),
    fun sessionId record found => refines.valid sessionId record (same sessionId ▸ found), ?_,
    token :: tokens, ?_⟩
  · intro other
    dsimp only
    by_cases here : other = token
    · rw [here, Function.update_self, Function.update_self, Function.update_self]
      exact own.unchanged entries versions
    · rw [Function.update_of_ne here, Function.update_of_ne here, Function.update_of_ne here]
      exact (refines.tracked other).unchanged entries versions
  · intro other absent
    dsimp only
    rw [Function.update_of_ne (List.ne_of_not_mem_cons absent)]
    exact outside other (List.not_mem_of_not_mem_cons absent)

/-- A record changes: the saves that it refuses are settled at once. -/
theorem Refines.change (refines : self.Refines state abstract) {after : ValkeyStore}
    {process : Process Command Command.Reply (Label κ)} {connection : Connection}
    {phase : Phase SessionOperation Answer} {value : InMemorySessionRepository} {sessionId : UUID}
    (changes : Changes (self.key sessionId) state.store after)
    (own : self.Tracked after token process connection phase)
    (agree : ∀ sessionId, self.stored after sessionId =
      InMemorySessionRepository.get value sessionId)
    (valid : ∀ record, self.stored after sessionId = some record → record.validate = .ok ())
    (unfit : ∀ session expectedRevision,
      Fits (self.stored state.store sessionId) session expectedRevision →
      ¬Fits (self.stored after sessionId) session expectedRevision) :
    ∃ abstract', Atomic.Path InMemorySessionRepository.object
      ⟨value, Function.update abstract.phase token phase⟩ [] abstract' ∧
      self.Refines ⟨after, Function.update state.connections token connection,
        Function.update state.processes token process⟩ abstract' := by
  have ⟨tokens, outside⟩ := refines.finite
  choose phases tracked settles using fun other => (refines.tracked other).changes changes
  have idle : ∀ other, other ∉ tokens → phases other = .idle := by
    intro other absent
    cases settles other with
    | inl same => rw [same, outside other absent]
    | inr refused =>
        have ⟨session, expectedRevision, calling, _⟩ := refused
        rw [outside other absent] at calling
        cases calling
  refine ⟨⟨value, Function.update phases token phase⟩, ?_, agree, ?_, ?_,
    token :: tokens, ?_⟩
  · refine Atomic.Path.settleAll (token :: tokens) ?_ ?_
    · intro other absent
      have different := List.ne_of_not_mem_cons absent
      have far := List.not_mem_of_not_mem_cons absent
      dsimp only
      rw [Function.update_of_ne different, Function.update_of_ne different, idle other far,
        outside other far]
    · intro other
      dsimp only
      by_cases here : other = token
      · rw [here, Function.update_self, Function.update_self]
        exact Or.inl rfl
      · rw [Function.update_of_ne here, Function.update_of_ne here]
        cases settles other with
        | inl same => exact Or.inl same
        | inr refused =>
            have ⟨session, expectedRevision, calling, same, fits, settled⟩ := refused
            refine Or.inr ⟨_, _, calling, ?_, settled⟩
            apply InMemorySessionRepository.perform_save_refused
            rw [← agree, same]
            exact unfit session expectedRevision fits
  · intro other record found
    by_cases here : other = sessionId
    · exact valid record (here ▸ found)
    · apply refines.valid other record
      rw [← found, stored, stored,
        changes.entries _ fun keys => here (self.key_injective keys)]
  · intro other
    dsimp only
    by_cases here : other = token
    · rw [here, Function.update_self, Function.update_self, Function.update_self]
      exact own
    · rw [Function.update_of_ne here, Function.update_of_ne here, Function.update_of_ne here]
      exact tracked other
  · intro other absent
    dsimp only
    rw [Function.update_of_ne (List.ne_of_not_mem_cons absent)]
    exact idle other (List.not_mem_of_not_mem_cons absent)

section Moves

variable {after : ValkeyStore} {process : Process Command Command.Reply (Label κ)}
  {connection : Connection} {operation : SessionOperation} {answer : Answer}

/-- A caller moves on, and its call stays where it is. -/
theorem Refines.stay (refines : self.Refines state abstract)
    (entries : after.entries = state.store.entries)
    (versions : after.versions = state.store.versions)
    (own : self.Tracked state.store token process connection (abstract.phase token)) :
    self.Refines ⟨after, Function.update state.connections token connection,
      Function.update state.processes token process⟩ abstract := by
  have moved := refines.own entries versions own
  rwa [Function.update_eq_self] at moved

/-- A call takes effect without changing a record. -/
theorem Refines.settle (refines : self.Refines state abstract)
    (calling : abstract.phase token = .calling operation)
    (performed : operation.perform abstract.value = (answer, abstract.value))
    (entries : after.entries = state.store.entries)
    (versions : after.versions = state.store.versions)
    (own : self.Tracked state.store token process connection (.settled operation answer)) :
    ∃ abstract', Atomic.Path InMemorySessionRepository.object abstract [] abstract' ∧
      self.Refines ⟨after, Function.update state.connections token connection,
        Function.update state.processes token process⟩ abstract' := by
  have step : Atomic.Step InMemorySessionRepository.object abstract [] _ := .settle calling
  have effect : InMemorySessionRepository.object.perform operation abstract.value =
    (answer, abstract.value) := performed
  rw [effect] at step
  exact ⟨_, .single step, refines.own entries versions own⟩

/-- A call takes effect and changes a record. -/
theorem Refines.write (refines : self.Refines state abstract)
    (calling : abstract.phase token = .calling operation) {value : InMemorySessionRepository}
    (performed : operation.perform abstract.value = (answer, value)) {sessionId : UUID}
    (changes : Changes (self.key sessionId) state.store after)
    (own : self.Tracked after token process connection (.settled operation answer))
    (agree : ∀ sessionId, self.stored after sessionId =
      InMemorySessionRepository.get value sessionId)
    (valid : ∀ record, self.stored after sessionId = some record → record.validate = .ok ())
    (unfit : ∀ session expectedRevision,
      Fits (self.stored state.store sessionId) session expectedRevision →
      ¬Fits (self.stored after sessionId) session expectedRevision) :
    ∃ abstract', Atomic.Path InMemorySessionRepository.object abstract [] abstract' ∧
      self.Refines ⟨after, Function.update state.connections token connection,
        Function.update state.processes token process⟩ abstract' := by
  have step : Atomic.Step InMemorySessionRepository.object abstract [] _ := .settle calling
  have effect : InMemorySessionRepository.object.perform operation abstract.value =
    (answer, value) := performed
  rw [effect] at step
  have ⟨abstract', path, refined⟩ := refines.change changes own agree valid unfit
  exact ⟨abstract', (Atomic.Path.single step).trans path, refined⟩

/-- A record is written. -/
theorem changes_set (sessionId : UUID) (value : Session) (seconds : Int) :
    Changes (self.key sessionId) store (store.set (self.key sessionId) value seconds) where
  entries := fun _ other => Function.update_of_ne other _ _
  version := Function.update_self ..
  versions := fun _ other => Function.update_of_ne other _ _

theorem changes_expire (sessionId : UUID) :
    Changes (self.key sessionId) store (store.expire (self.key sessionId)) where
  entries := fun _ other => Function.update_of_ne other _ _
  version := Function.update_self ..
  versions := fun _ other => Function.update_of_ne other _ _

theorem stored_set (written sessionId : UUID) (value : Session) (seconds : Int) :
    self.stored (store.set (self.key written) value seconds) sessionId =
      if sessionId = written then some value else self.stored store sessionId := by
  unfold stored
  rw [ValkeyStore.set_entries]
  by_cases same : sessionId = written
  · rw [if_pos same, if_pos (congrArg self.key same)]
    rfl
  · rw [if_neg same, if_neg fun keys => same (self.key_injective keys)]

theorem stored_expire (expired sessionId : UUID) :
    self.stored (store.expire (self.key expired)) sessionId =
      if sessionId = expired then none else self.stored store sessionId := by
  unfold stored
  rw [ValkeyStore.expire_entries]
  by_cases same : sessionId = expired
  · rw [if_pos same, if_pos (congrArg self.key same)]
    rfl
  · rw [if_neg same, if_neg fun keys => same (self.key_injective keys)]

/-- The answer to an `add`: conflict where there is a record. -/
theorem Refines.add (refines : self.Refines state abstract) (valid : session.validate = .ok ())
    (seconds : Int) (calling : abstract.phase token = .calling (.add session)) :
    ∃ abstract', Atomic.Path InMemorySessionRepository.object abstract [] abstract' ∧
      self.Refines ((self.service κ).sent state token
        (.setNew (self.key session.sessionId) session seconds) fun created =>
          match created with
          | true => .send (.sadd self.indexKey (self.key session.sessionId)) fun _ =>
              .done (.answered token (.add session) .stored)
          | false => .done (.answered token (.add session) (.raised "ConflictError")))
        abstract' := by
  have agree := refines.agree session.sessionId
  cases found : self.stored state.store session.sessionId with
  | some record =>
      rw [found] at agree
      have present : (state.store.entries (self.key session.sessionId)).isSome = true := by
        rw [← Option.isSome_map (f := Entry.value), ← stored, found]
        rfl
      have performed : state.store.perform (.setNew (self.key session.sessionId) session seconds)
          (state.connections token) = (false, state.connections token, state.store) :=
            if_pos present
      rw [Service.sent_eq performed]
      exact refines.settle calling (InMemorySessionRepository.perform_add_present agree.symm)
        rfl rfl
        (.settled rfl)
  | none =>
      rw [found] at agree
      have absent : ¬(state.store.entries (self.key session.sessionId)).isSome = true := by
        rw [← Option.isSome_map (f := Entry.value), ← stored, found]
        simp
      have performed : state.store.perform (.setNew (self.key session.sessionId) session seconds)
          (state.connections token) = (true, state.connections token,
            state.store.set (self.key session.sessionId) session seconds) := if_neg absent
      rw [Service.sent_eq performed]
      refine refines.write calling (InMemorySessionRepository.perform_add agree.symm)
        (changes_set session.sessionId session seconds)
          (.settled ⟨trivial, fun _ => rfl⟩) ?_ ?_ ?_
      · intro sessionId
        rw [stored_set, InMemorySessionRepository.get_append agree.symm, refines.agree]
      · intro record written
        rw [stored_set, if_pos rfl] at written
        rwa [← Option.some.inj written]
      · intro other expectedRevision fits
        rw [found] at fits
        have ⟨record, impossible, _⟩ := fits
        cases impossible

/-- The answer to a `get`. -/
theorem Refines.get (refines : self.Refines state abstract) (sessionId : UUID)
    (calling : abstract.phase token = .calling (.get sessionId)) :
    ∃ abstract', Atomic.Path InMemorySessionRepository.object abstract [] abstract' ∧
      self.Refines ((self.service κ).sent state token (.get (self.key sessionId)) fun value =>
        .done (.answered token (.get sessionId) (.ofFound
          (match value with
          | none => .ok none
          | some value => (decode value).map some)))) abstract' := by
  have performed : state.store.perform (.get (self.key sessionId)) (state.connections token) =
    (self.stored state.store sessionId, state.connections token, state.store) := rfl
  rw [Service.sent_eq performed]
  apply refines.settle calling rfl rfl rfl
  rw [← refines.agree]
  cases found : self.stored state.store sessionId with
  | none => exact .settled rfl
  | some record =>
      dsimp only
      rw [decode_ok (refines.valid sessionId record found)]
      exact .settled rfl

/-- A save that is refused under the watch is refused there; another one may hope. -/
theorem Refines.watch (refines : self.Refines state abstract) (valid : session.validate = .ok ())
    (calling : abstract.phase token = .calling (.save session expectedRevision)) :
    ∃ abstract', Atomic.Path InMemorySessionRepository.object abstract [] abstract' ∧
      self.Refines ((self.service κ).sent state token (.watch (self.key session.sessionId))
        fun _ => self.updating token session expectedRevision) abstract' := by
  have performed : state.store.perform (.watch (self.key session.sessionId))
    (state.connections token) = ((), some (self.key session.sessionId,
      state.store.versions (self.key session.sessionId)), state.store) := rfl
  rw [Service.sent_eq performed]
  by_cases fits : Fits (self.stored state.store session.sessionId) session expectedRevision
  · refine ⟨abstract, .refl _, refines.stay rfl rfl ?_⟩
    rw [calling]
    exact .hopeful valid .updating fits
  · apply refines.settle calling _ rfl rfl (.lost .updating (Or.inr ⟨rfl, rfl, fits⟩))
    apply InMemorySessionRepository.perform_save_refused
    rwa [← refines.agree]

omit [DecidableEq κ] in
/-- A save that gives up leaves the records alone. -/
theorem saved_all (answer : Answer) :
    (saved token session expectedRevision answer).All Command.Aside fun label =>
      label.visible = some (.answered token answer) :=
  ⟨trivial, fun _ => rfl⟩

omit [DecidableEq κ] in
/-- The checks on what was read: the save gives up, or it goes on. -/
theorem checking_cases {value : Option Session}
    (valid : ∀ record, value = some record → record.validate = .ok ()) :
    (¬Fits value session expectedRevision ∧
      self.checking token session expectedRevision value =
        saved token session expectedRevision (.raised "RepositoryConflict")) ∨
    (Fits value session expectedRevision ∧
      self.UnderWatch token session expectedRevision false
        (self.checking token session expectedRevision value)) := by
  cases value with
  | none =>
      refine Or.inl ⟨?_, rfl⟩
      intro ⟨record, impossible, _⟩
      cases impossible
  | some record =>
      unfold checking
      dsimp only
      rw [decode_ok (valid record rfl)]
      dsimp only
      by_cases mismatch : record.revision ≠ expectedRevision ∨
        session.revision ≠ expectedRevision + 1
      · rw [if_pos mismatch]
        refine Or.inl ⟨?_, rfl⟩
        intro ⟨current, same, revision, next⟩
        cases same
        omega
      · rw [if_neg mismatch]
        refine Or.inr ⟨⟨record, rfl, by omega, by omega⟩, ?_⟩
        unfold timed
        split
        · exact .executing _
        · exact .timing

/-- What was promised at the watch is read. -/
theorem Refines.readHopeful (refines : self.Refines state abstract)
    (valid : session.validate = .ok ())
    (watches : state.connections token = some (self.key session.sessionId,
      state.store.versions (self.key session.sessionId)))
    (calling : abstract.phase token = .calling (.save session expectedRevision))
    (fits : Fits (self.stored state.store session.sessionId) session expectedRevision) :
    self.Refines
      ((self.service κ).sent state token (.get (self.key session.sessionId)) fun value =>
      self.checking token session expectedRevision value) abstract := by
  have performed : state.store.perform (.get (self.key session.sessionId))
    (state.connections token) = (self.stored state.store session.sessionId,
      state.connections token, state.store) := rfl
  rw [Service.sent_eq performed, watches]
  apply refines.stay rfl rfl
  rw [calling]
  cases self.checking_cases (refines.valid session.sessionId) with
  | inl unfit => exact absurd fits unfit.1
  | inr under => exact .hopeful valid under.2 fits

/-- A lost save gives up, or it goes on in vain. -/
theorem Refines.readLost (refines : self.Refines state abstract) {version : Nat}
    (watches : state.connections token = some (self.key session.sessionId, version))
    (settled : abstract.phase token =
      .settled (.save session expectedRevision) (.raised "RepositoryConflict"))
    (late : version < state.store.versions (self.key session.sessionId) ∨
      ¬Fits (self.stored state.store session.sessionId) session expectedRevision) :
    self.Refines
      ((self.service κ).sent state token (.get (self.key session.sessionId)) fun value =>
      self.checking token session expectedRevision value) abstract := by
  have performed : state.store.perform (.get (self.key session.sessionId))
    (state.connections token) = (self.stored state.store session.sessionId,
      state.connections token, state.store) := rfl
  rw [Service.sent_eq performed, watches]
  apply refines.stay rfl rfl
  rw [settled]
  cases self.checking_cases (refines.valid session.sessionId) with
  | inl unfit =>
      rw [unfit.2]
      exact .settled (saved_all _)
  | inr under =>
      cases late with
      | inl old => exact .lost under.2 (Or.inl old)
      | inr unfit => exact absurd under.1 unfit

/-- A transaction that nothing came before. -/
theorem Refines.executeHopeful (refines : self.Refines state abstract) (seconds : Int)
    (valid : session.validate = .ok ())
    (watches : state.connections token = some (self.key session.sessionId,
      state.store.versions (self.key session.sessionId)))
    (calling : abstract.phase token = .calling (.save session expectedRevision))
    (fits : Fits (self.stored state.store session.sessionId) session expectedRevision) :
    ∃ abstract', Atomic.Path InMemorySessionRepository.object abstract [] abstract' ∧
      self.Refines ((self.service κ).sent state token
        (.execute [.set (self.key session.sessionId) session seconds,
          .sadd self.indexKey (self.key session.sessionId)]) fun executed =>
        match executed with
        | true => saved token session expectedRevision .stored
        | false => saved token session expectedRevision (.raised "RepositoryConflict"))
        abstract' := by
  have intact : state.store.intact (state.connections token) = true := by
    rw [watches]
    exact decide_eq_true rfl
  have performed : state.store.perform (.execute [.set (self.key session.sessionId) session seconds,
      .sadd self.indexKey (self.key session.sessionId)]) (state.connections token) =
    (true, none, (state.store.set (self.key session.sessionId) session seconds).sadd self.indexKey
      (self.key session.sessionId)) := if_pos intact
  rw [Service.sent_eq performed]
  have ⟨record, found, revision, next⟩ := fits
  have promised := fits
  rw [refines.agree] at promised
  have set : Changes (self.key session.sessionId) state.store
      (state.store.set (self.key session.sessionId) session seconds) :=
    self.changes_set session.sessionId session seconds
  refine refines.write calling (InMemorySessionRepository.perform_save promised)
    ⟨set.entries, set.version, set.versions⟩ (.settled (saved_all _)) ?_ ?_ ?_
  · intro sessionId
    refine (self.stored_set session.sessionId sessionId session seconds).trans ?_
    rw [InMemorySessionRepository.get_overwrite, ← refines.agree]
    by_cases same : sessionId = session.sessionId
    · rw [if_pos same, if_pos same, same, found]
      rfl
    · rw [if_neg same, if_neg same]
  · intro written same
    have now :=
      (self.stored_set session.sessionId session.sessionId session seconds).symm.trans same
    rw [if_pos rfl] at now
    rwa [← Option.some.inj now]
  · -- The new record has the next revision, which no save expects that fitted before.
    intro other expected before now
    have ⟨old, wasFound, wasExpected, _⟩ := before
    have ⟨current, isFound, isExpected, _⟩ := now
    have written := (self.stored_set session.sessionId session.sessionId session seconds).symm.trans
      isFound
    rw [if_pos rfl] at written
    rw [found] at wasFound
    cases written
    cases wasFound
    omega

/-- A transaction that something came before. -/
theorem Refines.executeLost (refines : self.Refines state abstract) (seconds : Int) {version : Nat}
    (watches : state.connections token = some (self.key session.sessionId, version))
    (settled : abstract.phase token =
      .settled (.save session expectedRevision) (.raised "RepositoryConflict"))
    (old : version < state.store.versions (self.key session.sessionId)) :
    self.Refines ((self.service κ).sent state token
      (.execute [.set (self.key session.sessionId) session seconds,
        .sadd self.indexKey (self.key session.sessionId)]) fun executed =>
      match executed with
      | true => saved token session expectedRevision .stored
      | false => saved token session expectedRevision (.raised "RepositoryConflict"))
      abstract := by
  have broken : ¬state.store.intact (state.connections token) = true := by
    rw [watches]
    intro same
    exact old.ne' (of_decide_eq_true same)
  have performed : state.store.perform (.execute [.set (self.key session.sessionId) session seconds,
      .sadd self.indexKey (self.key session.sessionId)]) (state.connections token) =
    (false, none, state.store) := if_neg broken
  rw [Service.sent_eq performed]
  apply refines.stay rfl rfl
  rw [settled]
  exact .settled (saved_all _)

/-- A command of a program that writes no record. -/
theorem Refines.aside (refines : self.Refines state abstract) {command : Command}
    {next : command.Reply → Caller κ} {ends : Label κ → Prop}
    (all : (Client.send command next).All Command.Aside ends)
    (tracked : ∀ program : Caller κ, program.All Command.Aside ends → ∀ connection,
      self.Tracked state.store token (.running program) connection (abstract.phase token)) :
    self.Refines ((self.service κ).sent state token command next) abstract :=
  have unchanged := all.1.unchanged (state.connections token) state.store
  refines.stay unchanged.1 unchanged.2 (tracked _ (all.2 _) _)

/-- A command of any caller. -/
theorem Refines.sent (refines : self.Refines state abstract) {command : Command}
    {next : command.Reply → Caller κ}
    (runs : state.processes token = .running (.send command next)) :
    ∃ abstract', Atomic.Path InMemorySessionRepository.object abstract [] abstract' ∧
      self.Refines ((self.service κ).sent state token command next) abstract' := by
  have tracked := refines.tracked token
  generalize current : state.processes token = process at tracked
  generalize watches : state.connections token = connection at tracked
  generalize stage : abstract.phase token = phase at tracked
  rw [runs] at current
  cases tracked with
  | idle => cases current
  | finished => cases current
  | aside all =>
      cases current
      refine ⟨abstract, .refl _, refines.aside all fun program rest _ => ?_⟩
      rw [stage]
      exact .aside rest
  | settled all =>
      cases current
      refine ⟨abstract, .refl _, refines.aside all fun program rest _ => ?_⟩
      rw [stage]
      exact .settled rest
  | timing valid =>
      cases current
      refine ⟨abstract, .refl _, refines.stay rfl rfl ?_⟩
      rw [stage]
      exact .adding valid _
  | adding valid seconds =>
      unfold adding at current
      cases current
      exact refines.add valid seconds stage
  | getting sessionId =>
      unfold getting at current
      cases current
      exact refines.get sessionId stage
  | saving valid expectedRevision =>
      unfold saving at current
      cases current
      exact refines.watch valid stage
  | hopeful valid under fits =>
      cases under with
      | updating =>
          unfold updating at current
          cases current
          exact ⟨abstract, .refl _, refines.readHopeful valid watches stage fits⟩
      | timing =>
          cases current
          refine ⟨abstract, .refl _, refines.stay rfl rfl ?_⟩
          rw [stage]
          show self.Tracked _ _ _ (state.connections token) _
          rw [watches]
          exact .hopeful valid (.executing _) fits
      | executing seconds =>
          unfold executing at current
          cases current
          exact refines.executeHopeful seconds valid watches stage fits
  | lost under late =>
      cases under with
      | updating =>
          unfold updating at current
          cases current
          exact ⟨abstract, .refl _,
            refines.readLost watches stage (late.imp_right fun now => now.2.2)⟩
      | timing =>
          cases current
          refine ⟨abstract, .refl _, refines.stay rfl rfl ?_⟩
          rw [stage]
          show self.Tracked _ _ _ (state.connections token) _
          rw [watches]
          exact .lost (.executing _) (late.imp_right fun now => absurd now.1 (by decide))
      | executing seconds =>
          unfold executing at current
          cases current
          have old := late.resolve_right fun now => absurd now.1 (by decide)
          exact ⟨abstract, .refl _, refines.executeLost seconds watches stage old⟩

omit [DecidableEq κ] in
/-- The loop of a list writes no record, and its answer is not one of an operation. -/
theorem collecting_all (keys : List String) (sessions : List Session) :
    (self.collecting token keys sessions).All Command.Aside fun label => label.visible = none := by
  induction keys generalizing sessions with
  | nil => rfl
  | cons key keys inductionHypothesis =>
      refine ⟨trivial, fun (value : Option Session) => ?_⟩
      cases value with
      | none => exact ⟨trivial, fun _ => inductionHypothesis sessions⟩
      | some value =>
          dsimp only
          cases decode value with
          | error error => rfl
          | ok session => exact inductionHypothesis (sessions ++ [session])

omit [DecidableEq κ] in
theorem timed_add (valid : session.validate = .ok ()) (connection : Connection) :
    self.Tracked store token (.running (self.timed session (self.adding token session))) connection
      (.calling (.add session)) := by
  unfold timed
  split
  · exact .adding valid _
  · exact .timing valid

omit [DecidableEq κ] in
/-- Before its request begins, a call is not on its way. -/
theorem Refines.fresh (refines : self.Refines state abstract)
    (idle : state.processes token = .idle) : abstract.phase token = .idle := by
  have unbegun : ∀ {process connection phase},
      self.Tracked state.store token process connection phase →
      process = .idle → phase = .idle := by
    intro process connection phase tracked same
    cases tracked with
    | idle => rfl
    | finished | aside | settled | timing | adding | getting | saving | hopeful | lost => cases same
  exact unbegun (refines.tracked token) idle

/-- A request begins. -/
theorem Refines.start (refines : self.Refines state abstract) {request : Request}
    {label : Label κ} {program : Caller κ} (validates : request.Validates)
    (idle : state.processes token = .idle)
    (started : (self.service κ).start token request = some (label, program)) :
    ∃ abstract', Atomic.Path InMemorySessionRepository.object abstract
        ([label].filterMap Label.visible) abstract' ∧
      self.Refines ⟨state.store, Function.update state.connections token
        (state.connections token),
        Function.update state.processes token (.running program)⟩ abstract' := by
  have fresh := refines.fresh idle
  cases started
  cases request with
  | add session =>
      rw [program_add]
      exact ⟨_, .single (.call fresh (.add session)),
        refines.own rfl rfl (timed_add validates _)⟩
  | get sessionId =>
      rw [program_get]
      exact ⟨_, .single (.call fresh (.get sessionId)),
        refines.own rfl rfl (.getting sessionId)⟩
  | save session expectedRevision =>
      rw [program_save]
      exact ⟨_, .single (.call fresh (.save session expectedRevision)),
        refines.own rfl rfl (.saving validates expectedRevision)⟩
  | list =>
      rw [program_list]
      refine ⟨abstract, .refl _, refines.stay rfl rfl ?_⟩
      rw [fresh]
      exact .aside ⟨trivial, fun keys => collecting_all keys []⟩

/-- A caller gets its answer. -/
theorem Refines.answered (refines : self.Refines state abstract) {label : Label κ}
    (runs : state.processes token = .running (.done label)) :
    ∃ abstract', Atomic.Path InMemorySessionRepository.object abstract
        ([label].filterMap Label.visible) abstract' ∧
      self.Refines ⟨state.store, Function.update state.connections token
        (state.connections token),
        Function.update state.processes token .finished⟩ abstract' := by
  have tracked := refines.tracked token
  generalize current : state.processes token = process at tracked
  generalize watches : state.connections token = connection at tracked
  generalize stage : abstract.phase token = phase at tracked
  rw [runs] at current
  cases tracked with
  | idle => cases current
  | finished => cases current
  | aside all =>
      cases current
      have unseen : label.visible = none := all
      rw [List.filterMap_cons_none unseen]
      exact ⟨abstract, .refl _, refines.stay rfl rfl .finished⟩
  | @settled connection program operation answer all =>
      cases current
      have seen : label.visible = some (.answered token answer) := all
      rw [List.filterMap_cons_some seen]
      exact ⟨_, .single (.answer stage), refines.own rfl rfl .finished⟩
  | timing valid => cases current
  | adding valid seconds => unfold adding at current; cases current
  | getting sessionId => unfold getting at current; cases current
  | saving valid expectedRevision => unfold saving at current; cases current
  | hopeful valid under fits =>
      cases under with
      | updating => unfold updating at current; cases current
      | timing => cases current
      | executing seconds => unfold executing at current; cases current
  | lost under late =>
      cases under with
      | updating => unfold updating at current; cases current
      | timing => cases current
      | executing seconds => unfold executing at current; cases current

/-- A key expires: calls of the in-memory repository see it at once. -/
theorem Refines.expire (refines : self.Refines state abstract) (sessionId : UUID)
    (fresh : abstract.phase token = .idle) :
    ∃ abstract', Atomic.Path InMemorySessionRepository.object abstract
        [.called token (.expire sessionId), .answered token .expired] abstract' ∧
      self.Refines ⟨state.store.expire (self.key sessionId),
        Function.update state.connections token (state.connections token),
        Function.update state.processes token .finished⟩ abstract' := by
  have later : ∃ abstract', Atomic.Path InMemorySessionRepository.object
      ⟨abstract.value.filter fun session => session.sessionId ≠ sessionId,
        Function.update abstract.phase token .finished⟩ [] abstract' ∧
      self.Refines ⟨state.store.expire (self.key sessionId),
        Function.update state.connections token (state.connections token),
        Function.update state.processes token .finished⟩ abstract' := by
    apply refines.change (changes_expire sessionId) .finished
    · intro other
      rw [stored_expire, InMemorySessionRepository.get_filter, refines.agree]
    · intro record found
      rw [stored_expire, if_pos rfl] at found
      cases found
    · intro session expectedRevision _ ⟨record, found, _⟩
      rw [stored_expire, if_pos rfl] at found
      cases found
  have ⟨abstract', path, refined⟩ := later
  exact ⟨abstract', (Atomic.Path.whole fresh (.expire sessionId)).trans path, refined⟩

end Moves

/-- What befalls the store. -/
theorem Refines.befallen (refines : self.Refines state abstract) {incident : Incident}
    {after : ValkeyStore} (idle : state.processes token = .idle)
    (befalls : self.befall state.store incident = some after) :
    ∃ abstract', Atomic.Path InMemorySessionRepository.object abstract
        (((self.service κ).reports token incident).filterMap Label.visible) abstract' ∧
      self.Refines ⟨after, Function.update state.connections token (state.connections token),
        Function.update state.processes token .finished⟩ abstract' := by
  cases incident with
  | expire sessionId =>
      have ⟨_, equal⟩ := Option.ite_none_right_eq_some.mp befalls
      cases equal
      exact refines.expire sessionId (refines.fresh idle)
  | wait duration =>
      cases befalls
      exact ⟨abstract, .refl _, refines.stay rfl rfl .finished⟩
  | arrange members =>
      have ⟨_, equal⟩ := Option.ite_none_right_eq_some.mp befalls
      cases equal
      exact ⟨abstract, .refl _, refines.stay rfl rfl .finished⟩

variable (self κ) in
/-- The in-memory repository, called once at a time, follows every move of callers whose records
validate. -/
theorem simulates : Simulates Label.visible ((self.service κ).system Validated)
    InMemorySessionRepository.object self.Refines where
  start := by
    refine ⟨fun sessionId => rfl, fun sessionId record found => ?_, fun token => .idle, [],
      fun token _ => rfl⟩
    cases found
  step := by
    intro shown before labels after abstract _ refines ⟨move, validated, moved⟩
    cases Service.move_cases moved with
    | inl begins =>
        obtain ⟨token, request, label, program, rfl, idle, started, rfl, rfl⟩ := begins
        have stepped := refines.start validated idle started
        rwa [Function.update_eq_self] at stepped
    | inr more =>
    cases more with
    | inl ended =>
        obtain ⟨token, label, rfl, runs, rfl, rfl⟩ := ended
        have stepped := refines.answered runs
        rwa [Function.update_eq_self] at stepped
    | inr more =>
    cases more with
    | inl sends =>
        obtain ⟨token, command, next, rfl, runs, rfl, rfl⟩ := sends
        exact refines.sent runs
    | inr befallen =>
        obtain ⟨token, event, store, rfl, idle, befalls, rfl, rfl⟩ := befallen
        have stepped := refines.befallen idle befalls
        rwa [Function.update_eq_self] at stepped

end ValkeySessionRepository

end RetroBrowser.SessionManager
