import RetroBrowser.SessionManager.Properties.Concurrency

/-!
Owns the retention of records: in every run of the Valkey repository, the record
of a session that is not closed does not expire before the session does, and then
only after the retention period.

Contract: a clock that never goes back. The seconds of a record are counted from a
clock that was read before the store received it, so the record stays longer.
-/

namespace RetroBrowser.SessionManager

open RetroBrowser.Foundation RetroBrowser.Foundation.Concurrent

namespace ValkeySessionRepository

variable {κ : Type} {self : ValkeySessionRepository} {store : ValkeyStore} {session : Session}
  {token : κ} {connection : Connection} {expectedRevision : Nat}

/-- No record of a session that is not closed expires before the session does and has been
retained. -/
def Retains (repository : ValkeySessionRepository) (store : ValkeyStore) : Prop :=
  ∀ key entry, store.entries key = some entry → entry.value.state ≠ .closed →
    entry.value.expiresAt + repository.closedRetentionSeconds * 1000000 ≤ entry.deadline

/-- The clock does not go back. -/
def Ages (before after : ValkeyStore) : Prop := before.clock ≤ after.clock

theorem Ages.refl (store : ValkeyStore) : Ages store store := le_refl store.clock

theorem Ages.trans {before between after : ValkeyStore} (first : Ages before between)
    (second : Ages between after) : Ages before after := le_trans first second

/-- The seconds are enough from the clock of the store on. -/
def Enough (repository : ValkeySessionRepository) (session : Session) (seconds : Int)
    (store : ValkeyStore) : Prop :=
  session.state ≠ .closed →
    session.expiresAt + repository.closedRetentionSeconds * 1000000 ≤
      store.clock + seconds * 1000000

theorem Enough.age {seconds : Int} {after : ValkeyStore}
    (enough : self.Enough session seconds store) (ages : Ages store after) :
    self.Enough session seconds after := by
  intro active
  exact (enough active).trans (Int.add_le_add_right ages _)

/-- Rounded up, a duration is not shorter. -/
theorem le_ceilSeconds (duration : Duration) : duration ≤ ceilSeconds duration * 1000000 := by
  have rounded : ∀ value : Int, value ≤ -(-value / 1000000) * 1000000 := by
    intro value
    omega
  exact rounded duration

theorem enough_secondsAt (session : Session) (store : ValkeyStore) :
    self.Enough session (self.secondsAt session store.clock) store := by
  intro _
  have arithmetic : ∀ expires now rounded retention seconds : Int,
      expires - now ≤ rounded * 1000000 → rounded + retention ≤ seconds →
      expires + retention * 1000000 ≤ now + seconds * 1000000 := by
    intro expires now rounded retention seconds remaining most
    omega
  exact arithmetic _ _ _ _ _ (le_ceilSeconds (session.expiresAt - store.clock)) (le_max_right _ _)

theorem Retains.set (retains : self.Retains store) {seconds : Int}
    (enough : self.Enough session seconds store) (key : String) :
    self.Retains (store.set key session seconds) := by
  intro other entry found active
  rw [ValkeyStore.set_entries] at found
  split at found
  · cases found
    exact enough active
  · exact retains other entry found active

variable (κ) in
/-- The programs keep the records, and their ends do not matter. -/
abbrev Careful (self : ValkeySessionRepository) (program : Caller κ) (connection : Connection)
    (store : ValkeyStore) : Prop :=
  (self.service κ).Guarded self.Retains Ages (fun _ _ => True) program connection store

/-- A program that writes no record. -/
theorem careful_aside {program : Caller κ} (ends : Label κ → Prop)
    (all : program.All Command.Aside ends) : self.Careful κ program connection store := by
  induction program generalizing connection store with
  | done label => exact fun _ _ _ => trivial
  | send command next inductionHypothesis =>
      intro later _ retains
      obtain ⟨entries, _⟩ := all.1.unchanged connection later
      have clock : (later.perform command connection).2.2.clock = later.clock := by
        cases command with
        | setNew | execute => exact all.1.elim
        | now | get | smembers | sadd | srem | watch | reset => rfl
      refine ⟨?_, clock.ge, inductionHypothesis _ (all.2 _)⟩
      intro key entry found
      exact retains key entry ((congrFun entries key).symm.trans found)

theorem careful_timed {next : Int → Caller κ}
    (careful : ∀ seconds later, self.Enough session seconds later →
      self.Careful κ (next seconds) connection later) :
    self.Careful κ (self.timed session next) connection store := by
  unfold timed
  split
  · rename_i closed
    exact careful _ _ fun active => absurd closed active
  · exact fun later _ retains =>
      ⟨retains, .refl _, careful _ _ (enough_secondsAt session later)⟩

theorem careful_adding {seconds : Int} (enough : self.Enough session seconds store) :
    self.Careful κ (self.adding token session seconds) connection store := by
  intro later ages retains
  show _ ∧ _ ∧ Service.Guarded _ _ _ _ _ _ _
  by_cases taken : (later.entries (self.key session.sessionId)).isSome
  · have performed : later.perform (.setNew (self.key session.sessionId) session seconds)
        connection = (false, connection, later) := if_pos taken
    simp only [service, performed]
    exact ⟨retains, .refl _, fun _ _ _ => trivial⟩
  · have performed : later.perform (.setNew (self.key session.sessionId) session seconds)
        connection = (true, connection,
          later.set (self.key session.sessionId) session seconds) := if_neg taken
    simp only [service, performed]
    refine ⟨retains.set (enough.age ages) _, .refl _, ?_⟩
    exact careful_aside (fun _ => True) ⟨trivial, fun _ => trivial⟩

theorem careful_executing {seconds : Int} (enough : self.Enough session seconds store) :
    self.Careful κ (self.executing token session expectedRevision seconds) connection store := by
  intro later ages retains
  show _ ∧ _ ∧ Service.Guarded _ _ _ _ _ _ _
  by_cases intact : later.intact connection = true
  · have performed : later.perform (.execute [.set (self.key session.sessionId) session seconds,
        .sadd self.indexKey (self.key session.sessionId)]) connection =
      (true, none, (later.set (self.key session.sessionId) session seconds).sadd self.indexKey
        (self.key session.sessionId)) := if_pos intact
    simp only [service, performed]
    exact ⟨retains.set (enough.age ages) _, .refl _, careful_aside _ (saved_all _)⟩
  · have performed : later.perform (.execute [.set (self.key session.sessionId) session seconds,
        .sadd self.indexKey (self.key session.sessionId)]) connection = (false, none, later) :=
      if_neg intact
    simp only [service, performed]
    exact ⟨retains, .refl _, careful_aside _ (saved_all _)⟩

theorem careful_checking (value : Option Session) :
    self.Careful κ (self.checking token session expectedRevision value) connection store := by
  cases value with
  | none => exact careful_aside _ (saved_all _)
  | some raw =>
      unfold checking
      dsimp only
      cases decode raw with
      | error error => exact careful_aside _ (saved_all _)
      | ok current =>
          dsimp only
          split
          · exact careful_aside _ (saved_all _)
          · exact careful_timed fun _ _ => careful_executing

theorem careful_program (request : Request) :
    self.Careful κ (self.program token request) connection store := by
  cases request with
  | add session =>
      rw [program_add]
      exact careful_timed fun _ _ => careful_adding
  | get sessionId =>
      rw [program_get]
      exact careful_aside (fun _ => True) ⟨trivial, fun _ => trivial⟩
  | save session expectedRevision =>
      rw [program_save]
      intro later _ retains
      exact ⟨retains, .refl _, fun latest _ retains =>
        ⟨retains, .refl _, careful_checking _⟩⟩
  | list =>
      rw [program_list]
      exact careful_aside _ ⟨trivial, fun keys => collecting_all keys []⟩

theorem befalls_retains {incident : Incident} {after : ValkeyStore} (retains : self.Retains store)
    (befalls : self.befall store incident = some after) :
    self.Retains after ∧ Ages store after := by
  cases incident with
  | wait duration =>
      cases befalls
      exact ⟨retains, Int.le_add_of_nonneg_right (Int.natCast_nonneg duration)⟩
  | arrange members =>
      obtain ⟨_, equal⟩ := Option.ite_none_right_eq_some.mp befalls
      cases equal
      exact ⟨retains, .refl _⟩
  | expire sessionId =>
      obtain ⟨_, equal⟩ := Option.ite_none_right_eq_some.mp befalls
      cases equal
      refine ⟨fun key entry found => ?_, .refl _⟩
      rw [ValkeyStore.expire_entries] at found
      split at found
      · cases found
      · exact retains key entry found

end ValkeySessionRepository

/-- When the key of a session that is not closed expires, the session has expired by at least the
retention period. -/
theorem records_outlive_sessions {κ : Type} [DecidableEq κ] (repository : ValkeySessionRepository)
    (schedule : List (Move κ ValkeySessionRepository.Request ValkeySessionRepository.Incident))
    (shown labels : List (ValkeySessionRepository.Label κ))
    (before after : ValkeySessionRepository.State κ) (token : κ) (sessionId : UUID)
    (record : Session)
    (ran : (repository.service κ).moves (repository.service κ).initial schedule =
      some (shown, before))
    (expires : (repository.service κ).move before (.event token (.expire sessionId)) =
      some (labels, after))
    (stored : repository.stored before.store sessionId = some record)
    (active : record.state ≠ .closed) :
    record.expiresAt + repository.closedRetentionSeconds * 1000000 ≤ before.store.clock := by
  have start : (repository.service κ).Guards repository.Retains ValkeySessionRepository.Ages
      (fun _ _ _ => True) (repository.service κ).initial := by
    constructor
    · intro key entry found
      cases found
    · intro token program runs
      cases runs
  obtain ⟨guards, _, _⟩ := start.moves ValkeySessionRepository.Ages.refl
    (fun _ _ _ first second => first.trans second)
    (fun token request _ label program connection store retains started => by
      cases started
      exact ValkeySessionRepository.careful_program request)
    (fun token incident _ store after retains befalls =>
      ValkeySessionRepository.befalls_retains retains befalls) ran
  obtain ⟨entry, found, value⟩ := Option.map_eq_some_iff.mp stored
  have due : entry.deadline ≤ before.store.clock := by
    cases Service.move_cases expires with
    | inr more =>
        obtain ⟨_, _, same, _⟩ | ⟨_, _, _, same, _⟩ |
          ⟨_, _, _, same, _, befalls, _⟩ := more
        · cases same
        · cases same
        · cases same
          obtain ⟨due, _⟩ := Option.ite_none_right_eq_some.mp befalls
          rw [found] at due
          exact of_decide_eq_true due
    | inl begins =>
        obtain ⟨_, _, _, _, same, _⟩ := begins
        cases same
  have retained := guards.invariant _ entry found (value ▸ active)
  rw [value] at retained
  exact retained.trans due

theorem retained_for_a_day :
    (exampleVersion 0).expiresAt + exampleRepository.closedRetentionSeconds * 1000000 ≤
      (90000000000 : Time) :=
  records_outlive_sessions exampleRepository
    (exampleSchedule.take 5 ++ [.event 1 (.wait 90000000000)]) _ _ _ _ 2 5 (exampleVersion 0)
    rfl rfl rfl (by decide)

end RetroBrowser.SessionManager
