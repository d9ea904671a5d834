import RetroBrowser.SessionManager.Services.Frames
import RetroBrowser.SessionManager.Services.Outcomes
import RetroBrowser.SessionManager.Services.Startup

/-!
Owns the searches that may raise `StopIteration`. Contract: every method but the
handler of a failed startup raises it only where one of its calls does, and the
handler finds its participant in every world that stores the entry.
-/

namespace RetroBrowser.SessionManager

open RetroBrowser.Foundation Program

/-- Some call of the operation raises the error. -/
inductive Dependencies.Throws (dependencies : Dependencies) (error : Error) : Prop
  | call (index : Nat) (call : Call) (applied : Bool)
      (plan : dependencies.fault index call = some ⟨error, applied⟩)
  | game (index : Nat) (rommRomId : Int)
      (answer : dependencies.resolveGame index rommRomId = .error error)
  | core (index : Nat) (platform : String)
      (answer : dependencies.resolveCore index platform = .error error)
  | inspect (index : Nat) (participantId : UUID)
      (answer : dependencies.runtimeInspected index participantId = .error error)

namespace SessionService

variable {self : SessionService} {world : World}

/-- `StopIteration` comes from a call only. -/
def Searched (service : SessionService) (error : Error) : Prop :=
  error = .stopIteration → service.dependencies.Throws .stopIteration

theorem searched_of_ne {error : Error} (other : error ≠ .stopIteration) : self.Searched error :=
  fun same => absurd same other

theorem searched_of_throws {error : Error} (throws : self.dependencies.Throws error) :
    self.Searched error :=
  fun same => same ▸ throws

/-! ## Calls -/

theorem raisesOnly_ask {α : Type} {allowed : Error → Prop} {answer : Nat → ServiceProgram α}
    (rule : ∀ index, (answer index).RaisesOnly allowed) : (ask answer).RaisesOnly allowed :=
  fun world => rule world.history.length world

theorem searched_invoke {α : Type} {call : Call} {works : World → Except Error (α × World)}
    (refused : ∀ world error, works world = .error error → self.Searched error) :
    (self.invoke call works).RaisesOnly self.Searched := by
  intro world
  unfold Program.Ensures invoke
  by_cases stops : self.dependencies.stops world.history.length = true
  · rw [if_pos stops]
    trivial
  · rw [if_neg stops]
    cases plan : self.dependencies.fault world.history.length call with
    | none =>
        cases answer : works world with
        | ok result => trivial
        | error error => exact refused world error answer
    | some fault =>
        obtain ⟨error, applied⟩ := fault
        have throws := searched_of_throws (.call _ call applied plan)
        cases answer : works world <;> cases applied <;> exact throws

theorem searched_answered {α : Type} {call : Call} {works : World → Except Error (α × World)}
    (answers : ∀ world, ∃ result, works world = .ok result) :
    (self.invoke call works).RaisesOnly self.Searched := by
  apply searched_invoke
  intro world error refused
  obtain ⟨result, answer⟩ := answers world
  rw [answer] at refused
  cases refused

theorem searched_observe {α : Type} (call : Call) (answer : α) :
    (self.observe call answer).RaisesOnly self.Searched := by
  intro world
  unfold Program.Ensures observe
  split <;> trivial

theorem searched_clock : self.clock.RaisesOnly self.Searched :=
  raisesOnly_ask fun _ => searched_observe _ _

/-- A call whose answer may be an error of the dependency. -/
theorem searched_refusable {α : Type} {call : Call} {result : Except Error α}
    (throws : ∀ error, result = .error error → self.dependencies.Throws error) :
    (self.invoke call fun world => result.map (·, world)).RaisesOnly self.Searched := by
  apply searched_invoke
  intro world error refused
  cases result with
  | ok value => cases refused
  | error cause =>
      cases refused
      exact searched_of_throws (throws _ rfl)

theorem searched_resolveGame (rommRomId : Int) :
    (self.resolveGame rommRomId).RaisesOnly self.Searched :=
  raisesOnly_ask fun index => searched_refusable fun _ => .game index rommRomId

theorem searched_resolveCore (platform : String) :
    (self.resolveCore platform).RaisesOnly self.Searched :=
  raisesOnly_ask fun index => searched_refusable fun _ => .core index platform

theorem searched_executionInspect (participantId : UUID) :
    (self.executionInspect participantId).RaisesOnly self.Searched :=
  raisesOnly_ask fun index => searched_refusable fun _ => .inspect index participantId

theorem searched_repositorySave (session : Session) (expectedRevision : Nat) :
    (self.repositorySave session expectedRevision).RaisesOnly self.Searched := by
  apply searched_invoke
  intro world error refused
  apply searched_of_ne
  unfold InMemorySessionRepository.save at refused
  split at refused
  · cases refused
    simp
  · split_ifs at refused <;> cases refused <;> simp

theorem searched_repositoryList : self.repositoryList.RaisesOnly self.Searched :=
  searched_answered fun _ => ⟨_, rfl⟩

theorem searched_executionList : self.executionList.RaisesOnly self.Searched :=
  raisesOnly_ask fun _ => searched_answered fun _ => ⟨_, rfl⟩

theorem searched_executionRemove (participantId : UUID) :
    (self.executionRemove participantId).RaisesOnly self.Searched :=
  searched_answered fun _ => ⟨_, rfl⟩

theorem searched_streamProvision (participantId : UUID) (gamepadSlot : Nat) :
    (self.streamProvision participantId gamepadSlot).RaisesOnly self.Searched :=
  raisesOnly_ask fun _ => searched_answered fun _ => ⟨_, rfl⟩

/-! ## Methods -/

theorem searched_bestEffortRevoke (participantId : UUID) :
    (self.bestEffortRevoke participantId).RaisesOnly self.Searched :=
  raisesOnly_handled fun _ => raisesOnly_pure _

theorem searched_retireRuntime (participantId : UUID) :
    (self.retireRuntime participantId).RaisesOnly self.Searched :=
  raisesOnly_bind (searched_bestEffortRevoke participantId) fun _ =>
    searched_executionRemove participantId

theorem searched_cleanupFailedRuntime (participantId : UUID) :
    (self.cleanupFailedRuntime participantId).RaisesOnly self.Searched :=
  raisesOnly_bind (searched_bestEffortRevoke participantId) fun _ =>
    raisesOnly_handled fun _ => raisesOnly_pure _

theorem searched_keyErrorAs {α : Type} {program : ServiceProgram α} {translated : Error}
    (other : translated ≠ .stopIteration) (body : program.RaisesOnly self.Searched) :
    (keyErrorAs program translated).RaisesOnly self.Searched := by
  apply raisesOnly_tryCatch body
  intro error searched
  apply raisesOnly_throw
  split
  · exact searched_of_ne other
  · exact searched

theorem searched_resolve (rommRomId : Int) :
    (self.resolve rommRomId).RaisesOnly self.Searched := by
  apply raisesOnly_bind (searched_keyErrorAs (by simp) (searched_resolveGame rommRomId))
  intro game
  apply raisesOnly_bind (searched_keyErrorAs (by simp) (searched_resolveCore game.platform))
  intro core
  exact raisesOnly_ite (fun _ => raisesOnly_throw (searched_of_ne (by simp)))
    fun _ => raisesOnly_pure _

theorem searched_requireRuntimeCapacity :
    self.requireRuntimeCapacity.RaisesOnly self.Searched :=
  raisesOnly_bind searched_executionList fun _ =>
    raisesOnly_ite (fun _ => raisesOnly_throw (searched_of_ne (by simp))) fun _ => raisesOnly_pure _

theorem searched_requireUserRuntimeCapacity (userId : String) :
    (self.requireUserRuntimeCapacity userId).RaisesOnly self.Searched :=
  raisesOnly_bind (raisesOnly_bind searched_repositoryList fun _ => raisesOnly_pure _) fun _ =>
    raisesOnly_ite (fun _ => raisesOnly_throw (searched_of_ne (by simp))) fun _ => raisesOnly_pure _

theorem searched_replaceParticipant (session : Session) (participant : Participant)
    (state : SessionState) (append : Bool) (expiresAt : Option Time) :
    (self.replaceParticipant session participant state append expiresAt).RaisesOnly
      self.Searched :=
  raisesOnly_bind searched_clock fun _ =>
    raisesOnly_bind (searched_repositorySave _ _) fun _ => raisesOnly_pure _

theorem searched_requireParticipantTransition (current target : ParticipantState) {error : Error}
    (refused : requireParticipantTransition current target = .error error) :
    self.Searched error := by
  apply searched_of_ne
  unfold requireParticipantTransition at refused
  split_ifs at refused
  cases refused
  simp

theorem searched_requireSessionTransition (current target : SessionState) {error : Error}
    (refused : requireSessionTransition current target = .error error) : self.Searched error := by
  apply searched_of_ne
  unfold requireSessionTransition at refused
  split_ifs at refused
  cases refused
  simp

/-- The check that a startup makes only where the state changes. -/
theorem searched_ifTransition (condition : Prop) [Decidable condition]
    (current target : SessionState) (error : Error)
    (refused : (if condition then requireSessionTransition current target else .ok ()) =
      .error error) : self.Searched error := by
  split at refused
  · exact searched_requireSessionTransition _ _ refused
  · cases refused

theorem searched_leftParticipant {now : Time} {participant : Participant} {error : Error}
    (refused : leftParticipant now participant = .error error) : self.Searched error := by
  apply searched_of_ne
  unfold leftParticipant at refused
  split_ifs at refused
  unfold requireParticipantTransition at refused
  split_ifs at refused <;> cases refused <;> simp

/-- The entries before the first refused one are no matter. -/
theorem searched_mapM_leftParticipant {now : Time} {items : List Participant} {error : Error}
    (refused : items.mapM (leftParticipant now) = .error error) : self.Searched error := by
  induction items with
  | nil => cases refused
  | cons item rest inductionHypothesis =>
      rw [List.mapM_cons] at refused
      cases first : leftParticipant now item with
      | error cause =>
          rw [first] at refused
          cases refused
          exact searched_leftParticipant first
      | ok left =>
          cases others : rest.mapM (leftParticipant now) with
          | error cause =>
              rw [first, others] at refused
              cases refused
              exact inductionHypothesis others
          | ok lefts =>
              rw [first, others] at refused
              cases refused

theorem searched_closeSession (session : Session) (reason : String) :
    (self.closeSession session reason).RaisesOnly self.Searched := by
  apply raisesOnly_ite (fun _ => raisesOnly_pure _)
  intro _
  apply raisesOnly_bind (raisesOnly_ofExcept fun _ => searched_requireSessionTransition _ _)
  intro _
  apply raisesOnly_bind searched_clock
  intro now
  apply raisesOnly_bind
  · apply raisesOnly_forM
    intro participant _
    exact raisesOnly_ite (fun _ => searched_retireRuntime _) fun _ => raisesOnly_pure _
  intro _
  apply raisesOnly_bind (raisesOnly_ofExcept fun _ => searched_mapM_leftParticipant)
  intro participants
  exact raisesOnly_bind (searched_repositorySave _ _) fun _ => raisesOnly_pure _

theorem searched_expire (session : Session) :
    (self.expire session).RaisesOnly self.Searched := by
  apply raisesOnly_ite (fun _ => raisesOnly_pure _)
  intro _
  apply raisesOnly_bind searched_clock
  intro now
  exact raisesOnly_ite (fun _ => searched_closeSession _ _) fun _ => raisesOnly_pure _

/-- The readiness loop, by induction on the rounds it may still take. -/
theorem searched_waitReadyLoop (runtimeId : UUID) (deadline : Rat) (rounds : Nat)
    (handle : RuntimeHandle) :
    (self.waitReadyLoop runtimeId deadline rounds handle).RaisesOnly self.Searched := by
  induction rounds generalizing handle with
  | zero => exact fun _ => trivial
  | succ rounds inductionHypothesis =>
      unfold waitReadyLoop
      apply raisesOnly_ite (fun _ => raisesOnly_pure _)
      intro _
      apply raisesOnly_ite (fun _ => raisesOnly_throw (searched_of_ne (by simp)))
      intro _
      apply raisesOnly_ite (fun _ => raisesOnly_throw (searched_of_ne (by simp)))
      intro _
      apply raisesOnly_bind (raisesOnly_ask fun _ => searched_observe _ _)
      intro now
      apply raisesOnly_ite (fun _ => raisesOnly_throw (searched_of_ne (by simp)))
      intro _
      apply raisesOnly_bind (searched_observe _ _)
      intro _
      exact raisesOnly_bind (searched_executionInspect runtimeId) inductionHypothesis

theorem searched_waitReady (handle : RuntimeHandle) (timeout : Duration) :
    (self.waitReady handle timeout).RaisesOnly self.Searched :=
  raisesOnly_bind (raisesOnly_ask fun _ => searched_observe _ _) fun _ =>
    searched_waitReadyLoop _ _ _ handle

/-! ## The search of the failure handler -/

/-- The stored session has an entry with the identifier. -/
def HasEntry (sessionId participantId : UUID) (world : World) : Prop :=
  ∃ session, world.get sessionId = some session ∧
    ∃ item ∈ session.participants, item.participantId = participantId

section Handler

variable {α : Type} {sessionId participantId : UUID}

/-- Whether an entry is there depends on the store alone. -/
theorem HasEntry.storeKept {after : World} (has : HasEntry sessionId participantId world)
    (kept : world.KeepsStore true after) : HasEntry sessionId participantId after := by
  obtain ⟨session, stored, entry⟩ := has
  refine ⟨session, ?_, entry⟩
  rw [kept.get]
  exact stored

/-- A program that stores nothing raises its errors with the store as it was. -/
theorem searched_of_storeKept {program : ServiceProgram α}
    (kept : (World.storeKept true).Holds program fun _ => True)
    (searched : program.RaisesOnly self.Searched) :
    program.Ensures ⟨fun _ => world.KeepsStore true,
      fun error after => world.KeepsStore true after ∧ self.Searched error,
      fun _ => True⟩ world := by
  have errors := searched world
  have frame := (kept world).1
  unfold Program.Ensures at errors ⊢
  rcases run : program world with ⟨outcome, after⟩
  rw [run] at errors frame
  cases outcome with
  | returned value => exact frame
  | raised error => exact ⟨frame, errors⟩
  | stopped => trivial

theorem hasEntry_of_storeKept {program : ServiceProgram α}
    (has : HasEntry sessionId participantId world)
    (kept : (World.storeKept true).Holds program fun _ => True)
    (searched : program.RaisesOnly self.Searched) :
    program.Ensures ⟨fun _ => HasEntry sessionId participantId,
      fun error after => HasEntry sessionId participantId after ∧ self.Searched error,
      fun _ => True⟩ world :=
  (searched_of_storeKept kept searched).mono (fun _ _ => has.storeKept)
    (fun _ _ both => ⟨has.storeKept both.1, both.2⟩) fun _ => id

/-- Replacing an entry in its place leaves one with every identifier. -/
theorem mem_replacement {session : Session} {participant : Participant} {state : SessionState}
    {append : Bool} {expiresAt : Option Time} {updatedAt : Time}
    (entry : append = true ∧ participant.participantId = participantId ∨
      ∃ item ∈ session.participants, item.participantId = participantId) :
    ∃ item ∈ (replacement session participant state append expiresAt updatedAt).participants,
      item.participantId = participantId := by
  cases append with
  | true =>
      rcases entry with ⟨-, same⟩ | ⟨item, member, same⟩
      · exact ⟨participant, by simp [replacement], same⟩
      · exact ⟨item, by simp [replacement, member], same⟩
  | false =>
      rcases entry with ⟨impossible, -⟩ | ⟨item, member, same⟩
      · cases impossible
      · by_cases replaced : item.participantId = participant.participantId
        · refine ⟨participant, ?_, replaced.symm.trans same⟩
          exact List.mem_map.mpr ⟨item, member, if_pos replaced⟩
        · exact ⟨item, List.mem_map.mpr ⟨item, member, if_neg replaced⟩, same⟩

/-- A replaced record has the entry whether its save took effect or not. -/
theorem hasEntry_replaceParticipant {session : Session} {participant : Participant}
    {state : SessionState} {append : Bool} {expiresAt : Option Time}
    (stored : world.get session.sessionId = some session)
    (entry : append = true ∧ participant.participantId = participantId ∨
      ∃ item ∈ session.participants, item.participantId = participantId) :
    (self.replaceParticipant session participant state append expiresAt).Ensures
      ⟨fun updated after => updated.sessionId = session.sessionId ∧
          after.get updated.sessionId = some updated ∧
          ∃ item ∈ updated.participants, item.participantId = participantId,
        fun error after => (HasEntry session.sessionId participantId world →
          HasEntry session.sessionId participantId after) ∧ self.Searched error,
        fun _ => True⟩ world := by
  let updated := replacement session participant state append expiresAt
    (self.dependencies.clock world.history.length)
  have updatedStored : ((world.observe .clock).overwrite updated).get session.sessionId =
      some updated := World.get_overwrite stored rfl
  have saves : (self.replaceParticipant session participant state append expiresAt).Ensures
      ⟨fun updated after => updated.sessionId = session.sessionId ∧
          after.get updated.sessionId = some updated ∧
          ∃ item ∈ updated.participants, item.participantId = participantId,
        fun _ after => HasEntry session.sessionId participantId world →
          HasEntry session.sessionId participantId after,
        fun _ => True⟩ world := by
    refine ensures_bind.mpr (ensures_clock (fun _ => ?_) fun _ => trivial)
    have found : (world.observe .clock).get updated.sessionId = some session := stored
    refine ensures_bind.mpr (ensures_repositorySave found rfl ⟨?_, ?_, fun _ => trivial⟩)
    · exact fun _ => ⟨rfl, updatedStored, mem_replacement entry⟩
    · intro error applied _ _ has
      cases applied with
      | true => exact ⟨_, updatedStored, mem_replacement entry⟩
      | false => exact has
  exact saves.raises (searched_replaceParticipant session participant state append expiresAt)

/-- The handler never returns. -/
theorem searched_failStartup {onValue : α → World → Prop} {current : Session} {role : Role}
    {error : Error}
    (searched : self.Searched error) (has : HasEntry current.sessionId participantId world) :
    (self.failStartup current participantId role error).Ensures
      ⟨onValue, fun error _ => self.Searched error, fun _ => True⟩ world := by
  refine ensures_bind.mpr (.mono (hasEntry_of_storeKept has
    (storeKept_cleanupFailedRuntime participantId) (searched_cleanupFailedRuntime participantId))
    ?_ (fun _ _ both => both.2) fun _ => id)
  intro _ after has
  have ⟨session, stored, item, member, same⟩ := has
  refine ensures_bind.mpr (ensures_repositoryGet ⟨fun _ => ?_, ?_, fun _ => trivial⟩)
  · rw [stored]
    dsimp only [Option.getD_some]
    cases found : session.participants.find? fun item => item.participantId = participantId with
    | none =>
        have absent := List.find?_eq_none.mp found item member
        simp only [same, decide_true, not_true_eq_false] at absent
    | some entry =>
        refine ensures_bind.mpr (.mono (searched_replaceParticipant _ _ _ _ _ _) (fun _ _ _ => ?_)
          (fun _ _ => id) fun _ => id)
        refine ensures_ite.mpr ⟨fun _ => ?_, fun _ => ?_⟩
        · exact ensures_throw.mpr searched
        · exact ensures_throw.mpr (searched_of_ne (by simp))
  · exact fun error applied _ plan => searched_of_throws (.call _ _ applied plan)

/-- The two calls of the first guarded block. -/
theorem hasEntry_createRuntime {current : Session} {participant : Participant}
    {request : RuntimeRequest} (stored : world.get current.sessionId = some current)
    (entry : ∃ item ∈ current.participants, item.participantId = participantId) :
    (self.createRuntime current participant request).Ensures
      ⟨fun result => HasEntry result.2.2.sessionId participantId,
        fun error after => HasEntry current.sessionId participantId after ∧ self.Searched error,
        fun _ => True⟩ world := by
  refine ensures_bind.mpr (ensures_executionCreate ⟨fun _ => ?_, ?_, fun _ => trivial⟩)
  · refine ensures_bind.mpr (.mono (hasEntry_replaceParticipant stored (.inr entry)) ?_ ?_
      fun _ => id)
    · intro updated after saved
      exact ensures_pure.mpr ⟨updated, saved.2⟩
    · intro error after raised
      exact ⟨raised.1 ⟨current, stored, entry⟩, raised.2⟩
  · intro error applied _ plan
    refine ⟨⟨current, ?_, entry⟩, searched_of_throws (.call _ _ applied plan)⟩
    cases applied <;> exact stored

/-- The second guarded block. -/
theorem hasEntry_awaitStream {handle : RuntimeHandle} {timeout : Duration}
    (has : HasEntry sessionId participantId world) :
    (do self.waitReady handle timeout
        let _ ← self.streamProvision participantId 1 : ServiceProgram Unit).Ensures
      ⟨fun _ _ => True,
        fun error after => HasEntry sessionId participantId after ∧ self.Searched error,
        fun _ => True⟩ world := by
  refine ensures_bind.mpr (.mono (hasEntry_of_storeKept has (storeKept_waitReady handle timeout)
    (searched_waitReady handle timeout)) (fun _ after has => ?_) (fun _ _ => id) fun _ => id)
  exact ensures_bind.mpr (.mono (hasEntry_of_storeKept has
    (storeKept_streamProvision participantId 1) (searched_streamProvision participantId 1))
    (fun _ _ _ => trivial) (fun _ _ => id) fun _ => id)

/-- A startup of a stored participant, whichever call of it fails. -/
theorem searched_startParticipant {session : Session} {participant : Participant}
    {game : GameRecord} {core : CoreProfile} {role : Role} {host : Option UUID}
    (stored : world.get session.sessionId = some session)
    (entry : ∃ item ∈ session.participants, item.participantId = participant.participantId) :
    (self.startParticipant session participant game core role host).Ensures
      ⟨fun _ _ => True, fun error _ => self.Searched error, fun _ => True⟩ world := by
  refine ensures_bind.mpr (ensures_ofExcept.mpr
    ⟨fun _ _ => ?_, fun _ => searched_requireParticipantTransition _ _⟩)
  refine ensures_bind.mpr (ensures_ofExcept.mpr ⟨fun _ _ => ?_, ?_⟩)
  · refine ensures_bind.mpr (.mono (hasEntry_replaceParticipant stored (.inr entry)) ?_
      (fun _ _ raised => raised.2) fun _ => id)
    rintro current after ⟨-, stored, entry⟩
    refine ensures_ite.mpr ⟨fun _ => ?_, fun _ => searched_of_ne (by simp)⟩
    refine ensures_bind.mpr (ensures_tryCatch.mpr (.mono (hasEntry_createRuntime stored entry) ?_
      (fun _ _ raised => searched_failStartup raised.2 raised.1) fun _ => id))
    rintro ⟨handle, withRuntime, current'⟩ after has
    refine ensures_bind.mpr (ensures_tryCatch.mpr (.mono (hasEntry_awaitStream has) ?_
      (fun _ _ raised => searched_failStartup raised.2 raised.1) fun _ => id))
    intro _ later _
    refine ensures_bind.mpr (ensures_ofExcept.mpr
      ⟨fun _ _ => ?_, fun _ => searched_requireParticipantTransition _ _⟩)
    refine ensures_bind.mpr (ensures_clock (fun _ => ?_) fun _ => trivial)
    refine ensures_bind.mpr (ensures_ofExcept.mpr ⟨fun _ _ => ?_, ?_⟩)
    · exact searched_replaceParticipant _ _ _ _ _ _
    · exact searched_ifTransition _ _ _
  · exact searched_ifTransition _ _ _

end Handler

end SessionService

end RetroBrowser.SessionManager
