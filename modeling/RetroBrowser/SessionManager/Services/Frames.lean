import RetroBrowser.Foundation.Frame
import RetroBrowser.SessionManager.Services.SessionService

/-!
Owns the frames of single methods, from any world and for each way they end.
Contract: every method that saves nothing keeps the stored records and drawn
identifiers, and the history only grows; closing, expiry and the sweep start no
runtime.
-/

namespace RetroBrowser.SessionManager

open RetroBrowser.Foundation Program

namespace SessionService

variable {self : SessionService}

/-! ## Calls -/

section Frames

open Frame

theorem holds_ask {α : Type} {frame : Frame World} {answer : Nat → ServiceProgram α}
    {onValue : α → Prop} (rule : ∀ index, frame.Holds (answer index) onValue) :
    frame.Holds (ask answer) onValue :=
  fun world => rule world.history.length world

/-- A call keeps a frame if its effect and the record of it do. -/
theorem holds_invoke {α : Type} {frame : Frame World} {call : Call}
    {works : World → Except Error (α × World)}
    (records : ∀ world applied returned, frame.Keeps world
      (world.record ⟨call, applied, returned⟩))
    (effect : ∀ world value after, works world = .ok (value, after) → frame.Keeps world after) :
    frame.Holds (self.invoke call works) fun _ => True := by
  intro world
  unfold invoke
  by_cases stops : self.dependencies.stops world.history.length = true
  · rw [if_pos stops]
    exact ⟨frame.refl world, trivial⟩
  · rw [if_neg stops]
    cases faulty : self.dependencies.fault world.history.length call with
    | none =>
        cases answer : works world with
        | ok result =>
            exact ⟨frame.trans (effect world result.1 result.2 answer) (records _ _ _), trivial⟩
        | error error => exact ⟨records _ _ _, trivial⟩
    | some fault =>
        obtain ⟨error, applied⟩ := fault
        cases answer : works world with
        | ok result =>
            cases applied with
            | true =>
                exact ⟨frame.trans (effect world result.1 result.2 answer) (records _ _ _),
                  trivial⟩
            | false => exact ⟨records _ _ _, trivial⟩
        | error _ => cases applied <;> exact ⟨records _ _ _, trivial⟩

end Frames

end SessionService

/-! ## Programs that store nothing -/

/-- The call starts a runtime. -/
def Call.launches : Call → Bool
  | .executionCreate _ => true
  | _ => false

/-- Stored records and drawn identifiers stay as they are, and the history grows;
it grows by a start of a runtime only where `launches` says so. -/
structure World.KeepsStore (launches : Bool) (before after : World) : Prop where
  sessions : after.sessions = before.sessions
  issued : after.issued = before.issued
  calls : ∃ newer, after.history = newer ++ before.history ∧
    ∀ event ∈ newer, event.call.launches = true → launches = true

namespace World.KeepsStore

variable {launches : Bool} {before between after : World}

theorem refl (world : World) : world.KeepsStore launches world :=
  ⟨rfl, rfl, [], rfl, by simp⟩

theorem trans (first : before.KeepsStore launches between)
    (second : between.KeepsStore launches after) : before.KeepsStore launches after where
  sessions := second.sessions.trans first.sessions
  issued := second.issued.trans first.issued
  calls := by
    obtain ⟨newer, grown, quiet⟩ := first.calls
    obtain ⟨newest, grown', quiet'⟩ := second.calls
    refine ⟨newest ++ newer, by rw [grown', grown, List.append_assoc], ?_⟩
    intro event member
    exact (List.mem_append.mp member).elim (quiet' event) (quiet event)

theorem record (event : Event) (quiet : event.call.launches = true → launches = true) :
    before.KeepsStore launches (before.record event) :=
  ⟨rfl, rfl, [event], rfl, by simpa using quiet⟩

theorem get (kept : before.KeepsStore launches after) (id : UUID) :
    after.get id = before.get id := by
  rw [World.get, kept.sessions]
  rfl

end World.KeepsStore

/-- The frame of programs that store nothing. -/
def World.storeKept (launches : Bool) : Frame World where
  Keeps := World.KeepsStore launches
  refl := World.KeepsStore.refl
  trans := World.KeepsStore.trans

namespace SessionService

open Frame

variable {self : SessionService} {launches : Bool}

/-- A call whose effect is not on the store. -/
theorem storeKept_invoke {α : Type} {call : Call} {works : World → Except Error (α × World)}
    (quiet : call.launches = true → launches = true)
    (effect : ∀ world value after, works world = .ok (value, after) →
      world.KeepsStore launches after) :
    (World.storeKept launches).Holds (self.invoke call works) fun _ => True :=
  holds_invoke (fun _ _ _ => .record _ quiet) effect

theorem storeKept_observe {α : Type} {call : Call} (answer : α) (quiet : call.launches = false) :
    (World.storeKept launches).Holds (self.observe call answer) fun _ => True := by
  intro world
  unfold observe
  split
  · exact ⟨.refl world, trivial⟩
  · exact ⟨.record _ (by simp [quiet]), trivial⟩

/-- A call that only reads, whatever it answers. -/
theorem storeKept_read {α : Type} {call : Call} (result : Except Error α)
    (quiet : call.launches = false) :
    (World.storeKept launches).Holds (self.invoke call fun world => result.map (·, world))
      fun _ => True := by
  refine storeKept_invoke (by simp [quiet]) fun world value after answer => ?_
  cases result with
  | ok value =>
      cases answer
      exact .refl world
  | error error => cases answer

theorem storeKept_repositoryList :
    (World.storeKept launches).Holds self.repositoryList fun _ => True := by
  refine storeKept_invoke (by simp [Call.launches]) fun world value after answer => ?_
  cases answer
  exact ⟨rfl, rfl, [], rfl, by simp⟩

theorem storeKept_executionList :
    (World.storeKept launches).Holds self.executionList fun _ => True := by
  refine holds_ask fun index => ?_
  refine storeKept_invoke (by simp [Call.launches]) fun world value after answer => ?_
  cases answer
  exact ⟨rfl, rfl, [], rfl, by simp⟩

theorem storeKept_keyErrorAs {α : Type} {program : ServiceProgram α} (translated : Error)
    (body : (World.storeKept launches).Holds program fun _ => True) :
    (World.storeKept launches).Holds (keyErrorAs program translated) fun _ => True :=
  holds_tryCatch body fun _ => holds_throw _

theorem storeKept_resolve (rommRomId : Int) :
    (World.storeKept launches).Holds (self.resolve rommRomId) fun _ => True :=
  holds_bind (storeKept_keyErrorAs _ (holds_ask fun _ => storeKept_read _ rfl)) fun _ _ =>
    holds_bind (storeKept_keyErrorAs _ (holds_ask fun _ => storeKept_read _ rfl)) fun _ _ =>
      holds_ite (fun _ => holds_throw _) fun _ => holds_pure trivial

theorem storeKept_requireRuntimeCapacity :
    (World.storeKept launches).Holds self.requireRuntimeCapacity fun _ => True :=
  holds_bind storeKept_executionList fun _ _ =>
    holds_ite (fun _ => holds_throw _) fun _ => holds_pure trivial

theorem storeKept_activeSessions :
    (World.storeKept launches).Holds self.activeSessions fun _ => True :=
  holds_bind storeKept_repositoryList fun _ _ => holds_pure trivial

theorem storeKept_requireSessionCapacity :
    (World.storeKept launches).Holds self.requireSessionCapacity fun _ => True :=
  holds_bind storeKept_activeSessions fun _ _ =>
    holds_ite (fun _ => holds_throw _) fun _ => holds_pure trivial

theorem storeKept_requireUserRuntimeCapacity (userId : String) :
    (World.storeKept launches).Holds (self.requireUserRuntimeCapacity userId) fun _ => True :=
  holds_bind storeKept_activeSessions fun _ _ =>
    holds_ite (fun _ => holds_throw _) fun _ => holds_pure trivial

theorem storeKept_executionRemove (participantId : UUID) :
    (World.storeKept launches).Holds (self.executionRemove participantId) fun _ => True := by
  refine storeKept_invoke (by simp [Call.launches]) fun world value after answer => ?_
  cases answer
  exact ⟨rfl, rfl, [], rfl, by simp⟩

theorem storeKept_streamProvision (participantId : UUID) (gamepadSlot : Nat) :
    (World.storeKept launches).Holds (self.streamProvision participantId gamepadSlot)
      fun _ => True := by
  refine holds_ask fun index => ?_
  refine storeKept_invoke (by simp [Call.launches]) fun world value after answer => ?_
  cases answer
  exact ⟨rfl, rfl, [], rfl, by simp⟩

theorem storeKept_bestEffortRevoke (participantId : UUID) :
    (World.storeKept launches).Holds (self.bestEffortRevoke participantId) fun _ => True := by
  refine holds_tryCatch (storeKept_invoke (by simp [Call.launches])
    fun world value after answer => ?_)
    fun _ => holds_pure trivial
  cases answer
  exact ⟨rfl, rfl, [], rfl, by simp⟩

theorem storeKept_retireRuntime (participantId : UUID) :
    (World.storeKept launches).Holds (self.retireRuntime participantId) fun _ => True :=
  holds_bind (storeKept_bestEffortRevoke participantId) fun _ _ =>
    storeKept_executionRemove participantId

/-- The removals of a close. -/
theorem storeKept_retireAll (items : List Participant) :
    (World.storeKept launches).Holds (items.forM fun item =>
      if item.live then self.retireRuntime item.participantId else pure ()) fun _ => True :=
  holds_forM fun item _ => holds_ite (fun _ => storeKept_retireRuntime item.participantId)
    fun _ => holds_pure trivial

theorem storeKept_cleanupFailedRuntime (participantId : UUID) :
    (World.storeKept launches).Holds (self.cleanupFailedRuntime participantId) fun _ => True :=
  holds_bind (storeKept_bestEffortRevoke participantId) fun _ _ =>
    holds_tryCatch (storeKept_executionRemove participantId) fun _ => holds_pure trivial

theorem storeKept_executionInspect (participantId : UUID) :
    (World.storeKept launches).Holds (self.executionInspect participantId) fun _ => True :=
  holds_ask fun _ => storeKept_read _ rfl

/-- The readiness loop, by induction on the rounds it may still take. -/
theorem storeKept_waitReadyLoop (runtimeId : UUID) (deadline : Rat) (rounds : Nat)
    (handle : RuntimeHandle) :
    (World.storeKept launches).Holds (self.waitReadyLoop runtimeId deadline rounds handle)
      fun _ => True := by
  induction rounds generalizing handle with
  | zero => exact fun world => ⟨.refl world, trivial⟩
  | succ rounds inductionHypothesis =>
      unfold waitReadyLoop
      refine holds_ite (fun _ => holds_pure trivial) fun _ => ?_
      refine holds_ite (fun _ => holds_throw _) fun _ => ?_
      refine holds_ite (fun _ => holds_throw _) fun _ => ?_
      refine holds_bind (holds_ask fun _ => storeKept_observe _ rfl) fun now _ => ?_
      refine holds_ite (fun _ => holds_throw _) fun _ => ?_
      refine holds_bind (storeKept_observe _ rfl) fun _ _ => ?_
      exact holds_bind (storeKept_executionInspect runtimeId) fun next _ =>
        inductionHypothesis next

theorem storeKept_waitReady (handle : RuntimeHandle) (timeout : Duration) :
    (World.storeKept launches).Holds (self.waitReady handle timeout) fun _ => True :=
  holds_bind (holds_ask fun _ => storeKept_observe _ rfl) fun _ _ =>
    storeKept_waitReadyLoop _ _ _ handle

end SessionService

/-! ## Programs that start no runtime -/

/-- The history grew since `start`, by no start of a runtime. -/
def World.Unlaunched (start world : World) : Prop :=
  ∃ newer, world.history = newer ++ start.history ∧
    ∀ event ∈ newer, event.call.launches = false

namespace World.Unlaunched

variable {start before between after : World}

theorem refl (world : World) : world.Unlaunched world := ⟨[], rfl, by simp⟩

theorem trans (first : before.Unlaunched between) (second : between.Unlaunched after) :
    before.Unlaunched after := by
  have ⟨newer, grown, quiet⟩ := first
  have ⟨newest, grown', quiet'⟩ := second
  refine ⟨newest ++ newer, by rw [grown', grown, List.append_assoc], ?_⟩
  intro event member
  exact (List.mem_append.mp member).elim (quiet' event) (quiet event)

theorem keepsStore (unlaunched : start.Unlaunched before) (kept : before.KeepsStore false after) :
    start.Unlaunched after := by
  have ⟨newer, grown, quiet⟩ := kept.calls
  exact unlaunched.trans ⟨newer, grown, fun event member => by simpa using quiet event member⟩

theorem record (unlaunched : start.Unlaunched before) {event : Event}
    (quiet : event.call.launches = false) : start.Unlaunched (before.record event) :=
  unlaunched.trans ⟨[event], rfl, by simpa using quiet⟩

end World.Unlaunched

/-- The frame of programs that start no runtime. -/
def World.unlaunched : Frame World where
  Keeps := World.Unlaunched
  refl := World.Unlaunched.refl
  trans := World.Unlaunched.trans

namespace SessionService

open Frame

variable {self : SessionService}

/-- A frame that is kept by whatever stores nothing and by saves. -/
structure Saves (service : SessionService) (frame : Frame World) : Prop where
  quiet : ∀ before after, before.KeepsStore false after → frame.Keeps before after
  saves : ∀ session expectedRevision,
    frame.Holds (service.repositorySave session expectedRevision) fun _ => True

section Saves

variable {frame : Frame World} (saves : self.Saves frame)

include saves

theorem Saves.ofStoreKept {α : Type} {program : ServiceProgram α} {onValue : α → Prop}
    (kept : (World.storeKept false).Holds program onValue) : frame.Holds program onValue :=
  kept.imply saves.quiet

theorem Saves.clock : frame.Holds self.clock fun _ => True :=
  saves.ofStoreKept (holds_ask fun _ => storeKept_observe _ rfl)

theorem saving_replaceParticipant (session : Session) (participant : Participant)
    (state : SessionState) (append : Bool) (expiresAt : Option Time) :
    frame.Holds (self.replaceParticipant session participant state append expiresAt)
      fun _ => True :=
  holds_bind saves.clock fun _ _ =>
    holds_bind (saves.saves _ _) fun _ _ => holds_pure trivial

theorem saving_closeSession (session : Session) (reason : String) :
    frame.Holds (self.closeSession session reason) fun _ => True := by
  refine holds_ite (fun _ => holds_pure trivial) fun _ => ?_
  refine holds_bind (holds_ofExcept _ fun _ _ => trivial) fun _ _ => ?_
  refine holds_bind saves.clock fun now _ => ?_
  refine holds_bind (saves.ofStoreKept (storeKept_retireAll _)) fun _ _ => ?_
  refine holds_bind (holds_ofExcept _ fun _ _ => trivial) fun _ _ => ?_
  exact holds_bind (saves.saves _ _) fun _ _ => holds_pure trivial

theorem saving_expire (session : Session) :
    frame.Holds (self.expire session) fun _ => True := by
  refine holds_ite (fun _ => holds_pure trivial) fun _ => ?_
  refine holds_bind saves.clock fun now _ => ?_
  exact holds_ite (fun _ => saving_closeSession saves session _) fun _ => holds_pure trivial

theorem saving_retireParticipant (session : Session) (participant : Participant)
    (failed : Bool) :
    frame.Holds (self.retireParticipant session participant failed) fun _ => True := by
  refine holds_bind (saves.ofStoreKept (storeKept_retireRuntime _)) fun _ _ => ?_
  refine holds_bind saves.clock fun now _ => ?_
  refine holds_ite (fun _ => ?_) fun _ => ?_
  · exact holds_pure_bind (saving_replaceParticipant saves _ _ _ _ _)
  · exact holds_bind (holds_ofExcept _ fun _ _ => trivial) fun _ (_ : True) =>
      saving_replaceParticipant saves _ _ _ _ _

theorem saving_inspectOrNone (participantId : UUID) :
    frame.Holds (self.inspectOrNone participantId) fun _ => True := by
  have inspected : frame.Holds (self.executionInspect participantId) fun _ => True :=
    saves.ofStoreKept (storeKept_executionInspect participantId)
  refine holds_tryCatch (holds_map inspected fun _ _ => trivial) fun error => ?_
  exact holds_ite (fun _ => holds_pure trivial) fun _ => holds_throw _

/-- The participants of one session, by induction on those still to come. -/
theorem saving_sweepParticipants (stale active : List Participant) (session : Session)
    (cleaned : Nat) :
    frame.Holds (self.sweepParticipants stale active session cleaned) fun _ => True := by
  induction active generalizing session cleaned with
  | nil => exact holds_pure trivial
  | cons participant rest inductionHypothesis =>
      refine holds_ite (fun _ => ?_) fun _ => ?_
      · exact holds_bind (saving_retireParticipant saves _ _ _) fun current _ =>
          inductionHypothesis current _
      refine holds_bind (saving_inspectOrNone saves _) fun runtime _ => ?_
      refine holds_ite (fun _ => inductionHypothesis session cleaned) fun _ => ?_
      refine holds_ite (fun _ => ?_) fun _ => ?_
      · exact holds_bind (saving_closeSession saves _ _) fun _ _ => holds_pure trivial
      · exact holds_bind (saving_retireParticipant saves _ _ _) fun current _ =>
          inductionHypothesis current _

theorem saving_sweepSession (session : Session) :
    frame.Holds (self.sweepSession session) fun _ => True := by
  refine holds_ite (fun _ => holds_pure trivial) fun _ => ?_
  refine holds_bind saves.clock fun now _ => ?_
  refine holds_ite (fun _ => ?_) fun _ => ?_
  · exact holds_bind (saving_closeSession saves _ _) fun _ _ => holds_pure trivial
  refine holds_ite (fun _ => ?_) fun _ => ?_
  · exact holds_bind (saving_closeSession saves _ _) fun _ _ => holds_pure trivial
  · exact saving_sweepParticipants saves _ _ _ _

theorem saving_sweepSessions (sessions : List Session) :
    frame.Holds (self.sweepSessions sessions) fun _ => True := by
  induction sessions with
  | nil => exact holds_pure trivial
  | cons session rest inductionHypothesis =>
      exact holds_bind (saving_sweepSession saves session) fun _ _ =>
        holds_bind inductionHypothesis fun _ _ => holds_pure trivial

theorem saving_sweep : frame.Holds self.sweep fun _ => True :=
  holds_bind (saves.ofStoreKept storeKept_repositoryList) fun sessions _ =>
    saving_sweepSessions saves sessions

end Saves

/-- A save that works has overwritten a record. -/
theorem holds_repositorySave {frame : Frame World} {session : Session} {expectedRevision : Nat}
    (records : ∀ world applied returned, frame.Keeps world
      (world.record ⟨.repositorySave session expectedRevision, applied, returned⟩))
    (overwrites : ∀ world, frame.Keeps world (world.overwrite session)) :
    frame.Holds (self.repositorySave session expectedRevision) fun _ => True := by
  refine holds_invoke records fun world value after answer => ?_
  cases saved : InMemorySessionRepository.save world.sessions session expectedRevision with
  | ok sessions =>
      rw [saved] at answer
      cases answer
      rw [InMemorySessionRepository.eq_overwrite_of_save saved]
      exact overwrites world
  | error error =>
      rw [saved] at answer
      cases answer

theorem saves_unlaunched : self.Saves World.unlaunched where
  quiet before _ := (World.Unlaunched.refl before).keepsStore
  saves _ _ := holds_repositorySave (fun world _ _ => (World.Unlaunched.refl world).record rfl)
    fun _ => ⟨[], rfl, by simp⟩

end SessionService

/-- The frame of programs that add and drop no record. -/
def World.sameRecords : Frame World where
  Keeps before after :=
    after.sessions.map Session.sessionId = before.sessions.map Session.sessionId
  refl _ := rfl
  trans first second := second.trans first

theorem SessionService.saves_sameRecords {self : SessionService} :
    self.Saves World.sameRecords where
  quiet _ _ kept := congrArg (List.map Session.sessionId) kept.sessions
  saves session _ := SessionService.holds_repositorySave (fun _ _ _ => rfl) fun _ =>
    InMemorySessionRepository.map_sessionId_overwrite session

end RetroBrowser.SessionManager
