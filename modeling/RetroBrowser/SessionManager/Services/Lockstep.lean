import RetroBrowser.Foundation.Lockstep
import RetroBrowser.SessionManager.Services.Outcomes

/-!
Owns the retirement operations side by side in two worlds with the same records.
Contract: where the dependencies behave alike, call by call, both runs end alike
and store the same, whatever runtimes exist and whatever was called before.
-/

namespace RetroBrowser.SessionManager

open RetroBrowser.Foundation Program

/-! ## Attempts side by side -/

/-- The same behaviour for a run whose history is shorter by `shift` calls. -/
def Dependencies.advanced (dependencies : Dependencies) (shift : Nat) : Dependencies where
  stops index := dependencies.stops (index + shift)
  fault index := dependencies.fault (index + shift)
  clock index := dependencies.clock (index + shift)
  monotonic index := dependencies.monotonic (index + shift)
  uuid4 index := dependencies.uuid4 (index + shift)
  resolveGame index := dependencies.resolveGame (index + shift)
  resolveCore index := dependencies.resolveCore (index + shift)
  runtimeCreated index := dependencies.runtimeCreated (index + shift)
  runtimeInspected index := dependencies.runtimeInspected (index + shift)
  runtimeListed index := dependencies.runtimeListed (index + shift)
  controllerToken index := dependencies.controllerToken (index + shift)
  pollRounds := dependencies.pollRounds

/-- Two worlds with the same records, the first one by `shift` calls ahead. -/
structure World.Ahead (shift : Nat) (world other : World) : Prop where
  sessions : world.sessions = other.sessions
  calls : world.history.length = other.history.length + shift

/-- Answers of a call in two worlds. -/
inductive Alike {α : Type} (shift : Nat) :
    Except Error (α × World) → Except Error (α × World) → Prop
  | works {value : α} {after after' : World} (ahead : World.Ahead shift after after') :
      Alike shift (.ok (value, after)) (.ok (value, after'))
  | refused (error : Error) : Alike shift (.error error) (.error error)

theorem World.Ahead.record {shift : Nat} {world other : World}
    (ahead : World.Ahead shift world other)
    (event event' : Event) : World.Ahead shift (world.record event) (other.record event') where
  sessions := ahead.sessions
  calls := by
    rw [World.record_history, World.record_history, List.length_cons, List.length_cons, ahead.calls]
    omega

theorem World.Ahead.get {shift : Nat} {world other : World} (ahead : World.Ahead shift world other)
    (id : UUID) : world.get id = other.get id := by
  rw [World.get, World.get, ahead.sessions]

namespace SessionService

/-- The service with its dependencies as an earlier run meets them. -/
def advanced (self : SessionService) (shift : Nat) : SessionService :=
  ⟨self.configuration, self.dependencies.advanced shift⟩

variable {α : Type} {self : SessionService} {shift : Nat}

theorem lockstep_invoke {call : Call} {works works' : World → Except Error (α × World)}
    (effect : ∀ world other, World.Ahead shift world other →
      Alike shift (works world) (works' other)) :
    Lockstep (World.Ahead shift) (self.invoke call works)
      ((self.advanced shift).invoke call works') := by
  intro world other ahead
  have stops : (self.advanced shift).dependencies.stops other.history.length =
      self.dependencies.stops world.history.length := congrArg _ ahead.calls.symm
  have fault : (self.advanced shift).dependencies.fault other.history.length call =
      self.dependencies.fault world.history.length call :=
    congrArg (fun index => self.dependencies.fault index call) ahead.calls.symm
  unfold invoke
  dsimp only
  rw [stops, fault]
  split
  · exact ⟨rfl, ahead⟩
  · have alike := effect world other ahead
    generalize works world = answer, works' other = answer' at alike
    cases alike with
    | works later =>
        cases self.dependencies.fault world.history.length call with
        | none => exact ⟨rfl, later.record _ _⟩
        | some fault =>
            obtain ⟨error, applied⟩ := fault
            cases applied with
            | true => exact ⟨rfl, later.record _ _⟩
            | false => exact ⟨rfl, ahead.record _ _⟩
    | refused error =>
        cases self.dependencies.fault world.history.length call with
        | none => exact ⟨rfl, ahead.record _ _⟩
        | some fault =>
            obtain ⟨error, applied⟩ := fault
            cases applied <;> exact ⟨rfl, ahead.record _ _⟩

theorem lockstep_clock :
    Lockstep (World.Ahead shift) self.clock (self.advanced shift).clock := by
  intro world other ahead
  have stops : (self.advanced shift).dependencies.stops other.history.length =
      self.dependencies.stops world.history.length := congrArg _ ahead.calls.symm
  have reading : (self.advanced shift).dependencies.clock other.history.length =
      self.dependencies.clock world.history.length := congrArg _ ahead.calls.symm
  unfold clock ask observe
  dsimp only
  rw [stops, reading]
  split
  · exact ⟨rfl, ahead⟩
  · exact ⟨rfl, ahead.record _ _⟩

theorem lockstep_streamProvision (participantId : UUID) (gamepadSlot : Nat) :
    Lockstep (World.Ahead shift) (self.streamProvision participantId gamepadSlot)
      ((self.advanced shift).streamProvision participantId gamepadSlot) := by
  intro world other ahead
  have token : (self.advanced shift).dependencies.controllerToken other.history.length
      participantId = self.dependencies.controllerToken world.history.length participantId :=
    congrArg (fun index => self.dependencies.controllerToken index participantId) ahead.calls.symm
  unfold streamProvision ask
  dsimp only
  rw [token]
  exact lockstep_invoke (fun _ _ => .works) world other ahead

theorem lockstep_repositoryGet (sessionId : UUID) :
    Lockstep (World.Ahead shift) (self.repositoryGet sessionId)
      ((self.advanced shift).repositoryGet sessionId) := by
  refine lockstep_invoke fun world other ahead => ?_
  rw [ahead.get]
  exact .works ahead

theorem lockstep_repositorySave (session : Session) (expectedRevision : Nat) :
    Lockstep (World.Ahead shift) (self.repositorySave session expectedRevision)
      ((self.advanced shift).repositorySave session expectedRevision) := by
  refine lockstep_invoke fun world other ahead => ?_
  rw [ahead.sessions]
  cases InMemorySessionRepository.save other.sessions session expectedRevision with
  | ok sessions => exact .works ⟨rfl, ahead.calls⟩
  | error error => exact .refused error

theorem lockstep_executionRemove (participantId : UUID) :
    Lockstep (World.Ahead shift) (self.executionRemove participantId)
      ((self.advanced shift).executionRemove participantId) :=
  lockstep_invoke fun _ _ ahead => .works ⟨ahead.sessions, ahead.calls⟩

theorem lockstep_retireRuntime (participantId : UUID) :
    Lockstep (World.Ahead shift) (self.retireRuntime participantId)
      ((self.advanced shift).retireRuntime participantId) :=
  lockstep_bind (lockstep_tryCatch (lockstep_invoke fun _ _ => .works) fun _ => lockstep_pure _)
    fun _ => lockstep_executionRemove participantId

theorem lockstep_required (sessionId : UUID) :
    Lockstep (World.Ahead shift) (self.required sessionId)
      ((self.advanced shift).required sessionId) := by
  refine lockstep_bind (lockstep_repositoryGet sessionId) fun found => ?_
  cases found with
  | none => exact lockstep_throw _
  | some session => exact lockstep_pure session

theorem lockstep_replaceParticipant (session : Session) (participant : Participant)
    (state : SessionState) (append : Bool) (expiresAt : Option Time) :
    Lockstep (World.Ahead shift)
      (self.replaceParticipant session participant state append expiresAt)
      ((self.advanced shift).replaceParticipant session participant state append expiresAt) :=
  lockstep_bind lockstep_clock fun _ =>
    lockstep_bind (lockstep_repositorySave _ _) fun _ => lockstep_pure _

theorem lockstep_closeSession (session : Session) (reason : String) :
    Lockstep (World.Ahead shift) (self.closeSession session reason)
      ((self.advanced shift).closeSession session reason) := by
  refine lockstep_ite (fun _ => lockstep_pure _) fun _ => ?_
  refine lockstep_bind (lockstep_ofExcept _) fun _ => lockstep_bind lockstep_clock fun now => ?_
  refine lockstep_bind (lockstep_forM fun item => ?_) fun _ => ?_
  · exact lockstep_ite (fun _ => lockstep_retireRuntime _) fun _ => lockstep_pure _
  refine lockstep_bind (lockstep_ofExcept _) fun participants => ?_
  exact lockstep_bind (lockstep_repositorySave _ _) fun _ => lockstep_pure _

theorem lockstep_expire (session : Session) :
    Lockstep (World.Ahead shift) (self.expire session) ((self.advanced shift).expire session) := by
  refine lockstep_ite (fun _ => lockstep_pure _) fun _ => lockstep_bind lockstep_clock fun now => ?_
  exact lockstep_ite (fun _ => lockstep_closeSession _ _) fun _ => lockstep_pure _

theorem lockstep_get (sessionId : UUID) :
    Lockstep (World.Ahead shift) (self.get sessionId) ((self.advanced shift).get sessionId) :=
  lockstep_bind (lockstep_required sessionId) fun session => lockstep_expire session

/-- An operation that reads a session first. -/
theorem lockstep_addressed {sessionId : UUID} {next next' : Session → ServiceProgram α}
    (rest : ∀ session, Lockstep (World.Ahead shift) (next session) (next' session)) :
    Lockstep (World.Ahead shift)
      (do let session ← self.required sessionId
          let session ← self.expire session
          next session : ServiceProgram α)
      (do let session ← (self.advanced shift).required sessionId
          let session ← (self.advanced shift).expire session
          next' session) :=
  lockstep_bind (lockstep_required sessionId) fun session =>
    lockstep_bind (lockstep_expire session) rest

theorem lockstep_dismiss (session : Session) (participant : Participant) :
    Lockstep (World.Ahead shift)
      (do self.retireRuntime participant.participantId
          let now ← self.clock
          let left ← Program.ofExcept (leftParticipant now participant)
          self.replaceParticipant session left session.state false none : ServiceProgram Session)
      (do (self.advanced shift).retireRuntime participant.participantId
          let now ← (self.advanced shift).clock
          let left ← Program.ofExcept (leftParticipant now participant)
          (self.advanced shift).replaceParticipant session left session.state false none) :=
  lockstep_bind (lockstep_retireRuntime _) fun _ => lockstep_bind lockstep_clock fun _ =>
    lockstep_bind (lockstep_ofExcept _) fun _ => lockstep_replaceParticipant _ _ _ _ _

theorem lockstep_close (sessionId : UUID) (actor : Actor) :
    Lockstep (World.Ahead shift) (self.close sessionId actor)
      ((self.advanced shift).close sessionId actor) :=
  lockstep_bind (lockstep_required sessionId) fun _ =>
    lockstep_ite (fun _ => lockstep_throw _) fun _ => lockstep_closeSession _ _

theorem lockstep_leave (sessionId : UUID) (actor : Actor) :
    Lockstep (World.Ahead shift) (self.leave sessionId actor)
      ((self.advanced shift).leave sessionId actor) := by
  refine lockstep_addressed fun session => ?_
  cases liveOf session actor.userId with
  | none => exact lockstep_ite (fun _ => lockstep_pure _) fun _ => lockstep_throw _
  | some matching =>
      exact lockstep_ite (fun _ => lockstep_pure _) fun _ => lockstep_dismiss session matching

theorem lockstep_kick (sessionId participantId : UUID) (actor : Actor) :
    Lockstep (World.Ahead shift) (self.kick sessionId actor participantId)
      ((self.advanced shift).kick sessionId actor participantId) := by
  refine lockstep_addressed fun session => lockstep_ite (fun _ => lockstep_throw _) fun _ => ?_
  cases session.participants.find? fun item => item.participantId = participantId with
  | none => exact lockstep_throw _
  | some participant =>
      refine lockstep_ite (fun _ => lockstep_throw _) fun _ => ?_
      exact lockstep_ite (fun _ => lockstep_pure _) fun _ => lockstep_dismiss session participant

theorem lockstep_heartbeat (sessionId : UUID) (actor : Actor) :
    Lockstep (World.Ahead shift) (self.heartbeat sessionId actor)
      ((self.advanced shift).heartbeat sessionId actor) := by
  refine lockstep_addressed fun session => ?_
  cases activeOf session actor.userId with
  | none => exact lockstep_throw _
  | some participant =>
      exact lockstep_bind lockstep_clock fun _ => lockstep_replaceParticipant _ _ _ _ _

theorem lockstep_launch (sessionId : UUID) (actor : Actor) :
    Lockstep (World.Ahead shift) (self.launch sessionId actor)
      ((self.advanced shift).launch sessionId actor) := by
  refine lockstep_addressed fun session => ?_
  cases activeOf session actor.userId with
  | none => exact lockstep_throw _
  | some participant =>
      dsimp only
      cases participant.streamPath with
      | none => exact lockstep_throw _
      | some path =>
          refine lockstep_bind (lockstep_streamProvision _ _) fun token => ?_
          exact lockstep_ite (fun _ => lockstep_pure _) fun _ => lockstep_throw _

end SessionService

end RetroBrowser.SessionManager
