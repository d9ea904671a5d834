import RetroBrowser.Foundation.WeakestPre
import RetroBrowser.SessionManager.Services.Retirement

/-!
Owns what one call to a dependency leads to, from any world and for each way it
ends. These rules need no invariant and keep the errors apart, so they serve
contracts about exact results and about the errors an operation may raise.
-/

namespace RetroBrowser.SessionManager

open RetroBrowser.Foundation Program

/-- Why a call raises an error, and whether its effect took place before. -/
inductive Dependencies.Raises {α : Type} (dependencies : Dependencies) (index : Nat) (call : Call)
    (result : Except Error α) : Error → Bool → Prop
  | planned {error : Error} {applied : Bool}
      (plan : dependencies.fault index call = some ⟨error, applied⟩) :
      Raises dependencies index call result error applied
  | without {error : Error} (refusal : Error)
      (plan : dependencies.fault index call = some ⟨error, true⟩)
      (refused : result = .error refusal) : Raises dependencies index call result error false
  | refused {error : Error} (plan : dependencies.fault index call = none)
      (answer : result = .error error) : Raises dependencies index call result error false

/-- A call that always has an answer raises only where the plan says so. -/
theorem Dependencies.Raises.plan {α : Type} {dependencies : Dependencies} {index : Nat}
    {call : Call} {value : α} {error : Error} {applied : Bool}
    (raises : dependencies.Raises index call (.ok value : Except Error α) error applied) :
    dependencies.fault index call = some ⟨error, applied⟩ := by
  cases raises with
  | planned plan => exact plan
  | without _ _ refused => cases refused
  | refused _ answer => cases answer

/-- What an inspection answers as call number `index`, its error included. -/
def Dependencies.inspected (dependencies : Dependencies) (index : Nat) (participantId : UUID) :
    Except Error RuntimeHandle :=
  match dependencies.fault index (.executionInspect participantId) with
  | some fault => .error fault.error
  | none => dependencies.runtimeInspected index participantId

theorem Dependencies.Answers.inspected {dependencies : Dependencies} {index : Nat}
    {participantId : UUID} {handle : RuntimeHandle}
    (answers : dependencies.Answers index (.executionInspect participantId))
    (shown : dependencies.runtimeInspected index participantId = .ok handle) :
    dependencies.inspected index participantId = .ok handle := by
  unfold Dependencies.inspected
  rw [answers.2]
  exact shown

theorem Dependencies.Raises.inspected {dependencies : Dependencies} {index : Nat}
    {participantId : UUID} {error : Error} {applied : Bool}
    (raises : dependencies.Raises index (.executionInspect participantId)
      (dependencies.runtimeInspected index participantId) error applied) :
    dependencies.inspected index participantId = .error error := by
  unfold Dependencies.inspected
  cases raises with
  | planned plan => rw [plan]
  | without _ plan _ => rw [plan]
  | refused plan answer =>
      rw [plan]
      exact answer

/-- A call to the session repository. -/
def Call.onRepository : Call → Bool
  | .repositoryAdd _ | .repositoryGet _ | .repositoryList | .repositorySave _ _ => true
  | _ => false

/-- The process runs on and the repository answers every call. -/
structure Dependencies.Reliable (dependencies : Dependencies) : Prop where
  running : ∀ index, dependencies.stops index = false
  stores : ∀ index call, call.onRepository = true → dependencies.fault index call = none

/-- The process never stops. -/
theorem Dependencies.Reliable.never {dependencies : Dependencies}
    (reliable : dependencies.Reliable) {index : Nat} {fact : Prop}
    (stops : dependencies.stops index = true) : fact := by
  rw [reliable.running] at stops
  cases stops

/-- The postcondition of a program that returns; the other ends promise nothing. -/
def onReturn {α : Type} (returned : α → World → Prop) : Post World Error α :=
  ⟨returned, fun _ _ => True, fun _ => True⟩

namespace SessionService

variable {self : SessionService} {world : World}

section Rules

variable {α : Type} {post : Post World Error α}

/-- A call that may raise. `result` is its answer when it works and `after` the
world its effect leaves. -/
theorem ensures_invoke {call : Call} {works : World → Except Error (α × World)}
    (result : Except Error α) (after : World) (answer : works world = result.map (·, after))
    (returned : ∀ value, result = .ok value →
      self.dependencies.Answers world.history.length call →
      post.returned value (after.observe call))
    (raised : ∀ error applied, self.dependencies.stops world.history.length = false →
      self.dependencies.Raises world.history.length call result error applied →
      post.raised error ((if applied then after else world).record ⟨call, applied, false⟩))
    (stopped : self.dependencies.stops world.history.length = true → post.stopped world) :
    (self.invoke call works).Ensures post world := by
  unfold Program.Ensures invoke
  by_cases stops : self.dependencies.stops world.history.length = true
  · rw [if_pos stops]
    exact stopped stops
  · rw [if_neg stops]
    have running : self.dependencies.stops world.history.length = false := by
      simpa using stops
    cases plan : self.dependencies.fault world.history.length call with
    | none =>
        cases result with
        | ok value =>
            rw [answer]
            exact returned value rfl ⟨running, plan⟩
        | error error =>
            rw [answer]
            exact raised error false running (.refused plan rfl)
    | some fault =>
        obtain ⟨error, applied⟩ := fault
        cases result with
        | ok value =>
            rw [answer]
            have holds := raised error applied running (.planned plan)
            cases applied <;> exact holds
        | error refusal =>
            rw [answer]
            cases applied with
            | false => exact raised error false running (.planned plan)
            | true => exact raised error false running (.without refusal plan rfl)

/-- A call of the standard library. -/
theorem ensures_observe {call : Call} {answer : α}
    (returned : self.dependencies.stops world.history.length = false →
      post.returned answer (world.observe call))
    (stopped : self.dependencies.stops world.history.length = true → post.stopped world) :
    (self.observe call answer).Ensures post world := by
  unfold Program.Ensures observe
  by_cases stops : self.dependencies.stops world.history.length = true
  · rw [if_pos stops]
    exact stopped stops
  · rw [if_neg stops]
    exact returned (by simpa using stops)

end Rules

theorem ensures_clock {post : Post World Error Time}
    (returned : self.dependencies.stops world.history.length = false →
      post.returned (self.dependencies.clock world.history.length) (world.observe .clock))
    (stopped : self.dependencies.stops world.history.length = true → post.stopped world) :
    self.clock.Ensures post world :=
  ensures_observe returned stopped

theorem ensures_monotonic {post : Post World Error Rat}
    (returned : self.dependencies.stops world.history.length = false →
      post.returned (self.dependencies.monotonic world.history.length) (world.observe .monotonic))
    (stopped : self.dependencies.stops world.history.length = true → post.stopped world) :
    self.monotonic.Ensures post world :=
  ensures_observe returned stopped

theorem ensures_sleep {post : Post World Error Unit} {seconds : Rat}
    (returned : self.dependencies.stops world.history.length = false →
      post.returned () (world.observe (.sleep seconds)))
    (stopped : self.dependencies.stops world.history.length = true → post.stopped world) :
    (self.sleep seconds).Ensures post world :=
  ensures_observe returned stopped

theorem ensures_uuid4 {post : Post World Error UUID}
    (returned : self.dependencies.stops world.history.length = false →
      self.dependencies.uuid4 world.history.length ∉ world.issued →
      post.returned (self.dependencies.uuid4 world.history.length)
        ((world.issue (self.dependencies.uuid4 world.history.length)).observe .uuid4))
    (stopped : self.dependencies.stops world.history.length = true ∨
      self.dependencies.uuid4 world.history.length ∈ world.issued → post.stopped world) :
    self.uuid4.Ensures post world := by
  unfold Program.Ensures uuid4
  dsimp only
  by_cases blocked : self.dependencies.stops world.history.length = true ∨
      self.dependencies.uuid4 world.history.length ∈ world.issued
  · rw [if_pos blocked]
    exact stopped blocked
  · rw [if_neg blocked]
    rw [not_or] at blocked
    exact returned (by simpa using blocked.1) blocked.2

theorem ensures_executionInspect {post : Post World Error RuntimeHandle} {participantId : UUID}
    (returned : ∀ handle,
      self.dependencies.runtimeInspected world.history.length participantId = .ok handle →
      self.dependencies.Answers world.history.length (.executionInspect participantId) →
      post.returned handle (world.observe (.executionInspect participantId)))
    (raised : ∀ error applied, self.dependencies.stops world.history.length = false →
      self.dependencies.Raises world.history.length (.executionInspect participantId)
        (self.dependencies.runtimeInspected world.history.length participantId) error applied →
      post.raised error (world.record ⟨.executionInspect participantId, applied, false⟩))
    (stopped : self.dependencies.stops world.history.length = true → post.stopped world) :
    (self.executionInspect participantId).Ensures post world := by
  apply ensures_invoke _ world rfl returned _ stopped
  intro error applied running raises
  rw [ite_self]
  exact raised error applied running raises

/-- What must hold for each way a call ends that always has an answer. -/
structure CallEnds {α : Type} (service : SessionService) (world : World) (call : Call) (value : α)
    (after : World) (post : Post World Error α) : Prop where
  returned : service.dependencies.Answers world.history.length call →
    post.returned value (after.observe call)
  raised : ∀ error applied, service.dependencies.stops world.history.length = false →
    service.dependencies.fault world.history.length call = some ⟨error, applied⟩ →
    post.raised error ((if applied then after else world).record ⟨call, applied, false⟩)
  stopped : service.dependencies.stops world.history.length = true → post.stopped world

/-- A call that works in `world` and always has an answer. -/
theorem ensures_answered {α : Type} {post : Post World Error α} {call : Call}
    {works : World → Except Error (α × World)} {value : α} {after : World}
    (answer : works world = .ok (value, after)) (ends : CallEnds self world call value after post) :
    (self.invoke call works).Ensures post world := by
  apply ensures_invoke (.ok value) after answer _ _ ends.stopped
  · intro other same answers
    cases same
    exact ends.returned answers
  · intro error applied running raises
    exact ends.raised error applied running raises.plan

theorem ensures_repositoryGet {post : Post World Error (Option Session)} {sessionId : UUID}
    (ends : CallEnds self world (.repositoryGet sessionId) (world.get sessionId) world post) :
    (self.repositoryGet sessionId).Ensures post world :=
  ensures_answered rfl ends

theorem ensures_repositoryList {post : Post World Error (List Session)}
    (ends : CallEnds self world .repositoryList (InMemorySessionRepository.list world.sessions)
      world post) : self.repositoryList.Ensures post world :=
  ensures_answered rfl ends

/-- A save of the next version of the stored record. -/
theorem ensures_repositorySave {post : Post World Error Unit} {stored updated : Session}
    (found : world.get updated.sessionId = some stored)
    (next : updated.revision = stored.revision + 1)
    (ends : CallEnds self world (.repositorySave updated stored.revision) ()
    (world.overwrite updated)
      post) : (self.repositorySave updated stored.revision).Ensures post world := by
  refine ensures_answered ?_ ends
  have saved := InMemorySessionRepository.save_ok found next
  rw [saved]
  rfl

theorem ensures_repositoryAdd {post : Post World Error Unit} {session : Session}
    (unused : world.get session.sessionId = none)
    (ends : CallEnds self world (.repositoryAdd session) () (world.insert session) post) :
    (self.repositoryAdd session).Ensures post world := by
  refine ensures_answered ?_ ends
  rw [InMemorySessionRepository.add_ok unused]
  rfl

theorem ensures_executionCreate {post : Post World Error RuntimeHandle} {request : RuntimeRequest}
    (ends : CallEnds self world (.executionCreate request)
      (self.dependencies.runtimeCreated world.history.length request)
      (world.startRuntime request.participantId) post) :
    (self.executionCreate request).Ensures post world :=
  ensures_answered rfl ends

theorem ensures_executionRemove {post : Post World Error Unit} {participantId : UUID}
    (ends : CallEnds self world (.executionRemove participantId) ()
      (world.discardRuntime participantId) post) :
    (self.executionRemove participantId).Ensures post world :=
  ensures_answered rfl ends

theorem ensures_streamProvision {post : Post World Error String} {participantId : UUID}
    {gamepadSlot : Nat} (ends : CallEnds self world (.streamProvision participantId gamepadSlot)
      (self.dependencies.controllerToken world.history.length participantId) world post) :
    (self.streamProvision participantId gamepadSlot).Ensures post world :=
  ensures_answered rfl ends

theorem ensures_streamRevoke {post : Post World Error Unit} {participantId : UUID}
    (ends : CallEnds self world (.streamRevoke participantId) () world post) :
    (self.streamRevoke participantId).Ensures post world :=
  ensures_answered rfl ends

/-- Revocation swallows its error: it only adds to the history. -/
theorem ensures_bestEffortRevoke {post : Post World Error Unit} {participantId : UUID}
    (tried : ∀ applied returned, self.dependencies.stops world.history.length = false →
      post.returned () (world.record ⟨.streamRevoke participantId, applied, returned⟩))
    (stopped : self.dependencies.stops world.history.length = true → post.stopped world) :
    (self.bestEffortRevoke participantId).Ensures post world := by
  apply ensures_tryCatch.mpr
  apply ensures_streamRevoke
  constructor
  · exact fun answers => tried true true answers.1
  · intro error applied running _
    rw [ite_self]
    exact tried applied false running
  · exact stopped

/-! ## Reading a session -/

/-- The stored record, or the error that there is none. -/
theorem ensures_required {post : Post World Error Session} {sessionId : UUID}
    (ends : CallEnds self world (.repositoryGet sessionId) (world.get sessionId) world
      ⟨fun found after => match found with
        | none => post.raised (.notFound "session not found") after
        | some session => post.returned session after, post.raised, post.stopped⟩) :
    (self.required sessionId).Ensures post world := by
  refine ensures_bind.mpr (ensures_repositoryGet ⟨fun answers => ?_, ends.raised, ends.stopped⟩)
  have reached := ends.returned answers
  cases found : world.get sessionId with
  | none =>
      rw [found] at reached
      exact reached
  | some session =>
      rw [found] at reached
      exact reached

/-- Expiry closes a session that is due at the instant it reads. -/
theorem ensures_expire {post : Post World Error Session} {session : Session}
    (closed : session.state = .closed → post.returned session world)
    (fresh : session.state ≠ .closed → self.dependencies.stops world.history.length = false →
      self.dependencies.clock world.history.length < session.expiresAt →
      post.returned session (world.observe .clock))
    (due : session.state ≠ .closed → self.dependencies.stops world.history.length = false →
      session.expiresAt ≤ self.dependencies.clock world.history.length →
      (self.closeSession session "expired").Ensures post (world.observe .clock))
    (stopped : self.dependencies.stops world.history.length = true → post.stopped world) :
    (self.expire session).Ensures post world := by
  refine ensures_ite.mpr ⟨closed, fun live => ?_⟩
  refine ensures_bind.mpr (ensures_clock (fun running => ?_) stopped)
  exact ensures_ite.mpr ⟨due live running, fun early => fresh live running (not_le.mp early)⟩

/-- Closing returns a closed record, whatever the session was. -/
theorem closeSession_closed (session : Session) (reason : String) :
    (self.closeSession session reason).Ensures (onReturn fun value _ => value.state = .closed)
      world := by
  have any : ∀ {α : Type} (program : ServiceProgram α)
    (next : α → ServiceProgram Session) world,
      (∀ value after, (next value).Ensures (onReturn fun value _ => value.state = .closed)
        after) →
        (program >>= next).Ensures (onReturn fun value _ => value.state = .closed) world :=
    fun program next world rest => ensures_bind.mpr
      (ensures_of_forall rest (fun _ _ => trivial) fun _ => trivial)
  refine ensures_ite.mpr ⟨fun closed => closed, fun _ => ?_⟩
  refine any _ _ _ fun _ _ => any _ _ _ fun now _ => any _ _ _ fun _ _ => ?_
  exact any _ _ _ fun participants _ => any _ _ _ fun _ _ => rfl

/-! ## Records that were stored -/

/-- A save that returns has stored its record. -/
theorem repositorySave_stores (updated : Session) (expectedRevision : Nat) :
    (self.repositorySave updated expectedRevision).Ensures
      (onReturn fun _ after => after.get updated.sessionId = some updated) world := by
  cases answer : InMemorySessionRepository.save world.sessions updated expectedRevision with
  | error error =>
      refine ensures_invoke (.error error) world (by rw [answer]; rfl) ?_ (fun _ _ _ _ => trivial)
        fun _ => trivial
      intro value impossible
      cases impossible
  | ok sessions =>
      refine ensures_invoke (.ok ()) { world with sessions } (by rw [answer]; rfl) ?_
        (fun _ _ _ _ => trivial) fun _ => trivial
      exact fun _ _ _ => InMemorySessionRepository.get_of_save answer

theorem replaceParticipant_stores (session : Session) (participant : Participant)
    (state : SessionState) (append : Bool) (expiresAt : Option Time) :
    (self.replaceParticipant session participant state append expiresAt).Ensures
      (onReturn fun updated after => after.get session.sessionId = some updated ∧
        ∃ now, updated = replacement session participant state append expiresAt now) world := by
  refine ensures_bind.mpr (ensures_clock (fun _ => ?_) fun _ => trivial)
  exact ensures_bind.mpr (.mono (repositorySave_stores _ _)
    (fun _ _ stored => ⟨stored, _, rfl⟩) (fun _ _ => id) fun _ => id)

/-- Closing leaves a closed record of the same lobby. -/
theorem closeSession_stores {session : Session}
    (stored : world.get session.sessionId = some session) (reason : String) :
    (self.closeSession session reason).Ensures
      (onReturn fun value after => after.get session.sessionId = some value ∧
        value.sessionId = session.sessionId ∧ value.ownerUserId = session.ownerUserId ∧
        value.state = .closed) world := by
  refine ensures_ite.mpr ⟨fun closed => ⟨stored, rfl, rfl, closed⟩, fun _ => ?_⟩
  refine ensures_bind.mpr (ensures_of_forall (fun _ _ => ?_) (fun _ _ => trivial) fun _ => trivial)
  refine ensures_bind.mpr (ensures_clock (fun _ => ?_) fun _ => trivial)
  refine ensures_bind.mpr (ensures_of_forall (fun _ _ => ?_) (fun _ _ => trivial) fun _ => trivial)
  refine ensures_bind.mpr (ensures_of_forall (fun _ _ => ?_) (fun _ _ => trivial) fun _ => trivial)
  exact ensures_bind.mpr (.mono (repositorySave_stores _ _)
    (fun _ _ stored => ⟨stored, rfl, rfl, rfl⟩) (fun _ _ => id) fun _ => id)

/-- Expiry leaves the stored record or a closed one in its place. -/
theorem expire_stores {session : Session} (stored : world.get session.sessionId = some session) :
    (self.expire session).Ensures
      (onReturn fun value after => after.get session.sessionId = some value ∧
        (value = session ∨ value.sessionId = session.sessionId ∧
          value.ownerUserId = session.ownerUserId ∧ value.state = .closed)) world := by
  apply ensures_expire
  · exact fun _ => ⟨stored, .inl rfl⟩
  · exact fun _ _ _ => ⟨stored, .inl rfl⟩
  · intro _ _ _
    have stored' : (world.observe .clock).get session.sessionId = some session := stored
    exact (closeSession_stores stored' _).mono (fun _ _ kept => ⟨kept.1, .inr kept.2⟩)
      (fun _ _ => id) fun _ => id
  · exact fun _ => trivial

end SessionService

end RetroBrowser.SessionManager
