import RetroBrowser.SessionManager.Services.Permitted

/-!
Owns the rule of every call to a dependency: which lobby action the call is,
and exactly which world and answer it leads to. Reading calls leave a world
that differs by one event, so the programs built from them are executed
symbolically and every guard is a fact about the world it was checked in.
-/

namespace RetroBrowser.SessionManager

open RetroBrowser.Foundation ActionSystem

/-- The world after a call that changes nothing else and returns. -/
def World.observe (world : World) (call : Call) : World := world.record ⟨call, true, true⟩

/-- The world after a save that works. -/
def World.save (world : World) (updated : Session) (expectedRevision : Nat) : World :=
  (world.overwrite updated).observe (.repositorySave updated expectedRevision)

section Observe

variable (world : World) (call : Call) (id : UUID) (session : Session) (revision : Nat)

@[simp] theorem World.observe_sessions : (world.observe call).sessions = world.sessions := rfl
@[simp] theorem World.observe_runtimes : (world.observe call).runtimes = world.runtimes := rfl
@[simp] theorem World.observe_issued : (world.observe call).issued = world.issued := rfl
@[simp] theorem World.observe_get : (world.observe call).get id = world.get id := rfl
@[simp] theorem World.observe_history :
    (world.observe call).history = ⟨call, true, true⟩ :: world.history := rfl
@[simp] theorem World.observe_activeSessions :
    (world.observe call).activeSessions = world.activeSessions := rfl
@[simp] theorem World.issue_activeSessions :
    (world.issue id).activeSessions = world.activeSessions := rfl
@[simp] theorem World.save_sessions : (world.save session revision).sessions =
    InMemorySessionRepository.overwrite world.sessions session := rfl
@[simp] theorem World.save_runtimes : (world.save session revision).runtimes = world.runtimes := rfl
@[simp] theorem World.save_issued : (world.save session revision).issued = world.issued := rfl
@[simp] theorem World.save_history : (world.save session revision).history =
    ⟨.repositorySave session revision, true, true⟩ :: world.history := rfl

end Observe

/-- The request follows the lobby by the actions it may take. -/
abbrev Request.Follows {α : Type} (configuration : Configuration) (request : Request)
    (start world : World) (program : ServiceProgram α) (onValue : α → World → Prop)
    (onError : Error → World → Prop) : Prop :=
  (lobby configuration).Follows (request.Permits configuration start) world program onValue onError

section Calls

variable {α : Type} {configuration : Configuration} {request : Request} {start world : World}
variable {onError : Error → World → Prop}

namespace Request

/-- The rule of a call that may raise. `result` is its answer when it works and
`after` the world its effect leaves; where the call raises, the effect may have
taken place or not. -/
theorem follows_invoke {call : Call} {works : World → Except Error (α × World)}
    (result : Except Error α) (after : World) (action : Bool → Bool → Action)
    (answer : works world = result.map (·, after))
    (effect : ∀ applied returned, (action applied returned).apply world =
      (if applied then after else world).record ⟨call, applied, returned⟩)
    (allowed : request.dependencies.stops world.history.length = false →
      ∀ applied returned, request.Permits configuration start world (action applied returned))
    (enabled : ∀ applied returned, (action applied returned).Enabled configuration world)
    (failed : ∀ error (applied : Bool),
      request.dependencies.fault world.history.length call = some ⟨error, applied⟩ ∨
        (∃ raised, result = .error raised) ∧ applied = false →
      onError error ((if applied then after else world).record ⟨call, applied, false⟩)) :
    request.Follows configuration start world
      ((request.service configuration).invoke call works)
      (fun value later => result = .ok value ∧ later = after.observe call ∧
        request.dependencies.Answers world.history.length call) onError := by
  by_cases stops : request.dependencies.stops world.history.length = true
  · refine follows_stay .stopped ?_ trivial
    simp [SessionService.invoke, stops]
  simp only [Bool.not_eq_true] at stops
  have step : ∀ (outcome : Outcome Error α) (applied returned : Bool),
      (request.service configuration).invoke call works world =
        (outcome, (if applied then after else world).record ⟨call, applied, returned⟩) →
      outcome.Meets
        (fun value => result = .ok value ∧
          (if applied then after else world).record ⟨call, applied, returned⟩ =
            after.observe call ∧ request.dependencies.Answers world.history.length call)
        (fun error => onError error
          ((if applied then after else world).record ⟨call, applied, returned⟩)) →
      request.Follows configuration start world
        ((request.service configuration).invoke call works)
        (fun value later => result = .ok value ∧ later = after.observe call ∧
          request.dependencies.Answers world.history.length call) onError := by
    intro outcome applied returned run meets
    rw [← effect applied returned] at run meets
    exact follows_step outcome (action applied returned) run (allowed stops applied returned)
      (enabled applied returned) meets
  cases fault : request.dependencies.fault world.history.length call with
  | none =>
      cases result with
      | ok value =>
          refine step (.returned value) true true ?_ ⟨rfl, rfl, stops, fault⟩
          simp [SessionService.invoke, stops, fault, answer, Except.map]
      | error raised =>
          refine step (.raised raised) false false ?_
            (failed raised false (Or.inr ⟨⟨raised, rfl⟩, rfl⟩))
          simp [SessionService.invoke, stops, fault, answer, Except.map]
  | some disturbance =>
      obtain ⟨error, applied⟩ := disturbance
      cases result with
      | ok value =>
          refine step (.raised error) applied false ?_ (failed error applied (Or.inl fault))
          cases applied <;> simp [SessionService.invoke, stops, fault, answer, Except.map]
      | error raised =>
          refine step (.raised error) false false ?_
            (failed error false (Or.inr ⟨⟨raised, rfl⟩, rfl⟩))
          cases applied <;> simp [SessionService.invoke, stops, fault, answer, Except.map]

/-- The rule of a call that reads. -/
theorem follows_read {call : Call} {works : World → Except Error (α × World)}
    (result : Except Error α) (reads : call.readOnly = true)
    (answer : works world = result.map (·, world))
    (failed : ∀ error (applied : Bool),
      request.dependencies.fault world.history.length call ≠ none ∨
        (∃ raised, result = .error raised) →
      onError error (world.record ⟨call, applied, false⟩)) :
    request.Follows configuration start world
      ((request.service configuration).invoke call works)
      (fun value later => result = .ok value ∧ later = world.observe call ∧
        request.dependencies.Answers world.history.length call) onError := by
  refine follows_invoke result world (fun applied returned =>
    .observed ⟨call, applied, returned⟩) answer
    (fun applied returned => by simp [Action.apply]) (fun _ _ _ => trivial) (fun _ _ => reads) ?_
  intro error applied cause
  rw [ite_self]
  refine failed error applied (cause.imp (fun fault => ?_) And.left)
  rw [fault]
  exact Option.some_ne_none _

/-- The rule of a standard library call. -/
theorem follows_observe {call : Call} {answer : α} (reads : call.readOnly = true) :
    request.Follows configuration start world
      ((request.service configuration).observe call answer)
      (fun value later => value = answer ∧ later = world.observe call ∧
        request.dependencies.stops world.history.length = false) onError := by
  by_cases stops : request.dependencies.stops world.history.length = true
  · refine follows_stay .stopped ?_ trivial
    simp [SessionService.observe, stops]
  · simp only [Bool.not_eq_true] at stops
    refine follows_step (.returned answer) (.observed ⟨call, true, true⟩) ?_ trivial
      reads ⟨rfl, rfl, stops⟩
    simp [SessionService.observe, stops, lobby, Action.apply]

theorem follows_clock : request.Follows configuration start world
    (request.service configuration).clock
    (fun now later => now = request.dependencies.clock world.history.length ∧
      later = world.observe .clock ∧ request.dependencies.stops world.history.length = false)
    onError :=
  follows_observe rfl

theorem follows_monotonic : request.Follows configuration start world
    (request.service configuration).monotonic
    (fun _ later => later = world.observe .monotonic) onError :=
  (follows_observe rfl).weakenValue (fun _ _ reached => reached.2.1)

theorem follows_sleep (seconds : Rat) : request.Follows configuration start world
    ((request.service configuration).sleep seconds)
    (fun _ later => later = world.observe (.sleep seconds)) onError :=
  (follows_observe rfl).weakenValue (fun _ _ reached => reached.2.1)

theorem follows_uuid4 : request.Follows configuration start world
    (request.service configuration).uuid4
    (fun id later => id = request.dependencies.uuid4 world.history.length ∧
      id ∉ world.issued ∧
      later = (world.issue id).observe .uuid4 ∧
      request.dependencies.stops world.history.length = false) onError := by
  by_cases blocked : request.dependencies.stops world.history.length = true ∨
      request.dependencies.uuid4 world.history.length ∈ world.issued
  · refine follows_stay .stopped ?_ trivial
    simp [SessionService.uuid4, blocked]
  · have free := blocked
    simp only [not_or, Bool.not_eq_true] at free
    refine follows_step (.returned (request.dependencies.uuid4 world.history.length))
      (.drew (request.dependencies.uuid4 world.history.length)) ?_ trivial free.2
      ⟨rfl, free.2, rfl, free.1⟩
    simp [SessionService.uuid4, blocked, lobby, Action.apply]

theorem follows_resolveGame (rommRomId : Int)
    (failed : ∀ error (applied : Bool),
      onError error (world.record ⟨.resolveGame rommRomId, applied, false⟩)) :
    request.Follows configuration start world
      ((request.service configuration).resolveGame rommRomId)
      (fun game later =>
        request.dependencies.resolveGame world.history.length rommRomId = .ok game ∧
          later = world.observe (.resolveGame rommRomId) ∧
          request.dependencies.Answers world.history.length (.resolveGame rommRomId)) onError :=
  follows_read _ rfl rfl fun error applied _ => failed error applied

theorem follows_resolveCore (platform : String)
    (failed : ∀ error (applied : Bool),
      onError error (world.record ⟨.resolveCore platform, applied, false⟩)) :
    request.Follows configuration start world
      ((request.service configuration).resolveCore platform)
      (fun core later =>
        request.dependencies.resolveCore world.history.length platform = .ok core ∧
          later = world.observe (.resolveCore platform) ∧
          request.dependencies.Answers world.history.length (.resolveCore platform)) onError :=
  follows_read _ rfl rfl fun error applied _ => failed error applied

theorem follows_repositoryGet (sessionId : UUID)
    (failed : ∀ error (applied : Bool),
      onError error (world.record ⟨.repositoryGet sessionId, applied, false⟩)) :
    request.Follows configuration start world
      ((request.service configuration).repositoryGet sessionId)
      (fun found later => found = world.get sessionId ∧
        later = world.observe (.repositoryGet sessionId) ∧
        request.dependencies.Answers world.history.length (.repositoryGet sessionId)) onError :=
  (follows_read (.ok (world.get sessionId)) rfl rfl
    fun error applied _ => failed error applied).weakenValue
    (fun _ _ reached => ⟨(Except.ok.inj reached.1).symm, reached.2⟩)

theorem follows_repositoryList
    (failed : ∀ error applied, onError error
      (world.record ⟨.repositoryList, applied, false⟩)) :
    request.Follows configuration start world (request.service configuration).repositoryList
      (fun found later => found = InMemorySessionRepository.list world.sessions ∧
        later = world.observe .repositoryList ∧
        request.dependencies.Answers world.history.length .repositoryList) onError :=
  (follows_read (.ok (InMemorySessionRepository.list world.sessions)) rfl rfl
    fun error applied _ => failed error applied).weakenValue
    (fun _ _ reached => ⟨(Except.ok.inj reached.1).symm, reached.2⟩)

theorem follows_executionList
    (failed : ∀ error applied, onError error
      (world.record ⟨.executionList, applied, false⟩)) :
    request.Follows configuration start world (request.service configuration).executionList
      (fun found later => found.map RuntimeHandle.runtimeId = world.runtimes ∧
        later = world.observe .executionList ∧
        request.dependencies.Answers world.history.length .executionList) onError := by
  refine (follows_read (.ok (world.runtimes.map fun id =>
    { request.dependencies.runtimeListed world.history.length id with runtimeId := id })) rfl rfl
    fun error applied _ => failed error applied).weakenValue ?_
  rintro found later ⟨answer, reached⟩
  cases answer
  refine ⟨?_, reached⟩
  simp [Function.comp_def]

theorem follows_executionInspect (participantId : UUID)
    (failed : ∀ error applied, request.dependencies.FindsFailed participantId →
      onError error (world.record ⟨.executionInspect participantId, applied, false⟩)) :
    request.Follows configuration start world
      ((request.service configuration).executionInspect participantId)
      (fun handle later =>
        (handle.ready = false → request.dependencies.FindsFailed participantId) ∧
          (handle.ready = true → request.dependencies.FindsReady participantId) ∧
          later = world.observe (.executionInspect participantId)) onError := by
  refine (follows_read _ rfl rfl ?_).weakenValue ?_
  · intro error applied cause
    refine failed error applied ⟨world.history.length, cause.imp_right ?_⟩
    rintro ⟨raised, answer⟩ handle answer'
    cases answer.symm.trans answer'
  · rintro handle later ⟨answer, reached, -, noFault⟩
    refine ⟨fun notReady => ⟨world.history.length, Or.inr fun other answer' => ?_⟩,
      fun ready => ⟨world.history.length, handle, noFault, answer, ready⟩, reached⟩
    cases answer.symm.trans answer'
    exact notReady

theorem follows_repositoryAdd {session : Session} {owner : Participant}
    (allowed : ∀ applied returned,
      request.Permits configuration start world (.added session owner applied returned))
    (opens : Action.Opens configuration world session owner)
    (failed : ∀ error after, onError error after) :
    request.Follows configuration start world
      ((request.service configuration).repositoryAdd session)
      (fun _ later => later = (world.insert session).observe (.repositoryAdd session)) onError := by
  refine (follows_invoke (.ok ()) (world.insert session)
    (.added session owner) ?_ (fun _ _ => rfl) (fun _ => allowed) (fun _ _ => opens)
    (fun error applied _ => failed error _)).weakenValue (fun _ _ reached => reached.2.1)
  have absent : InMemorySessionRepository.get world.sessions session.sessionId = none :=
    opens.unusedSession
  rw [InMemorySessionRepository.add_ok absent]
  rfl

theorem follows_repositorySave {session : Session} (update : Update) {updatedAt : Time}
    (stored : world.get session.sessionId = some session)
    (enabled : update.Enabled configuration world session)
    (read : request.dependencies.Read world updatedAt)
    (saves : request.dependencies.stops world.history.length = false →
      request.Saves configuration start world session update)
    (failed : ∀ error (applied : Bool), onError error
      ((if applied then world.overwrite (update.result session updatedAt) else world).record
        ⟨.repositorySave (update.result session updatedAt) session.revision, applied, false⟩)) :
    request.Follows configuration start world
      ((request.service configuration).repositorySave (update.result session updatedAt)
        session.revision)
      (fun _ later => later = world.save (update.result session updatedAt) session.revision ∧
        request.dependencies.Answers world.history.length
          (.repositorySave (update.result session updatedAt) session.revision)) onError := by
  refine (follows_invoke (.ok ())
    (world.overwrite (update.result session updatedAt))
    (.saved session update updatedAt) ?_ (fun _ _ => rfl)
    (fun running _ _ => ⟨read, saves running⟩)
    (fun _ _ => ⟨stored, enabled⟩) (fun error applied _ => failed error applied)).weakenValue
    (fun _ _ reached => reached.2)
  have found : InMemorySessionRepository.get world.sessions
      (update.result session updatedAt).sessionId = some session := by
    rw [Update.result_sessionId]
    exact stored
  rw [InMemorySessionRepository.save_ok found (Update.result_revision session updatedAt update)]
  rfl

theorem follows_executionCreate {session : Session} {participant : Participant}
    {runtimeRequest : RuntimeRequest}
    (reached : request.dependencies.stops world.history.length = false →
      request.Launching configuration start session participant runtimeRequest)
    (starts : Action.Starts configuration world session participant runtimeRequest)
    (failed : ∀ error (applied : Bool),
      (applied = true → request.dependencies.Creates runtimeRequest.participantId) →
      onError error
        ((if applied then world.startRuntime runtimeRequest.participantId else world).record
          ⟨.executionCreate runtimeRequest, applied, false⟩)) :
    request.Follows configuration start world
      ((request.service configuration).executionCreate runtimeRequest)
      (fun _ later => later = (world.startRuntime runtimeRequest.participantId).observe
        (.executionCreate runtimeRequest) ∧
        request.dependencies.Creates runtimeRequest.participantId) onError := by
  refine (follows_invoke (.ok _) (world.startRuntime runtimeRequest.participantId)
    (.created session participant runtimeRequest) rfl (fun _ _ => rfl)
    (fun running _ _ => reached running) (fun _ _ => starts) ?_).weakenValue ?_
  · intro error applied cause
    refine failed error applied fun effective =>
      ⟨world.history.length, runtimeRequest, rfl, fun other refused => ?_⟩
    rcases cause with fault | ⟨-, unapplied⟩
    · rw [refused, effective] at fault
      cases fault
    · rw [effective] at unapplied
      cases unapplied
  · rintro handle later ⟨-, same, answers⟩
    refine ⟨same, world.history.length, runtimeRequest, rfl, fun other refused => ?_⟩
    rw [answers.2] at refused
    cases refused

theorem follows_executionRemove (participantId : UUID)
    (tears : request.Tears configuration start world participantId)
    (failed : ∀ error (applied : Bool),
      (applied = false → request.dependencies.RefusesRemoval participantId) →
      onError error ((if applied then world.discardRuntime participantId else world).record
        ⟨.executionRemove participantId, applied, false⟩)) :
    request.Follows configuration start world
      ((request.service configuration).executionRemove participantId)
      (fun _ later => later = (world.discardRuntime participantId).observe
        (.executionRemove participantId)) onError := by
  refine (follows_invoke (.ok ()) (world.discardRuntime participantId)
    (.removed participantId) rfl (fun _ _ => rfl) (fun _ _ _ => tears) (fun _ _ => trivial)
    ?_).weakenValue (fun _ _ reached => reached.2.1)
  intro error applied cause
  refine failed error applied fun unapplied => ⟨world.history.length, error, ?_⟩
  rcases cause with fault | ⟨⟨raised, impossible⟩, -⟩
  · rw [fault, unapplied]
  · cases impossible

theorem follows_streamProvision {session : Session} {participant : Participant}
    {participantId : UUID} (same : participant.participantId = participantId)
    (allowed : ∀ applied returned,
      request.Permits configuration start world
        (.provisioned session participant applied returned))
    (stored : world.get session.sessionId = some session)
    (member : participant ∈ session.participants)
    (started : participant.state = .starting ∨ participant.state = .active)
    (failed : ∀ error (applied : Bool), onError error
      (world.record ⟨.streamProvision participantId 1, applied, false⟩)) :
    request.Follows configuration start world
      ((request.service configuration).streamProvision participantId 1)
      (fun token later =>
        token = request.dependencies.controllerToken world.history.length participantId ∧
          later = world.observe (.streamProvision participantId 1) ∧
          request.dependencies.Answers world.history.length (.streamProvision participantId 1))
      onError := by
  subst same
  refine (follows_invoke (.ok _) world (.provisioned session participant) rfl
    (fun applied returned => ?_) (fun _ => allowed) (fun _ _ => ⟨stored, member, started⟩)
    ?_).weakenValue (fun _ _ reached => ⟨(Except.ok.inj reached.1).symm, reached.2⟩)
  · rw [ite_self]
    rfl
  · intro error applied _
    rw [ite_self]
    exact failed error applied

/-- Revocation, whose error is swallowed, only adds to the history. -/
theorem follows_bestEffortRevoke (participantId : UUID)
    (tears : request.Tears configuration start world participantId) :
    request.Follows configuration start world
      ((request.service configuration).bestEffortRevoke participantId)
      (fun _ later => ∃ applied returned,
        later = world.record ⟨.streamRevoke participantId, applied, returned⟩) onError := by
  refine follows_tryCatch (fun _ later => ∃ applied returned,
    later = world.record ⟨.streamRevoke participantId, applied, returned⟩) ?_
    fun error later _ reached => follows_pure reached
  refine (follows_invoke (.ok ()) world (.revoked participantId) rfl
    (fun applied returned => ?_) (fun _ _ _ => tears) (fun _ _ => trivial) ?_).weakenValue
    (fun _ _ reached => ⟨true, true, reached.2.1⟩)
  · rw [ite_self]
    rfl
  · intro error applied _
    rw [ite_self]
    exact ⟨applied, false, rfl⟩

end Request

end Calls

end RetroBrowser.SessionManager
