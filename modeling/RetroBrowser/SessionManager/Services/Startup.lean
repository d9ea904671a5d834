import RetroBrowser.SessionManager.Services.Sweep

/-!
Owns the guards of a new participant and its startup. Contract: a startup only
makes the changes of its own participant, and when it fails the participant is
stored as `ERROR` after one attempt to remove its runtime.
-/

namespace RetroBrowser.SessionManager

open RetroBrowser.Foundation ActionSystem

/-! ## Guards -/

namespace SessionService

theorem userRuntimes_perm {left right : List Session} (userId : String) (same : left.Perm right) :
    userRuntimes userId left = userRuntimes userId right :=
  (same.map _).sum_nat

end SessionService

/-- Listing in order of creation does not matter to a count. -/
theorem World.listed_perm (world : World) :
    ((InMemorySessionRepository.list world.sessions).filter fun session =>
      session.state ≠ .closed ∧ session.state ≠ .error).Perm world.activeSessions :=
  (List.perm_insertionSort _ _).filter _

section Guards

variable {configuration : Configuration} {request : Request} {start world : World}
variable {onError : Error → World → Prop}

namespace Request

theorem follows_requireRuntimeCapacity (failed : ∀ error after, onError error after) :
    request.Follows configuration start world
      (request.service configuration).requireRuntimeCapacity
      (fun _ later => later = world.observe .executionList ∧
        (world.runtimes.length : Int) < configuration.runtimeCapacity ∧
        request.dependencies.Answers world.history.length .executionList) onError := by
  refine follows_bind (follows_executionList fun error _ => failed error _) ?_
  rintro runtimes after - ⟨names, rfl, answers⟩
  have count : runtimes.length = world.runtimes.length := by
    rw [← names, List.length_map]
  by_cases full : configuration.runtimeCapacity ≤ runtimes.length
  · rw [if_pos full]
    exact follows_throw (failed _ _)
  · rw [if_neg full]
    exact follows_pure ⟨rfl, by rw [← count]; exact not_le.mp full, answers⟩

theorem follows_activeSessions (failed : ∀ error after, onError error after) :
    request.Follows configuration start world (request.service configuration).activeSessions
      (fun active later => active.Perm world.activeSessions ∧
        later = world.observe .repositoryList ∧
        request.dependencies.Answers world.history.length .repositoryList) onError := by
  refine follows_bind (follows_repositoryList fun error _ => failed error _) ?_
  rintro sessions after - ⟨rfl, rfl, answers⟩
  exact follows_pure ⟨world.listed_perm, rfl, answers⟩

theorem follows_requireSessionCapacity (failed : ∀ error after, onError error after) :
    request.Follows configuration start world
      (request.service configuration).requireSessionCapacity
      (fun _ later => later = world.observe .repositoryList ∧
        (world.activeSessions.length : Int) < configuration.sessionCapacity) onError := by
  refine follows_bind (follows_activeSessions failed) ?_
  rintro active after - ⟨same, rfl, -⟩
  by_cases full : configuration.sessionCapacity ≤ active.length
  · rw [if_pos full]
    exact follows_throw (failed _ _)
  · rw [if_neg full]
    exact follows_pure ⟨rfl, by rw [← same.length_eq]; exact not_le.mp full⟩

theorem follows_requireUserRuntimeCapacity (userId : String)
    (failed : ∀ error after, onError error after) :
    request.Follows configuration start world
      ((request.service configuration).requireUserRuntimeCapacity userId)
      (fun _ later => later = world.observe .repositoryList ∧
        (SessionService.userRuntimes userId world.activeSessions : Int) <
          configuration.perUserRuntimeCapacity ∧
        request.dependencies.Answers world.history.length .repositoryList) onError := by
  refine follows_bind (follows_activeSessions failed) ?_
  rintro active after - ⟨same, rfl, answers⟩
  by_cases full : configuration.perUserRuntimeCapacity ≤ SessionService.userRuntimes userId active
  · rw [if_pos full]
    exact follows_throw (failed _ _)
  · rw [if_neg full]
    refine follows_pure ⟨rfl, ?_, answers⟩
    rw [← SessionService.userRuntimes_perm userId same]
    exact not_le.mp full

/-- Translating an error changes no outcome but the error. -/
theorem follows_keyErrorAs {α : Type} {program : ServiceProgram α} {translated : Error}
    {onValue : α → World → Prop} (failed : ∀ error after, onError error after)
    (follows : request.Follows configuration start world program onValue onError) :
    request.Follows configuration start world (SessionService.keyErrorAs program translated)
      onValue onError :=
  follows_tryCatch onError follows fun _ _ _ _ => follows_throw (failed _ _)

theorem follows_resolve (rommRomId : Int) (failed : ∀ error after, onError error after) :
    request.Follows configuration start world
      ((request.service configuration).resolve rommRomId)
      (fun found later =>
        request.dependencies.Answers world.history.length (.resolveGame rommRomId) ∧
        request.dependencies.resolveGame world.history.length rommRomId = .ok found.1 ∧
        request.dependencies.Answers (world.history.length + 1)
          (.resolveCore found.1.platform) ∧
        request.dependencies.resolveCore (world.history.length + 1) found.1.platform =
          .ok found.2 ∧
        found.2.platform = found.1.platform ∧
        later = (world.observe (.resolveGame rommRomId)).observe
          (.resolveCore found.1.platform)) onError := by
  refine follows_bind (follows_keyErrorAs failed (follows_resolveGame rommRomId
    fun error _ => failed error _)) ?_
  rintro game after - ⟨game', rfl, answersGame⟩
  refine follows_bind (follows_keyErrorAs failed (follows_resolveCore game.platform
    fun error _ => failed error _)) ?_
  rintro core after - ⟨core', rfl, answersCore⟩
  by_cases other : core.platform ≠ game.platform
  · rw [if_pos other]
    exact follows_throw (failed _ _)
  · rw [if_neg other]
    exact follows_pure ⟨answersGame, game', answersCore, core', not_not.mp other, rfl⟩

end Request

end Guards

/-! ## Hosts -/

/-- The host is the entry the owner created the session with. -/
theorem Session.Coherent.hostOf {history : List Event} {session : Session}
    (coherent : session.Coherent history) : ∃ owner rest,
      session.participants = owner :: rest ∧ SessionService.hostOf session = some owner ∧
        owner.userId = session.ownerUserId := by
  obtain ⟨owner, rest, participants, user, slot⟩ := coherent.owner
  refine ⟨owner, rest, participants, ?_, user⟩
  rw [SessionService.hostOf, participants, List.find?_cons_of_pos]
  simpa using slot

/-- No change makes another entry the host. -/
theorem Update.Enabled.hostOf {configuration : Configuration} {world : World} {session : Session}
    {update : Update} {host : Participant} {history : List Event}
    (enabled : update.Enabled configuration world session) (coherent : session.Coherent history)
    (found : SessionService.hostOf session = some host) (updatedAt : Time) :
    SessionService.hostOf (update.result session updatedAt) =
      some (update.revise updatedAt host) ∧
        (update.revise updatedAt host).participantId = host.participantId := by
  obtain ⟨owner, rest, participants, isHost, -⟩ := coherent.hostOf
  obtain rfl : owner = host := Option.some.inj (isHost.symm.trans found)
  have member : owner ∈ session.participants := by simp [participants]
  have identity := (enabled.revise_conforms coherent.ids updatedAt member).toSameIdentity
  have slot : owner.playerSlot = 1 := by simpa using List.find?_some found
  refine ⟨?_, identity.participantId⟩
  rw [SessionService.hostOf, Update.result_participants, participants, List.map_cons,
    List.cons_append, List.find?_cons_of_pos]
  simpa using identity.playerSlot.trans slot

/-- The free slot of a lobby is within its capacity and held by no live entry. -/
theorem SessionService.freeSlot_some {session : Session} {slot : Nat}
    (found : freeSlot session = some slot) :
    slot ≤ session.maxPlayers ∧
      slot ∉ session.liveParticipants.map Participant.playerSlot := by
  have free := List.find?_some found
  have range := List.mem_of_find?_eq_some found
  rw [List.mem_range'_1] at range
  exact ⟨by omega, by simpa [occupied] using free⟩

/-- A stored entry that is not active makes its user no more active. -/
theorem SessionService.activeIn_replacement {session : Session} {participant : Participant}
    {userId : String} (alone : activeIn session userId = false)
    (idle : participant.state ≠ .active) (state : SessionState) (expiresAt : Option Time)
    (updatedAt : Time) :
    activeIn (replacement session participant state false expiresAt updatedAt) userId = false := by
  simp only [activeIn, List.any_eq_false, decide_eq_true_eq] at alone ⊢
  intro item member ⟨user, active⟩
  simp only [replacement, Bool.false_eq_true, if_false, List.mem_map] at member
  obtain ⟨before, stored, rfl⟩ := member
  split at active
  · exact idle active
  · rename_i other
    rw [if_neg other] at user
    exact alone before stored ⟨user, active⟩

/-! ## Failure of a startup -/

/-- The situation in which a startup may fail: its participant is stored as
`STARTING`, and its runtime exists only if a creation took effect. -/
def Request.Interrupted (request : Request) (sessionId participantId : UUID) (userId : String)
    (role : Role) (world : World) : Prop :=
  ∃ session item, world.get sessionId = some session ∧ item ∈ session.participants ∧
    item.participantId = participantId ∧ item.userId = userId ∧ item.state = .starting ∧
    (role = .host ∧ session.state = .starting ∨ role = .client ∧ session.state = .open) ∧
    (participantId ∈ world.runtimes → request.dependencies.Creates participantId)

section Failure

variable {α : Type} {configuration : Configuration} {request : Request} {start world later : World}
variable {onError : Error → World → Prop} {sessionId participantId : UUID} {userId : String}
variable {role : Role}

namespace Request

theorem Interrupted.quiet
    (interrupted : request.Interrupted sessionId participantId userId role world)
    (quiet : world.Quiet later) :
    request.Interrupted sessionId participantId userId role later := by
  obtain ⟨session, item, stored, member, same, user, starting, kind, created⟩ := interrupted
  exact ⟨session, item, (quiet.get _).trans stored, member, same, user, starting, kind,
    fun exists' => created (quiet.runtimes _ exists')⟩

theorem follows_cleanupFailedRuntime (participantId : UUID)
    (tears : request.Tears configuration start world participantId) :
    request.Follows configuration start world
      ((request.service configuration).cleanupFailedRuntime participantId)
      (fun _ later => world.Quiet later ∧
        (participantId ∈ later.runtimes → request.dependencies.RefusesRemoval participantId))
      onError := by
  refine follows_bind (follows_bestEffortRevoke participantId tears) ?_
  rintro - after - ⟨applied, returned, rfl⟩
  have revoked : world.Quiet (world.record ⟨.streamRevoke participantId, applied, returned⟩) :=
    .record _ (by simp)
  refine follows_tryCatch (fun _ later => world.Quiet later ∧
    (participantId ∈ later.runtimes → request.dependencies.RefusesRemoval participantId)) ?_
    fun _ _ _ cleaned => follows_pure cleaned
  refine (follows_executionRemove participantId (revoked.tears tears) ?_).weakenValue ?_
  · intro error removed refused
    cases removed with
    | false =>
        exact ⟨(World.Quiet.record _ (by simp)).trans (.record _ (by simp)),
          fun _ => refused rfl⟩
    | true =>
        exact ⟨(World.Quiet.record _ (by simp)).trans
          ((World.Quiet.discardRuntime _).trans (.record _ (by simp))),
          fun exists' => absurd rfl (World.mem_discardRuntime.mp exists').2⟩
  · rintro - later rfl
    exact ⟨(World.Quiet.record _ (by simp)).trans
      ((World.Quiet.discardRuntime _).trans (.record _ (by simp))),
      fun exists' => absurd rfl (World.mem_discardRuntime.mp exists').2⟩

/-- A failed startup stores its participant as `ERROR` and raises. -/
theorem follows_failStartup {current : Session} {error : Error} {onValue : α → World → Prop}
    (interrupted : request.Interrupted current.sessionId participantId userId role world)
    (cause : request.operation.startsFor = some userId) (fresh : participantId ∉ start.issued)
    (failed : ∀ error after, onError error after) :
    request.Follows configuration start world
      ((request.service configuration).failStartup current participantId role error)
      onValue onError := by
  have tears : request.Tears configuration start world participantId := by
    obtain ⟨session, item, stored, member, same, user, -⟩ := interrupted
    exact .failing session item ((InMemorySessionRepository.get_mem stored).2 ▸ stored)
      member same
      fresh (user ▸ cause)
  refine follows_bind (follows_cleanupFailedRuntime participantId tears) ?_
  rintro - after - ⟨quiet, refused⟩
  obtain ⟨session, item, stored, member, sameId, user, starting, kind, created⟩ :=
    interrupted.quiet quiet
  refine follows_bind (follows_repositoryGet current.sessionId fun error _ => failed error _) ?_
  rintro found after' coherent ⟨rfl, rfl, -⟩
  have ids := (Coherent.sessions coherent session (InMemorySessionRepository.get_mem stored).1).ids
  have sessionId := (InMemorySessionRepository.get_mem stored).2
  have entry : session.participants.find? (fun item => item.participantId = participantId) =
      some item := by
    rw [← sameId]
    exact find_key ids member
  simp only [stored, Option.getD_some, entry]
  have enabled : (Update.failed item role).Enabled configuration
      (after.observe (.repositoryGet current.sessionId)) session := ⟨member, starting, kind⟩
  refine follows_bind (follows_replaceParticipant (.failed item role) (fun _ => rfl)
    (by rw [sessionId]; exact stored) enabled
    (fun _ _ => .failed item role (user ▸ cause) (sameId ▸ fresh) ?_)
    fun error _ _ _ => failed error _) ?_
  · rw [sameId]
    exact fun exists' => ⟨created exists', refused exists'⟩
  · rintro - after'' - -
    split
    · exact follows_throw (failed _ _)
    · exact follows_throw (failed _ _)

end Request

end Failure

/-! ## Startup -/

/-- The states of a session while a participant of this role starts. -/
def Session.Starting (session : Session) (role : Role) : Prop :=
  role = .host ∧ session.state = .starting ∨ role = .client ∧ session.state = .open

section Startup

variable {configuration : Configuration} {request : Request} {start world : World}
variable {onError : Error → World → Prop}

namespace Request

/-- What `createRuntime` leaves: a stored session in which the participant has a
runtime and is still `STARTING`. -/
structure RuntimeCreated (request : Request) (current : Session) (participant : Participant)
    (role : Role) (withRuntime : Participant) (session : Session) (later : World) : Prop where
  sameSession : session.sessionId = current.sessionId
  stored : later.get session.sessionId = some session
  kind : session.Starting role
  member : withRuntime ∈ session.participants
  sameId : withRuntime.participantId = participant.participantId
  user : withRuntime.userId = participant.userId
  starting : withRuntime.state = .starting
  started : Started later.history withRuntime.participantId
  created : request.dependencies.Creates participant.participantId
  alone : SessionService.activeIn session participant.userId = false

theorem RuntimeCreated.quiet {current session : Session} {participant withRuntime : Participant}
    {role : Role} {between later : World}
    (created : request.RuntimeCreated current participant role withRuntime session between)
    (quiet : between.Quiet later) :
    request.RuntimeCreated current participant role withRuntime session later :=
  { created with
    stored := (quiet.get _).trans created.stored
    started := (quiet.started_iff _).mpr created.started }

theorem RuntimeCreated.interrupted {current session : Session}
    {participant withRuntime : Participant} {role : Role} {later : World}
    (created : request.RuntimeCreated current participant role withRuntime session later) :
    request.Interrupted session.sessionId participant.participantId participant.userId role
      later :=
  ⟨session, withRuntime, created.stored, created.member, created.sameId,
    created.user, created.starting, created.kind, fun _ => created.created⟩

theorem follows_createRuntime {current : Session} {participant : Participant} {role : Role}
    {runtimeRequest : RuntimeRequest}
    (starts : Action.Starts configuration world current participant runtimeRequest)
    (kind : current.Starting role)
    (launching : request.dependencies.stops world.history.length = false →
      request.Launching configuration start current participant runtimeRequest)
    (absent : participant.participantId ∉ world.runtimes)
    (cause : request.operation.startsFor = some participant.userId)
    (fresh : participant.participantId ∉ start.issued)
    (alone : SessionService.activeIn current participant.userId = false)
    (failed : ∀ error later, request.Interrupted current.sessionId participant.participantId
      participant.userId role later → onError error later) :
    request.Follows configuration start world
      ((request.service configuration).createRuntime current participant runtimeRequest)
      (fun result later =>
        request.RuntimeCreated current participant role result.2.1 result.2.2 later) onError := by
  have requested := starts.requested
  refine follows_bind (follows_executionCreate launching starts ?_) ?_
  · intro error applied effective
    refine failed error _ ⟨current, participant, ?_, starts.member, rfl, rfl,
      starts.state, kind, ?_⟩
    · cases applied <;> exact starts.stored
    · intro exists'
      cases applied with
      | true => exact requested ▸ effective rfl
      | false => exact absurd exists' absent
  rintro handle after - ⟨rfl, created⟩
  have stored : ((world.startRuntime runtimeRequest.participantId).observe
      (.executionCreate runtimeRequest)).get current.sessionId = some current := starts.stored
  have enabled : (Update.running participant handle.runtimeId).Enabled configuration
      ((world.startRuntime runtimeRequest.participantId).observe
        (.executionCreate runtimeRequest)) current :=
    ⟨starts.member, starts.state, kind.imp And.right And.right⟩
  -- The record the save stores, whether it raises or not.
  have saved : ∀ updatedAt, (((world.startRuntime runtimeRequest.participantId).observe
      (.executionCreate runtimeRequest)).overwrite
        ((Update.running participant handle.runtimeId).result current updatedAt)).get
          current.sessionId =
      some ((Update.running participant handle.runtimeId).result current updatedAt) :=
    fun _ => World.get_overwrite stored rfl
  have revised : ∀ updatedAt, { participant with runtimeId := some handle.runtimeId } ∈
      ((Update.running participant handle.runtimeId).result current updatedAt).participants := by
    intro updatedAt
    simpa [Update.revise, Update.put] using
      Update.revised_mem (.running participant handle.runtimeId) updatedAt starts.member
  refine follows_bind (follows_replaceParticipant (.running participant handle.runtimeId)
    (fun _ => rfl) stored enabled (fun _ _ => .running participant handle.runtimeId cause fresh)
    ?_) ?_
  · rintro error applied updated rfl
    refine failed error _ ?_
    cases applied with
    | true =>
        exact ⟨_, _, saved _, revised _, rfl, rfl, starts.state, kind,
          fun _ => requested ▸ created⟩
    | false =>
        exact ⟨current, participant, starts.stored, starts.member, rfl, rfl, starts.state, kind,
          fun _ => requested ▸ created⟩
  · rintro updated later - ⟨rfl, rfl, -⟩
    refine follows_pure ?_
    exact {
      sameSession := rfl
      stored := saved _
      kind
      member := revised _
      sameId := rfl
      user := rfl
      starting := starts.state
      started := ⟨⟨.executionCreate runtimeRequest, true, true⟩, by simp, runtimeRequest, rfl,
        requested⟩
      created := requested ▸ created
      alone := SessionService.activeIn_replacement alone (by simp [starts.state]) _ _ _ }

/-- Waiting only reads. -/
theorem follows_waitReadyLoop {runtimeId : UUID} {deadline : Rat} {rounds : Nat}
    {handle : RuntimeHandle} (failed : ∀ error later, world.Quiet later → onError error later) :
    request.Follows configuration start world
      ((request.service configuration).waitReadyLoop runtimeId deadline rounds handle)
      (fun _ later => world.Quiet later) onError := by
  induction rounds generalizing world handle with
  | zero => exact follows_stay .stopped rfl trivial
  | succ rounds inductionHypothesis =>
      unfold SessionService.waitReadyLoop
      split
      · exact follows_pure (.refl world)
      · split
        · exact follows_throw (failed _ _ (.refl world))
        · split
          · exact follows_throw (failed _ _ (.refl world))
          · refine follows_bind follows_monotonic ?_
            rintro now after - rfl
            have asked : world.Quiet (world.observe .monotonic) := .observe _ rfl
            split
            · exact follows_throw (failed _ _ asked)
            · refine follows_bind (follows_sleep _) ?_
              rintro - after - rfl
              have slept := asked.trans (.observe (.sleep (min (SessionService.totalSeconds
                configuration.pollInterval) (deadline - now))) rfl)
              refine follows_bind (follows_executionInspect runtimeId fun error applied _ =>
                failed _ _ (slept.trans (.record _ (by simp)))) ?_
              rintro next after - ⟨-, -, rfl⟩
              have inspected := slept.trans (.observe (.executionInspect runtimeId) rfl)
              exact (inductionHypothesis fun error later quiet =>
                failed error later (inspected.trans quiet)).weakenValue
                (fun _ _ quiet => inspected.trans quiet)

theorem follows_waitReady {handle : RuntimeHandle} {timeout : Duration}
    (failed : ∀ error later, world.Quiet later → onError error later) :
    request.Follows configuration start world
      ((request.service configuration).waitReady handle timeout)
      (fun _ later => world.Quiet later) onError := by
  refine follows_bind follows_monotonic ?_
  rintro now after - rfl
  have asked : world.Quiet (world.observe .monotonic) := .observe _ rfl
  exact (follows_waitReadyLoop fun error later quiet =>
    failed error later (asked.trans quiet)).weakenValue (fun _ _ quiet => asked.trans quiet)

/-- A startup of a participant that is stored as `ALLOCATING`. -/
theorem follows_startParticipant {session : Session} {participant : Participant}
    {game : GameRecord} {core : CoreProfile} {role : Role} {hostParticipantId : Option UUID}
    (stored : world.get session.sessionId = some session)
    (member : participant ∈ session.participants) (allocating : participant.state = .allocating)
    (kind : role = .host ∧ session.state = .creating ∧ hostParticipantId = none ∨
      role = .client ∧ session.state = .open ∧
        ∃ host, SessionService.hostOf session = some host ∧
        hostParticipantId = some host.participantId)
    (absent : participant.participantId ∉ world.runtimes)
    (unstarted : ¬ Started world.history participant.participantId)
    (fresh : participant.participantId ∉ start.issued)
    (alone : SessionService.activeIn session participant.userId = false)
    (capacity : (world.runtimes.length : Int) < configuration.runtimeCapacity)
    (cause : request.operation.startsFor = some participant.userId)
    (launching : ∀ current,
      current = (Update.starting participant).result session
        (request.dependencies.clock world.history.length) →
      request.dependencies.stops world.history.length = false →
      request.dependencies.Answers (world.history.length + 1)
        (.repositorySave current session.revision) →
      (SessionService.startRequest current participant game core role hostParticipantId).valid =
        true →
      request.dependencies.stops (world.history.length + 2) = false →
      request.Launching configuration start current { participant with state := .starting }
        (SessionService.startRequest current participant game core role hostParticipantId))
    (failed : ∀ error after, onError error after) :
    request.Follows configuration start world
      ((request.service configuration).startParticipant session participant game core role
        hostParticipantId)
      (fun value later => value.sessionId = session.sessionId ∧
        later.get session.sessionId = some value) onError := by
  refine follows_of_invariant fun coherent => ?_
  have sessionCoherent := Coherent.sessions coherent session
    (InMemorySessionRepository.get_mem stored).1
  have early : session.state = .creating ∨ session.state = .open :=
    kind.imp (fun host => host.2.1) (fun client => client.2.1)
  have enabled : (Update.starting participant).Enabled configuration world session :=
    ⟨member, allocating, early⟩
  refine follows_ofExcept_bind (fun _ _ => ?_) fun error _ => failed error _
  refine follows_ofExcept_bind (fun _ _ => ?_) fun error _ => failed error _
  refine follows_bind (follows_replaceParticipant (.starting participant) (fun _ => rfl) stored
    enabled (fun _ _ => .starting participant cause fresh) fun error _ _ _ => failed error _) ?_
  rintro current after - ⟨same, rfl, running, answers⟩
  have sameSession : current.sessionId = session.sessionId := by
    rw [same, Update.result_sessionId]
  have stored' : ((world.observe .clock).save current session.revision).get current.sessionId =
      some current := by
    rw [sameSession]
    exact World.get_overwrite stored sameSession
  have member' : { participant with state := .starting } ∈ current.participants := by
    rw [same]
    simpa [Update.revise, Update.put] using
      Update.revised_mem (.starting participant)
        (request.dependencies.clock world.history.length) member
  have state' : current.state = if session.state = .creating then .starting else session.state := by
    rw [same]
    rfl
  have starting : current.Starting role := by
    rw [Session.Starting, state']
    rcases kind with ⟨host, creating, -⟩ | ⟨client, open', -⟩
    · exact Or.inl ⟨host, by rw [creating]; rfl⟩
    · exact Or.inr ⟨client, by rw [open']; rfl⟩
  have alone' : SessionService.activeIn current participant.userId = false := by
    rw [same]
    exact SessionService.activeIn_replacement alone (by simp) _ _ _
  have starts : Action.Starts configuration
      ((world.observe .clock).save current session.revision) current
      { participant with state := .starting }
      (SessionService.startRequest current participant game core role hostParticipantId) := {
    stored := stored'
    member := member'
    state := rfl
    unstarted := by simpa [started_cons_iff] using unstarted
    requested := rfl
    inSession := rfl
    capacity
    role := by
      rcases kind with ⟨host, creating, noHost⟩ | ⟨client, open', host, found, hostId⟩
      · exact Or.inl ⟨host, by rw [state', creating]; rfl, noHost⟩
      · obtain ⟨found', sameHost⟩ := enabled.hostOf sessionCoherent found
          (request.dependencies.clock world.history.length)
        refine Or.inr ⟨client, by rw [state', open']; rfl, _, same ▸ found', ?_⟩
        rw [sameHost]
        exact hostId }
  by_cases valid : (SessionService.startRequest current participant game core role
      hostParticipantId).valid = true
  · have accepted := valid
    unfold SessionService.startRequest at accepted
    rw [if_pos accepted]
    -- The first guarded block: the runtime and the record that names it.
    refine follows_bind (follows_tryCatch
      (fun _ later => request.Interrupted current.sessionId participant.participantId
        participant.userId role later)
      (follows_createRuntime starts starting
        (fun reached => launching current same running answers valid reached) absent cause fresh
        alone' fun _ _ interrupted => interrupted)
      fun error later _ interrupted => follows_failStartup interrupted cause fresh failed) ?_
    rintro ⟨handle, withRuntime, current'⟩ after - created
    -- The second guarded block: readiness and the controller token.
    refine follows_via (fun _ later => request.RuntimeCreated current
        { participant with state := .starting } role withRuntime current' later)
      (follows_tryCatch (fun _ later => request.Interrupted current'.sessionId
        participant.participantId participant.userId role later) ?_
      fun error later _ interrupted => follows_failStartup interrupted cause fresh failed) ?_
    · refine follows_bind (follows_waitReady fun error later quiet =>
        (created.quiet quiet).interrupted) ?_
      rintro - between - quiet
      have created' := created.quiet quiet
      refine follows_bind (follows_streamProvision created'.sameId
        (fun _ _ => Or.inl ⟨created'.user ▸ cause, created'.sameId ▸ fresh⟩)
        created'.stored created'.member (Or.inl created'.starting)
        fun error applied => (created'.quiet (.record _ (by simp))).interrupted) ?_
      rintro token later - ⟨-, rfl, -⟩
      exact follows_pure (created'.quiet (.record _ (by simp)))
    · rintro - between - created
      refine follows_ofExcept_bind (fun _ _ => ?_) fun error _ => failed error _
      refine follows_bind follows_clock ?_
      rintro activeAt after - ⟨shown, rfl, -⟩
      have created' := created.quiet (.observe .clock rfl)
      refine follows_ofExcept_bind (fun _ _ => ?_) fun error _ => failed error _
      have sameId : withRuntime.participantId = participant.participantId := created'.sameId
      have activates : (Update.active withRuntime activeAt
          ((request.service configuration).leaseExpiry current' activeAt)).Enabled configuration
          (between.observe .clock) current' :=
        ⟨created'.member, created'.starting, created'.kind.imp And.right And.right,
          created'.started, rfl⟩
      refine (follows_replaceParticipant (.active withRuntime activeAt
          ((request.service configuration).leaseExpiry current' activeAt))
        (fun _ => by rw [← sameId]; rfl) created'.stored activates
        (fun _ _ => .active withRuntime activeAt _ (created'.user ▸ cause) (sameId ▸ fresh)
          (created'.user ▸ created'.alone) ⟨between.history.length, rfl, shown.symm⟩)
        fun error _ _ _ => failed error _).weakenValue ?_
      rintro value later ⟨rfl, rfl, -⟩
      have sameRecord : current'.sessionId = session.sessionId :=
        created'.sameSession.trans sameSession
      have saved : ∀ updated : Session, updated.sessionId = current'.sessionId →
          ((between.observe .clock).overwrite updated).get current'.sessionId = some updated :=
        fun _ same => World.get_overwrite created'.stored same
      refine ⟨sameRecord, ?_⟩
      rw [← sameRecord]
      exact saved _ rfl
  · have refused := valid
    unfold SessionService.startRequest at refused
    rw [if_neg refused]
    exact follows_throw (failed _ _)

end Request

end Startup

end RetroBrowser.SessionManager
