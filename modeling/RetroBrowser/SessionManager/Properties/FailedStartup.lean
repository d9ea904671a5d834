import RetroBrowser.SessionManager.Properties.Readiness
import RetroBrowser.SessionManager.Properties.Slots

/-!
Owns failed startups. Two or three saves precede the call that fails, and the
handler reads the record again, so the stored outcome is computed along the run.
Contract: with a reliable repository a startup whose runtime was not made ready
raises an orchestration error and leaves its participant as `ERROR` and, of a
host, the lobby too; nothing else about the lobby changes, and the slot is
offered again.
-/

namespace RetroBrowser.SessionManager

open RetroBrowser.Foundation ActionSystem Program

/-! ## The record of a startup -/

/-- The record differs from `origin` in its state, its version and its entries:
they are `others`, then the participant that starts. -/
structure Session.Carries (origin : Session) (others : List Participant) (entry : Participant)
    (current : Session) : Prop where
  entries : current.participants = others ++ [entry]
  same : current = { origin with
    state := current.state, participants := current.participants
    updatedAt := current.updatedAt, revision := current.revision }

namespace Session.Carries

variable {origin current : Session} {others : List Participant} {entry : Participant}

theorem sameId (carries : origin.Carries others entry current) :
    current.sessionId = origin.sessionId := by
  rw [carries.same]

/-- Replacing the entry keeps the others. -/
theorem replaced (carries : origin.Carries others entry current)
    (apart : ∀ item ∈ others, item.participantId ≠ entry.participantId)
    {changed : Participant} (sameEntry : changed.participantId = entry.participantId)
    (state : SessionState) (updatedAt : Time) :
    origin.Carries others changed
      (SessionService.replacement current changed state false none updatedAt) := by
  constructor
  · have kept : (others.map fun item =>
        if item.participantId = changed.participantId then changed else item) = others := by
      refine (List.map_congr_left fun item member => ?_).trans (List.map_id others)
      exact if_neg (sameEntry ▸ apart item member)
    simp only [SessionService.replacement, Bool.false_eq_true, if_false, carries.entries,
      List.map_append, kept, List.map_cons, List.map_nil, sameEntry.symm, if_true]
  · rw [carries.same]
    rfl

/-- The handler finds the participant that started. -/
theorem find_entry (carries : origin.Carries others entry current)
    (apart : ∀ item ∈ others, item.participantId ≠ entry.participantId) :
    (current.participants.find? fun item => item.participantId = entry.participantId) =
      some entry := by
  rw [carries.entries, List.find?_append, List.find?_eq_none.mpr]
  · simp
  · intro item member
    simpa using apart item member

/-- A terminal entry holds no slot and counts for nothing. -/
theorem live_of_ended (carries : origin.Carries others entry current)
    (ended : entry.state = .error) : current.liveParticipants = others.filter Participant.live := by
  rw [Session.liveParticipants, carries.entries, List.filter_append]
  simp [Participant.live, ended, ParticipantState.terminal]

end Session.Carries

/-- The lobby of a startup is stored like this, and no other record differs from `start`. -/
structure World.Starting (start : World) (origin : Session) (others : List Participant)
    (entry : Participant) (current : Session) (world : World) : Prop where
  stored : world.get origin.sessionId = some current
  carries : origin.Carries others entry current
  elsewhere : ∀ id, id ≠ origin.sessionId → world.get id = start.get id

namespace World.Starting

variable {start world after : World} {origin current : Session} {others : List Participant}
variable {entry : Participant}

theorem keepsStore (starting : start.Starting origin others entry current world)
    (kept : world.KeepsStore true after) : start.Starting origin others entry current after :=
  ⟨(kept.get _).trans starting.stored, starting.carries,
    fun id other => (kept.get id).trans (starting.elsewhere id other)⟩

theorem saved (starting : start.Starting origin others entry current world)
    (apart : ∀ item ∈ others, item.participantId ≠ entry.participantId)
    (changed : Participant) (sameEntry : changed.participantId = entry.participantId)
    (state : SessionState) (updatedAt : Time) :
    start.Starting origin others changed
      (SessionService.replacement current changed state false none updatedAt)
      ((world.observe .clock).save
        (SessionService.replacement current changed state false none updatedAt)
        current.revision) := by
  have sameId := starting.carries.sameId
  have stored : (world.observe .clock).get current.sessionId = some current := by
    rw [sameId]
    exact starting.stored
  have ⟨saved, kept⟩ : (world.observe .clock).Replaces
      ((world.observe .clock).save
        (SessionService.replacement current changed state false none updatedAt) current.revision)
      (SessionService.replacement current changed state false none updatedAt) :=
    World.save_replaces stored rfl
  constructor
  · rw [← sameId]
    exact saved
  · exact starting.carries.replaced apart sameEntry state updatedAt
  · intro id other
    exact (kept id (by rw [← sameId] at other; exact other)).trans (starting.elsewhere id other)

/-- The records may be compared with an earlier world that holds the same ones. -/
theorem since {start' : World} (starting : start.Starting origin others entry current world)
    (same : ∀ id, start.get id = start'.get id) :
    start'.Starting origin others entry current world :=
  ⟨starting.stored, starting.carries, fun id other =>
    (starting.elsewhere id other).trans (same id)⟩

/-- A new record is added. -/
theorem added {session : Session} {participant : Participant}
    (unused : world.get session.sessionId = none) (single : session.participants = [participant]) :
    world.Starting session [] participant session
      ((world.insert session).observe (.repositoryAdd session)) where
  stored := World.get_insert unused
  carries := ⟨single, rfl⟩
  elsewhere _ other := World.get_insert_other (Ne.symm other)

/-- A new entry is appended to the stored record. -/
theorem joined {current : Session} (stored : world.get current.sessionId = some current)
    (participant : Participant) (now : Time) :
    world.Starting current current.participants participant
      (SessionService.replacement current participant current.state true none now)
      ((world.observe .clock).save
        (SessionService.replacement current participant current.state true none now)
        current.revision) := by
  have stored' : (world.observe .clock).get current.sessionId = some current := stored
  have ⟨saved, kept⟩ : (world.observe .clock).Replaces
      ((world.observe .clock).save
        (SessionService.replacement current participant current.state true none now)
        current.revision)
      (SessionService.replacement current participant current.state true none now) :=
    World.save_replaces stored' rfl
  exact ⟨saved, ⟨rfl, rfl⟩, fun id other => kept id other⟩

end World.Starting

/-! ## Calls that cannot fail -/

namespace SessionService

variable {α : Type} {self : SessionService} {start world : World} {origin current : Session}
variable {others : List Participant} {entry : Participant} {post : Post World Error α}

section Reliable

variable (reliable : self.dependencies.Reliable)

include reliable

/-- A replaced record is saved. -/
theorem ensures_replaced {session : Session} {participant : Participant} {state : SessionState}
    {append : Bool} {expiresAt : Option Time} {post : Post World Error Session}
    (stored : world.get session.sessionId = some session)
    (saved : ∀ now, now = self.dependencies.clock world.history.length →
      post.returned (replacement session participant state append expiresAt now)
        ((world.observe .clock).save (replacement session participant state append expiresAt now)
          session.revision)) :
    (self.replaceParticipant session participant state append expiresAt).Ensures post world := by
  refine ensures_bind.mpr (ensures_clock (fun _ => ?_) fun stops => ?_)
  · have found : (world.observe .clock).get (replacement session participant state append expiresAt
        (self.dependencies.clock world.history.length)).sessionId = some session := stored
    refine ensures_bind.mpr (ensures_repositorySave found rfl ⟨?_, ?_, ?_⟩)
    · exact fun _ => saved _ rfl
    · intro error applied _ plan
      rw [reliable.stores _ _ rfl] at plan
      cases plan
    · exact reliable.never
  · exact reliable.never stops

/-- The clean-up swallows every error. -/
theorem ensures_cleanupFailedRuntime {post : Post World Error Unit} {participantId : UUID}
    (returned : ∀ after, world.KeepsStore true after → post.returned () after) :
    (self.cleanupFailedRuntime participantId).Ensures post world := by
  refine ensures_bind.mpr (ensures_bestEffortRevoke (fun revoked succeeded _ => ?_) reliable.never)
  have tried : world.KeepsStore true (world.record
      ⟨.streamRevoke participantId, revoked, succeeded⟩) := .record _ fun _ => rfl
  have discarded : ∀ later : World, later.KeepsStore true (later.discardRuntime participantId) :=
    fun _ => ⟨rfl, rfl, [], rfl, by simp⟩
  refine ensures_tryCatch.mpr (ensures_executionRemove ⟨fun _ => ?_, ?_, reliable.never⟩)
  · exact returned _ ((tried.trans (discarded _)).trans (.record _ fun _ => rfl))
  · intro error applied _ _
    cases applied with
    | true => exact returned _ ((tried.trans (discarded _)).trans (.record _ fun _ => rfl))
    | false => exact returned _ (tried.trans (.record _ fun _ => rfl))

/-- The handler of a failed startup stores the participant as `ERROR` and raises
an orchestration error, whatever its clean-up meets. -/
theorem ensures_failStartup (starting : start.Starting origin others entry current world)
    (apart : ∀ item ∈ others, item.participantId ≠ entry.participantId)
    {failing : Session} (same : failing.sessionId = origin.sessionId) {role : Role} {error : Error}
    (raised : ∀ message updatedAt after, start.Starting origin others
      { entry with state := .error }
      (replacement current { entry with state := .error }
        (if role = .host then .error else current.state) false none updatedAt) after →
      post.raised (.orchestration message) after) :
    (self.failStartup failing entry.participantId role error).Ensures post world := by
  refine ensures_bind.mpr (ensures_cleanupFailedRuntime reliable ?_)
  intro after kept
  have starting := starting.keepsStore kept
  refine ensures_bind.mpr (ensures_repositoryGet ⟨fun _ => ?_, ?_, reliable.never⟩)
  · rw [same, starting.stored]
    dsimp only [Option.getD_some]
    rw [starting.carries.find_entry apart]
    have starting : start.Starting origin others entry current
        (after.observe (.repositoryGet origin.sessionId)) :=
      starting.keepsStore (.record _ (by simp [Call.launches]))
    have found : (after.observe (.repositoryGet origin.sessionId)).get current.sessionId =
        some current := by
      rw [starting.carries.sameId]
      exact starting.stored
    refine ensures_bind.mpr (ensures_replaced reliable found ?_)
    intro now _
    have failed := starting.saved apart { entry with state := .error } rfl
      (if role = .host then .error else current.state) now
    refine ensures_ite.mpr ⟨fun orchestration => ?_, fun _ => raised _ now _ failed⟩
    cases error with
    | orchestration message => exact raised message now _ failed
    | _ => cases orchestration
  · intro error applied _ plan
    rw [reliable.stores _ _ rfl] at plan
    cases plan

end Reliable

end SessionService

/-! ## One startup -/

/-- The history grew since `start`. -/
def World.Grew (start world : World) : Prop := ∃ newer, world.history = newer ++ start.history

/-- The call hands over a controller token. -/
def Call.provisions : Call → Bool
  | .streamProvision _ _ => true
  | _ => false

/-- A controller token was handed over since `start`. -/
def World.Provisioned (start world : World) : Prop :=
  ∃ newer, world.history = newer ++ start.history ∧
    ∃ event ∈ newer, event.call.provisions = true ∧ event.returned = true

namespace World

variable {start world after : World}

theorem Grew.record (grew : start.Grew world) (event : Event) :
    start.Grew (world.record event) := by
  obtain ⟨newer, grown⟩ := grew
  exact ⟨event :: newer, by rw [World.record_history, grown, List.cons_append]⟩

theorem Grew.keepsStore {launches : Bool} (grew : start.Grew world)
    (kept : world.KeepsStore launches after) : start.Grew after := by
  obtain ⟨newer, grown⟩ := grew
  obtain ⟨newest, grown', _⟩ := kept.calls
  exact ⟨newest ++ newer, by rw [grown', grown, List.append_assoc]⟩

/-- A replacement reads the clock and saves. -/
theorem Unlaunched.replaced (unlaunched : start.Unlaunched world) (updated : Session)
    (revision : Nat) : start.Unlaunched ((world.observe .clock).save updated revision) := by
  have read : start.Unlaunched (world.observe .clock) := unlaunched.record rfl
  have saved : (Call.repositorySave updated revision).launches = false := rfl
  exact read.record saved

theorem Unlaunched.grew (unlaunched : start.Unlaunched world) : start.Grew world :=
  unlaunched.imp fun _ => And.left

theorem Grew.provisioned (grew : start.Grew world) (participantId : UUID) (gamepadSlot : Nat) :
    start.Provisioned (world.observe (.streamProvision participantId gamepadSlot)) := by
  obtain ⟨newer, grown⟩ := grew
  exact ⟨⟨.streamProvision participantId gamepadSlot, true, true⟩ :: newer,
    by rw [World.observe_history, grown, List.cons_append], _, List.mem_cons_self, rfl, rfl⟩

theorem Unlaunched.provisioned (unlaunched : start.Unlaunched world)
    (provisioned : world.Provisioned after) : start.Provisioned after := by
  obtain ⟨newer, grown, _⟩ := unlaunched
  obtain ⟨newest, grown', event, member, provision⟩ := provisioned
  exact ⟨newest ++ newer, by rw [grown', grown, List.append_assoc], event,
    List.mem_append_left newer member, provision⟩

theorem Provisioned.record (provisioned : start.Provisioned world) (event : Event) :
    start.Provisioned (world.record event) := by
  obtain ⟨newer, grown, found, member, provision⟩ := provisioned
  exact ⟨event :: newer, by rw [World.record_history, grown, List.cons_append], found,
    List.mem_cons_of_mem event member, provision⟩

end World

/-- The lobby after a startup of `participant` that failed. -/
structure Session.Failed (origin : Session) (others : List Participant) (participant : Participant)
    (state : SessionState) (current : Session) : Prop where
  entry : ∃ entry, origin.Carries others entry current ∧ entry.state = .error ∧
    entry.participantId = participant.participantId ∧ entry.userId = participant.userId ∧
    entry.playerSlot = participant.playerSlot
  state : current.state = state

/-- How long a startup waits for its runtime. -/
def Configuration.Waits (configuration : Configuration) (timeout : Duration) : Prop :=
  timeout = configuration.startupTimeout ∨ timeout = configuration.netplayConnectTimeout

/-- A wait for a runtime went on for longer than it is observed. -/
def SessionService.Unobserved (self : SessionService) (after : World) : Prop :=
  ∃ handle timeout history, self.configuration.Waits timeout ∧
    (Wait.mk self handle timeout history.length).Reaches (⟨.monotonic, true, true⟩ :: history)
      .stopped after

/-- A run is observed for longer than any wait of a startup may take. -/
def SessionService.Observed (self : SessionService) : Prop :=
  ∀ timeout, self.configuration.Waits timeout →
    ⌈SessionService.totalSeconds timeout /
      SessionService.totalSeconds self.configuration.pollInterval⌉₊ <
        self.dependencies.pollRounds

/-- What a startup by `start` leaves where it raises an error. -/
def World.Contains (start : World) (origin : Session) (others : List Participant)
    (participant : Participant) (state : SessionState) (error : Error) (after : World) : Prop :=
  (∃ message, error = .orchestration message) ∧
    (∀ id, id ≠ origin.sessionId → after.get id = start.get id) ∧
      ∃ current, after.get origin.sessionId = some current ∧
        origin.Failed others participant state current

namespace SessionService

variable {self : SessionService} {start world : World} {origin session : Session}
variable {others : List Participant} {participant : Participant}

/-- The first guarded block: where it raises, the record is still the one before it. -/
theorem ensures_createRuntime {current : Session} {entry : Participant}
    (reliable : self.dependencies.Reliable)
    (starting : start.Starting origin others entry current world)
    (apart : ∀ item ∈ others, item.participantId ≠ entry.participantId)
    (grew : start.Grew world) (request : RuntimeRequest) :
    (self.createRuntime current entry request).Ensures
      ⟨fun result after => start.Grew after ∧
          start.Starting origin others result.2.1 result.2.2 after ∧
          result.2.2.state = current.state ∧
          result.2.1 = { entry with runtimeId := some result.1.runtimeId },
        fun _ after => start.Grew after ∧ start.Starting origin others entry current after,
        fun _ => False⟩ world := by
  refine ensures_bind.mpr (ensures_executionCreate ⟨fun _ => ?_, ?_, reliable.never⟩)
  · have kept : world.KeepsStore true ((world.startRuntime request.participantId).observe
        (.executionCreate request)) :=
      ⟨rfl, rfl, [⟨.executionCreate request, true, true⟩], rfl, by simp⟩
    have starting := starting.keepsStore kept
    have stored : ((world.startRuntime request.participantId).observe
        (.executionCreate request)).get current.sessionId = some current := by
      rw [starting.carries.sameId]
      exact starting.stored
    refine ensures_bind.mpr (ensures_replaced reliable stored fun now _ => ?_)
    refine ⟨((grew.keepsStore kept).record _).record _, ?_, rfl, rfl⟩
    exact starting.saved apart _ (by rfl) current.state now
  · intro error applied _ _
    have kept : world.KeepsStore true ((if applied then world.startRuntime request.participantId
        else world).record ⟨.executionCreate request, applied, false⟩) := by
      cases applied <;>
        exact ⟨rfl, rfl, [⟨.executionCreate request, _, false⟩], rfl, by simp⟩
    exact ⟨grew.keepsStore kept, starting.keepsStore kept⟩

/-- The second guarded block stores nothing, and hands over a token where it returns. -/
theorem ensures_awaitStream {current : Session} {entry : Participant}
    (reliable : self.dependencies.Reliable)
    (starting : start.Starting origin others entry current world) (grew : start.Grew world)
    (handle : RuntimeHandle) {timeout : Duration} (waits : self.configuration.Waits timeout)
    (participantId : UUID) :
    (do self.waitReady handle timeout
        let _ ← self.streamProvision participantId 1 : ServiceProgram Unit).Ensures
      ⟨fun _ after => start.Provisioned after ∧
        start.Starting origin others entry current after,
        fun _ after => start.Starting origin others entry current after,
        self.Unobserved⟩ world := by
  have kept : (self.waitReady handle timeout).Ensures
      ⟨fun _ after => world.KeepsStore true after ∧ True, fun _ => world.KeepsStore true,
        world.KeepsStore true⟩ world := (storeKept_waitReady handle timeout).ensures world
  have ends : (self.waitReady handle timeout).Ensures
      ⟨fun _ _ => True, fun _ _ => True, self.Unobserved⟩ world := by
    have reaches := waitReady_reaches self handle timeout world reliable.running
    unfold Program.Ensures
    rcases run : self.waitReady handle timeout world with ⟨outcome, after⟩
    rw [run] at reaches
    cases outcome with
    | returned _ | raised _ => trivial
    | stopped => exact ⟨handle, timeout, world.history, waits, reaches⟩
  refine ensures_bind.mpr (.mono (kept.and ends) ?_
    (fun _ _ both => starting.keepsStore both.1) fun _ => And.right)
  intro _ after ⟨⟨kept, _⟩, _⟩
  have starting := starting.keepsStore kept
  refine ensures_bind.mpr (ensures_streamProvision ⟨fun _ => ?_, ?_, reliable.never⟩)
  · exact ⟨(grew.keepsStore kept).provisioned _ _,
      starting.keepsStore (.record _ fun _ => rfl)⟩
  · intro error applied _ _
    rw [ite_self]
    exact starting.keepsStore (.record _ fun _ => rfl)

/-- A startup that did not hand over a controller token was never begun or is contained. -/
theorem ensures_startParticipant (reliable : self.dependencies.Reliable)
    (starting : start.Starting origin others participant session world)
    (apart : ∀ item ∈ others, item.participantId ≠ participant.participantId)
    (unlaunched : start.Unlaunched world) {game : GameRecord} {core : CoreProfile} {role : Role}
    {host : Option UUID} {state : SessionState}
    (final : state = if role = .host then .error else
      if session.state = .creating then .starting else session.state) :
    (self.startParticipant session participant game core role host).Ensures
      ⟨fun _ after => start.Provisioned after,
        fun error after => start.Unlaunched after ∨ start.Provisioned after ∨
          start.Contains origin others participant state error after,
        self.Unobserved⟩ world := by
  refine ensures_bind.mpr (ensures_ofExcept.mpr ⟨fun _ _ => ?_, fun _ _ => .inl unlaunched⟩)
  refine ensures_bind.mpr (ensures_ofExcept.mpr ⟨fun _ _ => ?_, fun _ _ => .inl unlaunched⟩)
  have stored : world.get session.sessionId = some session := by
    rw [starting.carries.sameId]
    exact starting.stored
  refine ensures_bind.mpr (ensures_replaced reliable stored fun now _ => ?_)
  have begun := starting.saved apart { participant with state := .starting } rfl
    (if session.state = .creating then .starting else session.state) now
  have unlaunched' : start.Unlaunched ((world.observe .clock).save
      (replacement session { participant with state := .starting }
        (if session.state = .creating then .starting else session.state) false none now)
      session.revision) := unlaunched.replaced _ _
  refine ensures_ite.mpr ⟨fun _ => ?_, fun _ => .inl unlaunched'⟩
  -- Whichever block fails, the handler leaves the participant as `ERROR`.
  have contained : ∀ {current : Session} {entry : Participant} (message : String)
      (updatedAt : Time) (after : World),
      entry.participantId = participant.participantId → entry.userId = participant.userId →
      entry.playerSlot = participant.playerSlot →
      current.state = (if session.state = .creating then .starting else session.state) →
      start.Starting origin others { entry with state := .error }
        (replacement current { entry with state := .error }
          (if role = .host then .error else current.state) false none updatedAt) after →
      start.Contains origin others participant state (.orchestration message) after := by
    intro current entry message updatedAt after sameId sameUser sameSlot sameState failed
    refine ⟨⟨message, rfl⟩, failed.elsewhere, _, failed.stored,
      ⟨_, failed.carries, rfl, sameId, sameUser, sameSlot⟩, ?_⟩
    rw [final, ← sameState]
    rfl
  refine ensures_bind.mpr (ensures_tryCatch.mpr (.mono
    (ensures_createRuntime reliable begun apart unlaunched'.grew _) ?_ ?_ fun _ => False.elim))
  swap
  · intro error after ⟨_, failing⟩
    refine ensures_failStartup reliable failing apart failing.carries.sameId ?_
    exact fun message now later failed =>
      .inr (.inr (contained message now later rfl rfl rfl rfl failed))
  intro ⟨handle, withRuntime, current⟩ after ⟨grew, running, sameState, named⟩
  dsimp only at running sameState named
  have sameId : withRuntime.participantId = participant.participantId := by rw [named]
  have waits : self.configuration.Waits (if role = .host then self.configuration.startupTimeout
      else self.configuration.netplayConnectTimeout) := by
    unfold Configuration.Waits
    split
    · exact .inl rfl
    · exact .inr rfl
  refine ensures_bind.mpr (ensures_tryCatch.mpr (.mono
    (ensures_awaitStream reliable running grew handle waits participant.participantId)
    ?_ ?_ fun _ => id))
  swap
  · intro error later failing
    rw [← sameId] at apart ⊢
    refine ensures_failStartup reliable failing apart failing.carries.sameId ?_
    intro message now later failed
    exact .inr (.inr (contained message now later sameId (by rw [named]) (by rw [named])
      sameState failed))
  intro _ later ⟨provisioned, running⟩
  refine ensures_bind.mpr (ensures_ofExcept.mpr
    ⟨fun _ _ => ?_, fun _ _ => .inr (.inl provisioned)⟩)
  refine ensures_bind.mpr (ensures_clock (fun _ => ?_) reliable.never)
  have provisioned := provisioned.record ⟨.clock, true, true⟩
  refine ensures_bind.mpr (ensures_ofExcept.mpr
    ⟨fun _ _ => ?_, fun _ _ => .inr (.inl provisioned)⟩)
  have found : (later.observe .clock).get current.sessionId = some current := by
    rw [running.carries.sameId]
    exact running.stored
  exact ensures_replaced reliable found fun _ _ => (provisioned.record _).record _

/-! ## Join and create -/

/-- A program that stores nothing and starts nothing. -/
theorem ensures_unlaunched {α : Type} {post : Post World Error α} {program : ServiceProgram α}
    (kept : (World.storeKept false).Holds program fun _ => True)
    (unlaunched : start.Unlaunched world)
    (returned : ∀ value after, world.KeepsStore false after → start.Unlaunched after →
      post.returned value after)
    (raised : ∀ error after, start.Unlaunched after → post.raised error after)
    (stopped : ∀ after, start.Unlaunched after → post.stopped after) :
    program.Ensures post world :=
  (kept.ensures world).mono
    (fun value after both => returned value after both.1 (unlaunched.keepsStore both.1))
    (fun error after kept => raised error after (unlaunched.keepsStore kept))
    fun after kept => stopped after (unlaunched.keepsStore kept)

/-- Expiry returns a closed record or the stored one, and starts nothing. -/
theorem ensures_expired (session : Session) :
    (self.expire session).Ensures
      ⟨fun value after =>
        (value.state = .closed ∨ value = session ∧ world.KeepsStore false after) ∧
          world.Unlaunched after,
        fun _ => world.Unlaunched, world.Unlaunched⟩ world :=
  ((expire_keeps session).and ((saving_expire saves_unlaunched session).ensures world)).mono
    (fun _ _ both => ⟨both.1, both.2.1⟩) (fun _ _ both => both.2) fun _ both => both.2

/-- How an operation ends whose startup is contained as `left` says. -/
def containing {α : Type} (self : SessionService) (start : World)
    (left : Error → World → Prop) : Post World Error α :=
  ⟨fun _ after => start.Unlaunched after ∨ start.Provisioned after,
    fun error after => start.Unlaunched after ∨ start.Provisioned after ∨ left error after,
    fun after => start.Unlaunched after ∨ self.Unobserved after⟩

/-- The part of a join that saves. -/
theorem ensures_admitted (reliable : self.dependencies.Reliable)
    (stored : world.get session.sessionId = some session)
    (apart : ∀ item ∈ session.participants, item.participantId ≠ participant.participantId)
    (isOpen : session.state = .open) (unlaunched : start.Unlaunched world)
    (same : ∀ id, world.get id = start.get id) {game : GameRecord} {core : CoreProfile} :
    (do let updated ← self.replaceParticipant session participant session.state true none
        let host ← nextOrStop (hostOf session)
        self.startParticipant updated participant game core .client
          (some host.participantId) : ServiceProgram Session).Ensures
      (containing self start
        (start.Contains session session.participants participant session.state)) world := by
  refine ensures_bind.mpr (ensures_replaced reliable stored fun now _ => ?_)
  have unlaunched := unlaunched.replaced
    (replacement session participant session.state true none now) session.revision
  cases hostOf session with
  | none => exact .inl unlaunched
  | some host =>
      refine ensures_bind.mpr (ensures_pure.mpr ?_)
      have starting := (World.Starting.joined stored participant now).since same
      have final : session.state = if Role.client = .host then .error else
          if (replacement session participant session.state true none now).state = .creating then
            .starting
          else (replacement session participant session.state true none now).state := by
        simp [replacement, isOpen]
      exact (ensures_startParticipant reliable starting apart unlaunched final).mono
        (fun _ _ => .inr) (fun _ _ => id) fun _ => .inr

/-- What a join leaves whose startup failed. -/
def JoinContained (start : World) (sessionId : UUID) (actor : Actor) (error : Error)
    (after : World) : Prop :=
  ∃ before participant, start.get sessionId = some before ∧
    freeSlot before = some participant.playerSlot ∧ participant.userId = actor.userId ∧
      start.Contains before before.participants participant before.state error after

theorem ensures_join (reliable : self.dependencies.Reliable) (coherent : Coherent world)
    (sessionId : UUID) (actor : Actor) :
    (self.join sessionId actor).Ensures
      (containing self world (JoinContained world sessionId actor)) world := by
  refine ensures_bind.mpr (ensures_required ⟨fun _ => ?_, ?_, reliable.never⟩)
  swap
  · intro error applied _ _
    rw [ite_self]
    exact .inl ((World.Unlaunched.refl world).record rfl)
  have unlaunched : world.Unlaunched (world.observe (.repositoryGet sessionId)) :=
    (World.Unlaunched.refl world).record rfl
  cases found : world.get sessionId with
  | none => exact .inl unlaunched
  | some session =>
      have stored := InMemorySessionRepository.get_mem found
      refine ensures_bind.mpr (.mono (ensures_expired session) ?_
        (fun _ _ quiet => .inl (unlaunched.trans quiet)) fun _ quiet =>
          .inl (unlaunched.trans quiet))
      intro value after ⟨expired, quiet⟩
      have unlaunched := unlaunched.trans quiet
      refine ensures_ite.mpr ⟨fun _ => .inl unlaunched, fun _ => ?_⟩
      refine ensures_ite.mpr ⟨fun _ => .inl unlaunched, fun opened => ?_⟩
      refine ensures_ite.mpr ⟨fun _ => .inl unlaunched, fun _ => ?_⟩
      rcases expired with closed | ⟨rfl, kept⟩
      · rw [closed] at opened
        exact absurd (by simp) opened
      have isOpen : value.state = .open := by simpa using opened
      refine ensures_bind.mpr (ensures_unlaunched (storeKept_requireUserRuntimeCapacity _)
        unlaunched ?_ (fun _ _ => .inl) fun _ => .inl)
      intro _ checked kept' unlaunched
      have kept := kept.trans kept'
      refine ensures_bind.mpr (ensures_unlaunched storeKept_requireRuntimeCapacity
        unlaunched ?_ (fun _ _ => .inl) fun _ => .inl)
      intro _ admitted kept' unlaunched
      have kept := kept.trans kept'
      refine ensures_bind.mpr (ensures_unlaunched (storeKept_resolve _)
        unlaunched ?_ (fun _ _ => .inl) fun _ => .inl)
      intro ⟨game, core⟩ resolved kept' unlaunched
      have kept := kept.trans kept'
      refine ensures_ite.mpr ⟨fun _ => .inl unlaunched, fun _ => ?_⟩
      cases free : freeSlot value with
      | none => exact .inl unlaunched
      | some slot =>
          refine ensures_bind.mpr (ensures_pure.mpr ?_)
          refine ensures_bind.mpr (ensures_clock (fun _ => ?_) reliable.never)
          refine ensures_bind.mpr (ensures_uuid4 (fun _ fresh => ?_) fun _ => .inl
            (unlaunched.record rfl))
          generalize self.dependencies.uuid4 (resolved.observe .clock).history.length =
            participantId at fresh ⊢
          have unlaunched : world.Unlaunched (((resolved.observe .clock).issue
              participantId).observe .uuid4) := (unlaunched.record rfl).record rfl
          have found' : (((resolved.observe .clock).issue participantId).observe .uuid4).get
              value.sessionId = some value := (kept.get _).trans (stored.2 ▸ found)
          have apart : ∀ item ∈ value.participants, item.participantId ≠ participantId := by
            intro item member same
            apply fresh
            show participantId ∈ resolved.issued
            rw [← same, kept.issued]
            exact coherent.issued value stored.1 item member
          refine ensures_ite.mpr ⟨fun _ => ?_, fun _ => .inl unlaunched⟩
          have elsewhere : ∀ id, (((resolved.observe .clock).issue participantId).observe
              .uuid4).get id = world.get id := kept.get
          refine (ensures_admitted reliable found' apart isOpen unlaunched elsewhere).mono
            (fun _ _ => id) ?_ fun _ => id
          intro error later ended
          refine ended.imp id (Or.imp id fun contained => ?_)
          exact ⟨value, _, stored.2 ▸ found, free, rfl, contained⟩

/-- The part of a creation that saves. -/
theorem ensures_opened (reliable : self.dependencies.Reliable)
    (unused : world.get session.sessionId = none) (single : session.participants = [participant])
    (unlaunched : start.Unlaunched world)
    (same : ∀ id, world.get id = start.get id) {game : GameRecord} {core : CoreProfile} :
    (do self.repositoryAdd session
        self.startParticipant session participant game core .host none :
        ServiceProgram Session).Ensures
      (containing self start (start.Contains session [] participant .error)) world := by
  refine ensures_bind.mpr (ensures_repositoryAdd unused ⟨fun _ => ?_, ?_, reliable.never⟩)
  · have starting := (World.Starting.added unused single).since same
    exact (ensures_startParticipant reliable starting (fun _ member => by cases member)
      (unlaunched.record rfl) rfl).mono (fun _ _ => .inr) (fun _ _ => id) fun _ => .inr
  · intro error applied _ plan
    rw [reliable.stores _ _ rfl] at plan
    cases plan

/-- What a creation leaves whose startup failed: the new record besides those the
sweep left. -/
def CreateContained (self : SessionService) (start : World) (actor : Actor) (error : Error)
    (after : World) : Prop :=
  ∃ count swept session owner, self.sweep start = (.returned count, swept) ∧
    start.get session.sessionId = none ∧ swept.get session.sessionId = none ∧
      session.ownerUserId = actor.userId ∧ owner.userId = actor.userId ∧
        owner.playerSlot = 1 ∧ 1 ≤ session.maxPlayers ∧
          swept.Contains session [] owner .error error after

theorem coherent_swept (coherent : Coherent world) {count : Nat} {swept : World}
    (run : self.sweep world = (.returned count, swept)) :
    Coherent swept ∧ ∀ id ∈ world.issued, id ∈ swept.issued := by
  let request : Request := ⟨.sweep, self.dependencies⟩
  have reached : request.after self.configuration world = swept := by
    show ((.count <$> self.sweep : ServiceProgram Reply) world).2 = swept
    rw [show (.count <$> self.sweep : ServiceProgram Reply) world =
      (.returned (.count count), swept)
      from bind_returned run]
  have path : (lobby self.configuration).Path (request.Permits self.configuration world) world
      (request.after self.configuration world) := request.path_after coherent
  rw [← reached]
  exact ⟨request.coherent_after coherent, fun id => Request.Path.issued path coherent⟩

theorem ensures_create (reliable : self.dependencies.Reliable) (coherent : Coherent world)
    (actor : Actor) (creation : CreateSessionRequest) :
    (self.create actor creation).Ensures
      (containing self world (CreateContained self world actor)) world := by
  have sweeping :=
    (ensures_run self.sweep world).and ((saving_sweep saves_unlaunched).ensures world)
  refine ensures_bind.mpr (sweeping.mono ?_ (fun _ _ both => .inl both.2) fun _ both => .inl both.2)
  intro count swept ⟨run, unlaunched, _⟩
  have ⟨sweptCoherent, keptIssued⟩ := coherent_swept coherent run
  have quiet : world.Unlaunched swept := unlaunched
  refine ensures_bind.mpr (ensures_unlaunched storeKept_requireSessionCapacity unlaunched
    ?_ (fun _ _ => .inl) fun _ => .inl)
  intro _ counted kept unlaunched
  refine ensures_bind.mpr (ensures_unlaunched (storeKept_requireUserRuntimeCapacity _) unlaunched
    ?_ (fun _ _ => .inl) fun _ => .inl)
  intro _ checked kept' unlaunched
  have kept := kept.trans kept'
  refine ensures_bind.mpr (ensures_unlaunched storeKept_requireRuntimeCapacity unlaunched
    ?_ (fun _ _ => .inl) fun _ => .inl)
  intro _ admitted kept' unlaunched
  have kept := kept.trans kept'
  refine ensures_bind.mpr (ensures_unlaunched (storeKept_resolve _) unlaunched
    ?_ (fun _ _ => .inl) fun _ => .inl)
  intro ⟨game, core⟩ resolved kept' unlaunched
  have kept := kept.trans kept'
  refine ensures_ite.mpr ⟨fun _ => .inl unlaunched, fun _ => ?_⟩
  refine ensures_bind.mpr (ensures_clock (fun _ => ?_) reliable.never)
  refine ensures_bind.mpr (ensures_uuid4 (fun _ fresh => ?_) fun _ => .inl (unlaunched.record rfl))
  generalize self.dependencies.uuid4 (resolved.observe .clock).history.length =
    sessionId at fresh ⊢
  have issued : world.Unlaunched (((resolved.observe .clock).issue sessionId).observe .uuid4) :=
    (unlaunched.record rfl).record rfl
  refine ensures_bind.mpr (ensures_uuid4 (fun _ _ => ?_) fun _ => .inl issued)
  generalize self.dependencies.uuid4 (((resolved.observe .clock).issue sessionId).observe
    .uuid4).history.length = participantId
  have fresh : sessionId ∉ swept.issued := by
    rw [← kept.issued]
    exact fresh
  have unused := sweptCoherent.get_none fresh
  have sweptTo : swept.Unlaunched (((((resolved.observe .clock).issue sessionId).observe
      .uuid4).issue participantId).observe .uuid4) :=
    ((((World.Unlaunched.refl swept).keepsStore kept).record rfl).record rfl).record rfl
  have sameRecords : ∀ id, (((((resolved.observe .clock).issue sessionId).observe
      .uuid4).issue participantId).observe .uuid4).get id = swept.get id := kept.get
  refine ensures_bind.mpr (ensures_ofExcept.mpr ⟨fun _ valid => ?_, fun _ _ => .inl ?_⟩)
  swap
  · exact issued.record rfl
  have room := ((Session.validate_ok_iff _).mp valid).2.slotBound _ (List.mem_singleton_self _)
  refine (ensures_opened reliable ((sameRecords _).trans unused) rfl sweptTo sameRecords).mono
    ?_ ?_ ?_
  · exact fun _ _ => Or.imp quiet.trans quiet.provisioned
  · intro error after ended
    refine ended.imp quiet.trans (Or.imp quiet.provisioned fun contained => ?_)
    exact ⟨count, swept, _, _, run, coherent.get_none fun old => fresh (keptIssued _ old), unused,
      rfl, rfl, rfl, room, contained⟩
  · exact fun _ => Or.imp quiet.trans id

end SessionService

/-! ## Every run -/

/-- A runtime was asked for, and no controller token was handed over afterwards. -/
def World.StartupFails (before after : World) : Prop :=
  ∃ newer, after.history = newer ++ before.history ∧
    (∃ event ∈ newer, event.call.launches = true) ∧
      ∀ event ∈ newer, event.call.provisions = true → event.returned = false

/-- A failed startup: it raises an orchestration error, and leaves the world as `left` says. -/
structure Request.FailsWith (configuration : Configuration) (request : Request) (world : World)
    (left : World → Prop) : Prop where
  /-- It has an end where the clock follows its sleeps and it is observed for long enough. -/
  ends : request.dependencies.Advances (request.after configuration world).history →
    (SessionService.mk configuration request.dependencies).Observed →
      (request.run configuration world).1 ≠ .stopped
  raises : (request.run configuration world).1 ≠ .stopped →
    ∃ message, (request.run configuration world).1 = .raised (.orchestration message)
  leaves : (request.run configuration world).1 ≠ .stopped →
    left (request.after configuration world)

/-- A lobby after a failed startup of one more participant: that entry is `ERROR`,
its slot is free again and nothing else differs. -/
structure Session.Unjoined (before : Session) (userId : String) (current : Session) : Prop where
  entry : ∃ entry, current.participants = before.participants ++ [entry] ∧
    entry.userId = userId ∧ entry.state = .error ∧
      SessionService.freeSlot before = some entry.playerSlot ∧
        SessionService.freeSlot current = some entry.playerSlot
  same : current = { before with
    participants := current.participants, updatedAt := current.updatedAt
    revision := current.revision }
  count : current.playerCount = before.playerCount

/-- A lobby whose owner's startup failed. -/
structure Session.Unopened (userId : String) (current : Session) : Prop where
  owner : current.ownerUserId = userId
  state : current.state = .error
  entry : ∃ entry, current.participants = [entry] ∧ entry.userId = userId ∧
    entry.state = .error ∧ SessionService.freeSlot current = some entry.playerSlot
  count : current.playerCount = 0

section Runs

variable {configuration : Configuration} {request : Request} {world after : World}

theorem World.StartupFails.launched (fails : world.StartupFails after) :
    ¬ world.Unlaunched after := by
  intro ⟨newer, grown, quiet⟩
  have ⟨newer', grown', ⟨event, member, launches⟩, _⟩ := fails
  have same : newer' = newer := List.append_cancel_right (grown'.symm.trans grown)
  rw [quiet event (same ▸ member)] at launches
  cases launches

theorem World.StartupFails.unprovisioned (fails : world.StartupFails after) :
    ¬ world.Provisioned after := by
  intro ⟨newer, grown, event, member, provisions, returned⟩
  have ⟨newer', grown', _, refused⟩ := fails
  have same : newer' = newer := List.append_cancel_right (grown'.symm.trans grown)
  rw [refused event (same ▸ member) provisions] at returned
  cases returned

theorem SessionService.Unobserved.not_advances {self : SessionService}
    (unobserved : self.Unobserved after) (observed : self.Observed) :
    ¬ self.dependencies.Advances after.history := by
  intro advances
  have ⟨handle, timeout, history, waits, reaches⟩ := unobserved
  exact reaches.ended rfl advances (observed timeout waits) rfl

/-- A contained operation fails as its contract says. -/
theorem Request.failsWith {left : World → Prop} {error : Error → World → Prop}
    (ensures : (request.operation.program ⟨configuration, request.dependencies⟩).Ensures
      (SessionService.containing ⟨configuration, request.dependencies⟩ world error) world)
    (fails : world.StartupFails (request.after configuration world))
    (orchestration : ∀ raised after, error raised after →
      (∃ message, raised = .orchestration message) ∧ left after) :
    request.FailsWith configuration world left := by
  have launched := fails.launched
  have unprovisioned := fails.unprovisioned
  unfold Request.after Request.run at launched unprovisioned
  have ended : (request.run configuration world).1 ≠ .stopped →
      ∃ raised, (request.run configuration world).1 = .raised raised ∧
        error raised (request.after configuration world) := by
    intro goes
    unfold Request.after Request.run at *
    unfold Program.Ensures at ensures
    rcases run : request.operation.program ⟨configuration, request.dependencies⟩ world with
      ⟨outcome, after⟩
    rw [run] at ensures goes launched unprovisioned
    cases outcome with
    | returned value => exact (ensures.elim launched unprovisioned).elim
    | raised raised =>
        exact ⟨raised, rfl, (ensures.resolve_left launched).resolve_left unprovisioned⟩
    | stopped => exact absurd rfl goes
  constructor
  · intro advances observed stopped
    unfold Request.after Request.run at *
    unfold Program.Ensures at ensures
    rcases run : request.operation.program ⟨configuration, request.dependencies⟩ world with
      ⟨outcome, after⟩
    rw [run] at ensures stopped launched advances
    cases stopped
    exact (ensures.resolve_left launched).not_advances observed advances
  · intro goes
    have ⟨raised, run, holds⟩ := ended goes
    have ⟨⟨message, same⟩, _⟩ := orchestration raised _ holds
    exact ⟨message, same ▸ run⟩
  · intro goes
    have ⟨raised, _, holds⟩ := ended goes
    exact (orchestration raised _ holds).2

/-- Free slots depend on the live participants and the capacity alone. -/
theorem SessionService.freeSlot_congr {session other : Session}
    (live : session.liveParticipants = other.liveParticipants)
    (capacity : session.maxPlayers = other.maxPlayers) : freeSlot session = freeSlot other := by
  unfold freeSlot occupied
  rw [live, capacity]

theorem Session.Failed.unjoined {before current : Session} {participant : Participant}
    (failed : before.Failed before.participants participant before.state current)
    (free : SessionService.freeSlot before = some participant.playerSlot) :
    before.Unjoined participant.userId current := by
  have ⟨⟨entry, carries, ended, _, sameUser, sameSlot⟩, sameState⟩ := failed
  have live : current.liveParticipants = before.liveParticipants := carries.live_of_ended ended
  have capacity : current.maxPlayers = before.maxPlayers := by rw [carries.same]
  have offered := SessionService.freeSlot_congr live capacity
  rw [← sameSlot] at free
  constructor
  · exact ⟨entry, carries.entries, sameUser, ended, free, offered.trans free⟩
  · have same := carries.same
    rw [sameState] at same
    exact same
  · rw [Session.playerCount, live, Session.playerCount]

theorem Session.Failed.unopened {session current : Session} {owner : Participant}
    (failed : session.Failed [] owner .error current)
    (sameUser : session.ownerUserId = owner.userId) (first : owner.playerSlot = 1)
    (capacity : 1 ≤ session.maxPlayers) : current.Unopened owner.userId := by
  obtain ⟨⟨entry, carries, ended, _, user, slot⟩, state⟩ := failed
  have live : current.liveParticipants = [] := carries.live_of_ended ended
  have count : current.playerCount = 0 := by
    rw [Session.playerCount, live]
    rfl
  have sameCapacity : current.maxPlayers = session.maxPlayers := by rw [carries.same]
  have room : current.playerCount < current.maxPlayers := by omega
  obtain ⟨free, found⟩ := SessionService.freeSlot_of_room room
  have least := SessionService.freeSlot_leastFree found
  have isFirst : free = 1 := by
    by_contra later
    obtain ⟨item, member, _⟩ := least.least 1 le_rfl (by have := least.positive; omega)
    rw [live] at member
    cases member
  refine ⟨?_, state, ⟨entry, carries.entries, user, ended, ?_⟩, count⟩
  · rw [carries.same]
    exact sameUser
  · rw [found, isFirst, slot, first]

/-- What a join leaves whose startup failed. -/
def World.Unjoined (before : World) (sessionId : UUID) (actor : Actor) (after : World) : Prop :=
  (∃ session current, before.get sessionId = some session ∧
    after.get sessionId = some current ∧
    session.Unjoined actor.userId current) ∧
      ∀ id, id ≠ sessionId → after.get id = before.get id

/-- What a creation leaves whose startup failed: besides the new record, that of its sweep. -/
def World.Unopened (self : SessionService) (before : World) (actor : Actor) (after : World) :
    Prop :=
  ∃ sessionId current count swept, before.get sessionId = none ∧
    after.get sessionId = some current ∧ current.Unopened actor.userId ∧
      self.sweep before = (.returned count, swept) ∧
        ∀ id, id ≠ sessionId → after.get id = swept.get id

/-- Wherever the repository works, a failed startup is contained. -/
theorem failed_startup_contained (configuration : Configuration) (world : World)
    (reached : Reachable configuration world) (dependencies : Dependencies)
    (reliable : dependencies.Reliable) :
    (∀ sessionId actor,
      world.StartupFails ((Request.mk (.join sessionId actor) dependencies).after configuration
        world) →
      (Request.mk (.join sessionId actor) dependencies).FailsWith configuration world
        (world.Unjoined sessionId actor)) ∧
    ∀ actor creation,
      world.StartupFails ((Request.mk (.create actor creation) dependencies).after configuration
        world) →
      (Request.mk (.create actor creation) dependencies).FailsWith configuration world
        (world.Unopened ⟨configuration, dependencies⟩ actor) := by
  have coherent := reached.coherent
  let self : SessionService := ⟨configuration, dependencies⟩
  constructor
  · intro sessionId actor fails
    have ensures : (self.join sessionId actor).Ensures _ world :=
      SessionService.ensures_join reliable coherent sessionId actor
    apply Request.failsWith (ensures_map.mpr ensures) fails
    intro error after ⟨before, participant, found, free, user, message, elsewhere, contained⟩
    have sameId := (InMemorySessionRepository.get_mem found).2
    rw [sameId] at elsewhere contained
    have ⟨current, stored, failed⟩ := contained
    exact ⟨message, ⟨before, current, found, stored, user ▸ failed.unjoined free⟩,
      elsewhere⟩
  · intro actor creation fails
    have ensures : (self.create actor creation).Ensures _ world :=
      SessionService.ensures_create reliable coherent actor creation
    apply Request.failsWith (ensures_map.mpr ensures) fails
    intro error after ⟨count, swept, session, owner, run, unused, _, user, ownerUser, first,
      capacity, message, elsewhere, current, stored, failed⟩
    refine ⟨message, session.sessionId, current, count, swept, unused, stored,
      ?_, run, elsewhere⟩
    exact ownerUser ▸ failed.unopened (user.trans ownerUser.symm) first capacity

/-- The second player's runtime stops while it starts. -/
def stoppingRuntime : Dependencies :=
  { Dependencies.fakes fun _ => 0 with
    runtimeCreated := fun _ request => ⟨request.participantId, "exited", .unhealthy⟩ }

theorem stopped_join_contained :
    (Request.mk (.join 8 secondActor) stoppingRuntime).FailsWith .default createdLobby
      (createdLobby.Unjoined 8 secondActor) := by
  have reliable : stoppingRuntime.Reliable := ⟨fun _ => rfl, fun _ _ _ => rfl⟩
  have fails : createdLobby.StartupFails
      ((Request.mk (.join 8 secondActor) stoppingRuntime).after .default createdLobby) :=
    ⟨((Request.mk (.join 8 secondActor) stoppingRuntime).after .default createdLobby).history.take
      21, by decide +kernel, by decide +kernel, by decide +kernel⟩
  exact (failed_startup_contained .default createdLobby createdLobby_reachable stoppingRuntime
    reliable).1 8 secondActor fails

end Runs

end RetroBrowser.SessionManager
