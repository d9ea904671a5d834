import RetroBrowser.SessionManager.Services.Attempts
import RetroBrowser.SessionManager.Services.Lockstep
import RetroBrowser.SessionManager.Services.Working

/-!
Owns retirements that fail and are tried again. A close removes several
runtimes before its only save, so an attempt that fails in between leaves traces
outside but none in the store. Contract: whatever attempts failed before, the
next one does to the store what it would have done at first, and no entry ends
without a removal that succeeded.
-/

namespace RetroBrowser.SessionManager

open RetroBrowser.Foundation Program

/-! ## Removals that succeeded -/

/-- The runtime of `id` was removed since `start`. -/
def World.Removed (start world : World) (id : UUID) : Prop :=
  ∃ newer, world.history = newer ++ start.history ∧
    ⟨.executionRemove id, true, true⟩ ∈ newer

/-- An entry that was live at `start` is still live in a lobby that is not closed,
or its runtime was removed since. -/
structure World.EndsRemoved (start world : World) : Prop where
  grew : ∃ newer, world.history = newer ++ start.history
  entries : ∀ sessionId before, start.get sessionId = some before →
    ∀ entry ∈ before.participants, entry.live = true →
      start.Removed world entry.participantId ∨
        ∃ current, world.get sessionId = some current ∧ current.state ≠ .closed ∧
          ∃ item ∈ current.participants,
            item.participantId = entry.participantId ∧ item.live = true

namespace World

variable {start world after : World} {session updated : Session}

theorem Removed.grown {id : UUID} (removed : start.Removed world id)
    (grew : ∃ newer, after.history = newer ++ world.history) : start.Removed after id := by
  have ⟨newer, grown, member⟩ := removed
  have ⟨newest, grown'⟩ := grew
  exact ⟨newest ++ newer, by rw [grown', grown, List.append_assoc],
    List.mem_append_right _ member⟩

theorem Removed.since {id : UUID} (removed : world.Removed after id)
    (grew : ∃ newer, world.history = newer ++ start.history) : start.Removed after id := by
  have ⟨newest, grown, member⟩ := removed
  have ⟨newer, grown'⟩ := grew
  exact ⟨newest ++ newer, by rw [grown, grown', List.append_assoc],
    List.mem_append_left _ member⟩

theorem EndsRemoved.refl (coherent : Coherent world) : world.EndsRemoved world := by
  refine ⟨⟨[], rfl⟩, fun sessionId before found entry member live => .inr ?_⟩
  refine ⟨before, found, fun closed => ?_, entry, member, rfl, live⟩
  have shape := (coherent.sessions before (InMemorySessionRepository.get_mem found).1).shape
  unfold Session.Shape at shape
  rw [closed] at shape
  have ended := shape entry member
  rw [Participant.live, ended] at live
  cases live

/-- Nothing is stored and the history grows. -/
theorem EndsRemoved.grown (ends : start.EndsRemoved world)
    (same : ∀ id, after.get id = world.get id)
    (grew : ∃ newer, after.history = newer ++ world.history) : start.EndsRemoved after := by
  have ⟨⟨newer, grown⟩, entries⟩ := ends
  have ⟨newest, grown'⟩ := grew
  refine ⟨⟨newest ++ newer, by rw [grown', grown, List.append_assoc]⟩, ?_⟩
  intro sessionId before found entry member live
  refine (entries sessionId before found entry member live).imp
    (fun removed => removed.grown grew) fun ⟨current, stored, rest⟩ => ?_
  exact ⟨current, (same sessionId).trans stored, rest⟩

theorem EndsRemoved.keepsStore {launches : Bool} (ends : start.EndsRemoved world)
    (kept : world.KeepsStore launches after) : start.EndsRemoved after := by
  have ⟨newer, grown, _⟩ := kept.calls
  exact ends.grown kept.get ⟨newer, grown⟩

theorem EndsRemoved.record (ends : start.EndsRemoved world) (event : Event) :
    start.EndsRemoved (world.record event) :=
  ends.grown (fun _ => rfl) ⟨[event], rfl⟩

/-- What a new version of a record has to account for. -/
def Accounts (start world : World) (session updated : Session) : Prop :=
  session.state ≠ .closed → ∀ item ∈ session.participants, item.live = true →
    start.Removed world item.participantId ∨
      updated.state ≠ .closed ∧ ∃ now ∈ updated.participants,
        now.participantId = item.participantId ∧ now.live = true

theorem EndsRemoved.overwrite (ends : start.EndsRemoved world)
    (stored : world.get session.sessionId = some session)
    (same : updated.sessionId = session.sessionId)
    (accounts : start.Accounts world session updated) :
    start.EndsRemoved (world.overwrite updated) := by
  refine ⟨ends.grew, fun sessionId before found entry member live => ?_⟩
  by_cases this : sessionId = session.sessionId
  · rcases ends.entries sessionId before found entry member live with removed |
      ⟨current, found', notClosed, item, itemMember, sameId, itemLive⟩
    · exact .inl removed
    · rw [this, stored] at found'
      cases found'
      rcases accounts notClosed item itemMember itemLive with removed |
        ⟨opened, now, isNow, rest⟩
      · exact .inl (sameId ▸ removed)
      · refine .inr ⟨updated, ?_, opened, now, isNow, rest.1.trans sameId, rest.2⟩
        rw [this]
        exact World.get_overwrite stored same
  · refine (ends.entries sessionId before found entry member live).imp id ?_
    intro ⟨current, found', rest⟩
    refine ⟨current, Eq.trans ?_ found', rest⟩
    have ⟨_, kept⟩ : world.Replaces (world.save updated 0) updated :=
      World.save_replaces stored same
    exact kept sessionId (same ▸ this)

end World

namespace SessionService

variable {α : Type} {self : SessionService} {start world : World} {session : Session}

/-- Every end accounts for the entries of `start`. -/
def endsRemoved {α : Type} (start : World) : Post World Error α :=
  Post.always start.EndsRemoved

/-- A program that stores nothing. -/
theorem endsRemoved_bind {β : Type} {launches : Bool} {program : ServiceProgram β}
    {next : β → ServiceProgram α}
    (kept : (World.storeKept launches).Holds program fun _ => True)
    (ends : start.EndsRemoved world)
    (rest : ∀ value after, world.KeepsStore launches after → start.EndsRemoved after →
      (next value).Ensures (endsRemoved start) after) :
    (program >>= next).Ensures (endsRemoved start) world :=
  ensures_bind.mpr ((kept.ensures world).mono
    (fun value after both => rest value after both.1 (ends.keepsStore both.1))
    (fun _ _ kept => ends.keepsStore kept) fun _ kept => ends.keepsStore kept)

theorem endsRemoved_save {updated : Session} (ends : start.EndsRemoved world)
    (stored : world.get session.sessionId = some session)
    (same : updated.sessionId = session.sessionId)
    (next : updated.revision = session.revision + 1)
    (accounts : start.Accounts world session updated) :
    (self.repositorySave updated session.revision).Ensures (endsRemoved start) world := by
  have overwritten := ends.overwrite stored same accounts
  rw [← same] at stored
  refine ensures_repositorySave stored next ⟨fun _ => overwritten.record _, ?_, fun _ => ends⟩
  intro error applied _ _
  cases applied with
  | true => exact overwritten.record _
  | false => exact ends.record _

/-- A removal that returns has removed the runtime. -/
theorem ensures_retireRuntime (participantId : UUID) :
    (self.retireRuntime participantId).Ensures
      ⟨fun _ after => world.KeepsStore false after ∧ world.Removed after participantId,
        fun _ => world.KeepsStore false, world.KeepsStore false⟩ world := by
  have kept := (@storeKept_retireRuntime self false participantId).ensures world
  have removes : (self.retireRuntime participantId).Ensures
      (onReturn fun _ after => world.Removed after participantId) world := by
    refine ensures_bind.mpr (ensures_bestEffortRevoke (fun applied returned _ => ?_)
      fun _ => trivial)
    refine ensures_executionRemove ⟨fun _ => ?_, fun _ _ _ _ => trivial, fun _ => trivial⟩
    exact ⟨[⟨.executionRemove participantId, true, true⟩,
      ⟨.streamRevoke participantId, applied, returned⟩], rfl, List.mem_cons_self⟩
  exact (kept.and removes).mono (fun _ _ both => ⟨both.1.1, both.2⟩) (fun _ _ both => both.1)
    fun _ both => both.1

/-- The loop of a close, by induction on the entries still to come. -/
theorem ensures_retireAll (items : List Participant) :
    (items.forM fun item =>
        if item.live then self.retireRuntime item.participantId else pure ()).Ensures
      ⟨fun _ after => world.KeepsStore false after ∧
          ∀ item ∈ items, item.live = true → world.Removed after item.participantId,
        fun _ => world.KeepsStore false, world.KeepsStore false⟩ world := by
  let pending (rest : List Participant) (after : World) : Prop :=
    world.KeepsStore false after ∧ ∀ item ∈ items, item.live = true →
      item ∈ rest ∨ world.Removed after item.participantId
  suffices round : ∀ item rest after, item ∈ items → pending (item :: rest) after →
      (if item.live then self.retireRuntime item.participantId else pure ()).Ensures
        ⟨fun _ => pending rest, fun _ => world.KeepsStore false,
          world.KeepsStore false⟩ after from
    (ensures_forM pending ⟨.refl world, fun item member _ => .inl member⟩ round).mono
      (fun _ _ ⟨kept, done⟩ => ⟨kept, fun item member live =>
        (done item member live).resolve_left List.not_mem_nil⟩) (fun _ _ => id) fun _ => id
  intro item rest after _ ⟨kept, done⟩
  have ⟨newer, grown, _⟩ := kept.calls
  refine ensures_ite.mpr ⟨fun _ => ?_, fun dead => ?_⟩
  · refine (ensures_retireRuntime item.participantId).mono ?_ (fun _ _ kept' => kept.trans kept')
      fun _ kept' => kept.trans kept'
    intro _ later ⟨kept', removed⟩
    have ⟨newest, grown', _⟩ := kept'.calls
    refine ⟨kept.trans kept', fun other member live => ?_⟩
    rcases done other member live with pending | removed'
    · rcases List.mem_cons.mp pending with rfl | pending
      · exact .inr (removed.since ⟨newer, grown⟩)
      · exact .inl pending
    · exact .inr (removed'.grown ⟨newest, grown'⟩)
  · refine ⟨kept, fun other member live => ?_⟩
    rcases done other member live with pending | removed
    · rcases List.mem_cons.mp pending with rfl | pending
      · exact absurd live dead
      · exact .inl pending
    · exact .inr removed

/-- Closing leaves the record itself or a closed one without live entries. -/
theorem endsRemoved_closeSession (ends : start.EndsRemoved world)
    (stored : world.get session.sessionId = some session) (reason : String) :
    (self.closeSession session reason).Ensures (endsRemoved start) world := by
  refine ensures_ite.mpr ⟨fun _ => ends, fun _ => ?_⟩
  refine ensures_bind.mpr (ensures_ofExcept.mpr ⟨fun _ _ => ?_, fun _ _ => ends⟩)
  refine ensures_bind.mpr (ensures_clock (fun _ => ?_) fun _ => ends)
  have ends := ends.record ⟨.clock, true, true⟩
  refine ensures_bind.mpr ((ensures_retireAll session.participants).mono ?_
    (fun _ _ kept => ends.keepsStore kept) fun _ kept => ends.keepsStore kept)
  intro _ after ⟨kept, removed⟩
  have stored' : after.get session.sessionId = some session := (kept.get _).trans stored
  have grew := ends.grew
  have ends := ends.keepsStore kept
  refine ensures_bind.mpr (ensures_ofExcept.mpr ⟨fun left _ => ?_, fun _ _ => ends⟩)
  refine ensures_bind.mpr (.mono (endsRemoved_save ends stored' rfl rfl ?_)
    (fun _ _ => id) (fun _ _ => id) fun _ => id)
  exact fun _ item member live => .inl ((removed item member live).since grew)

theorem endsRemoved_expire (ends : start.EndsRemoved world)
    (stored : world.get session.sessionId = some session) :
    (self.expire session).Ensures (endsRemoved start) world := by
  apply ensures_expire
  · exact fun _ => ends
  · exact fun _ _ _ => ends.record _
  · intro _ _ _
    have stored : (world.observe .clock).get session.sessionId = some session := stored
    exact endsRemoved_closeSession (ends.record _) stored _
  · exact fun _ => ends

theorem endsRemoved_replaceParticipant {participant : Participant} {state : SessionState}
    {append : Bool} {expiresAt : Option Time} (ends : start.EndsRemoved world)
    (stored : world.get session.sessionId = some session)
    (accounts : ∀ now, start.Accounts (world.observe .clock) session
      (replacement session participant state append expiresAt now)) :
    (self.replaceParticipant session participant state append expiresAt).Ensures
      (endsRemoved start) world := by
  refine ensures_bind.mpr (ensures_clock (fun _ => ?_) fun _ => ends)
  have stored : (world.observe .clock).get session.sessionId = some session := stored
  exact ensures_bind.mpr (.mono (endsRemoved_save (ends.record _) stored rfl rfl (accounts _))
    (fun _ _ => id) (fun _ _ => id) fun _ => id)

/-- An operation that reads a stored session. -/
theorem endsRemoved_required {sessionId : UUID} {next : Session → ServiceProgram α}
    (ends : start.EndsRemoved world)
    (rest : ∀ session after, after.removalFailed = false → start.EndsRemoved after →
      after.get session.sessionId = some session →
        (next session).Ensures (endsRemoved start) after) :
    (self.required sessionId >>= next).Ensures (endsRemoved start) world := by
  refine ensures_bind.mpr (ensures_required ⟨fun _ => ?_, ?_, fun _ => ends⟩)
  · cases found : world.get sessionId with
    | none => exact ends.record _
    | some session =>
        refine rest session _ rfl (ends.record _) ?_
        rw [← (InMemorySessionRepository.get_mem found).2] at found
        exact found
  · intro error applied _ _
    rw [ite_self]
    exact ends.record _

/-- An operation that goes on with the record, or with a closed one that has no
live entries. -/
theorem endsRemoved_addressed {sessionId : UUID} {next : Session → ServiceProgram α}
    (ends : start.EndsRemoved world)
    (rest : ∀ session after, start.EndsRemoved after →
      (after.get session.sessionId = some session ∨
        ∀ item ∈ session.participants, item.live = false) →
      (next session).Ensures (endsRemoved start) after) :
    (do let session ← self.required sessionId
        let session ← self.expire session
        next session : ServiceProgram α).Ensures (endsRemoved start) world := by
  refine endsRemoved_required ends fun session after quiet ends stored => ?_
  have settled : (self.expire session).Ensures
      ⟨Settled after session, (unlessFailed (α := Session) after).raised,
        fun _ => True⟩ after :=
    settled_expire quiet rfl
  refine ensures_bind.mpr (((endsRemoved_expire ends stored).and settled).mono ?_
    (fun _ _ => And.left) fun _ => And.left)
  intro value later ⟨ends, _, which⟩
  refine rest value later ends (which.imp (fun ⟨sameValue, sameStore⟩ => ?_) And.right)
  rw [sameValue, World.get, sameStore]
  exact stored

/-- Retiring one entry leaves the others alone. -/
theorem endsRemoved_dismiss {participant : Participant} (ends : start.EndsRemoved world)
    (stored : world.get session.sessionId = some session) :
    (do self.retireRuntime participant.participantId
        let now ← self.clock
        let left ← Program.ofExcept (leftParticipant now participant)
        self.replaceParticipant session left session.state false none :
      ServiceProgram Session).Ensures (endsRemoved start) world := by
  refine ensures_bind.mpr ((ensures_retireRuntime participant.participantId).mono ?_
    (fun _ _ kept => ends.keepsStore kept) fun _ kept => ends.keepsStore kept)
  intro _ after ⟨kept, removed⟩
  have removed := removed.since ends.grew
  have ends := ends.keepsStore kept
  refine ensures_bind.mpr (ensures_clock (fun _ => ?_) fun _ => ends)
  have removed : start.Removed (after.observe .clock) participant.participantId :=
    removed.grown ⟨[⟨.clock, true, true⟩], rfl⟩
  have ends := ends.record ⟨.clock, true, true⟩
  refine ensures_bind.mpr (ensures_ofExcept.mpr ⟨fun left accepted => ?_, fun _ _ => ends⟩)
  have ⟨retired, _⟩ := leftParticipant_ok accepted
  have sameId : left.participantId = participant.participantId := by
    rw [retired, Update.retire]
    split <;> rfl
  refine endsRemoved_replaceParticipant ends ((kept.get _).trans stored) fun now opened item member
    live => ?_
  by_cases this : item.participantId = participant.participantId
  · rw [this]
    exact .inl (removed.grown ⟨[⟨.clock, true, true⟩], rfl⟩)
  · refine .inr ⟨opened, item, ?_, rfl, live⟩
    refine List.mem_map.mpr ⟨item, member, if_neg ?_⟩
    rw [sameId]
    exact this

theorem endsRemoved_get (ends : start.EndsRemoved world) (sessionId : UUID) :
    (self.get sessionId).Ensures (endsRemoved start) world :=
  endsRemoved_required ends fun _ _ _ ends stored => endsRemoved_expire ends stored

theorem endsRemoved_close (ends : start.EndsRemoved world) (sessionId : UUID) (actor : Actor) :
    (self.close sessionId actor).Ensures (endsRemoved start) world :=
  endsRemoved_required ends fun _ _ _ ends stored =>
    ensures_ite.mpr ⟨fun _ => ends, fun _ => endsRemoved_closeSession ends stored _⟩

theorem endsRemoved_leave (ends : start.EndsRemoved world) (sessionId : UUID) (actor : Actor) :
    (self.leave sessionId actor).Ensures (endsRemoved start) world := by
  refine endsRemoved_addressed ends fun session after ends which => ?_
  cases found : liveOf session actor.userId with
  | none => exact ensures_ite.mpr ⟨fun _ => ends, fun _ => ends⟩
  | some matching =>
      have ⟨member, _, live⟩ := Request.liveOf_some found
      refine ensures_ite.mpr ⟨fun _ => ends, fun _ => endsRemoved_dismiss ends ?_⟩
      refine which.resolve_right fun ended => ?_
      rw [ended matching member] at live
      cases live

theorem endsRemoved_kick (ends : start.EndsRemoved world) (sessionId participantId : UUID)
    (actor : Actor) :
    (self.kick sessionId actor participantId).Ensures (endsRemoved start) world := by
  refine endsRemoved_addressed ends fun session after ends which => ?_
  refine ensures_ite.mpr ⟨fun _ => ends, fun _ => ?_⟩
  cases found : session.participants.find? fun item => item.participantId = participantId with
  | none => exact ends
  | some participant =>
      refine ensures_ite.mpr ⟨fun _ => ends, fun _ => ?_⟩
      refine ensures_ite.mpr ⟨fun _ => ends, fun live => endsRemoved_dismiss ends ?_⟩
      refine which.resolve_right fun ended => live ?_
      simpa [Participant.live] using ended participant (List.mem_of_find?_eq_some found)

theorem endsRemoved_launch (ends : start.EndsRemoved world) (sessionId : UUID) (actor : Actor) :
    (self.launch sessionId actor).Ensures (endsRemoved start) world := by
  refine endsRemoved_addressed ends fun session after ends _ => ?_
  split
  · exact ends
  · split
    · exact ends
    · refine endsRemoved_bind (@storeKept_streamProvision self false _ _) ends
        fun _ _ _ ends => ?_
      exact ensures_ite.mpr ⟨fun _ => ends, fun _ => ends⟩

/-- A heartbeat renews the entry it finds. -/
theorem endsRemoved_heartbeat (ends : start.EndsRemoved world) (sessionId : UUID) (actor : Actor) :
    (self.heartbeat sessionId actor).Ensures (endsRemoved start) world := by
  refine endsRemoved_addressed ends fun session after ends which => ?_
  cases found : activeOf session actor.userId with
  | none => exact ends
  | some participant =>
      have ⟨member, _, active⟩ := Request.activeOf_some found
      have renewed : participant.live = true := by
        rw [Participant.live, active]
        rfl
      have stored := which.resolve_right fun ended => by
        rw [ended participant member] at renewed
        cases renewed
      refine ensures_bind.mpr (ensures_clock (fun _ => ?_) fun _ => ends)
      refine endsRemoved_replaceParticipant (ends.record _) stored fun now opened item member
        live => .inr ⟨opened, ?_⟩
      by_cases this : item.participantId = participant.participantId
      · exact ⟨_, List.mem_map.mpr ⟨item, member, if_pos this⟩, this.symm, renewed⟩
      · exact ⟨item, List.mem_map.mpr ⟨item, member, if_neg this⟩, rfl, live⟩

end SessionService

/-! ## Every sequence of attempts -/

/-- The operations that retire entries, and those that close a lobby that is due. -/
def Operation.attempts : Operation → Bool
  | .get _ | .join _ _ | .launch _ _ | .heartbeat _ _ | .leave _ _ |
      .kick _ _ _ | .close _ _ => true
  | .create _ _ | .discover | .sweep | .reconcileStartup => false

/-- The same ones, apart from the join, which also starts a runtime. -/
def Operation.retires : Operation → Bool
  | .join _ _ => false
  | operation => operation.attempts

/-- An attempt that raises because the removal of a runtime failed. -/
structure Request.FailsRemoving (configuration : Configuration) (request : Request)
    (world : World) : Prop where
  attempts : request.operation.attempts = true
  raises : ∃ error, (request.run configuration world).1 = .raised error
  cause : (request.after configuration world).removalFailed = true

/-- Any number of failed attempts, one after the other. -/
inductive FailedAttempts (configuration : Configuration) (start : World) : World → Prop
  | none : FailedAttempts configuration start start
  | more {world : World} (failed : FailedAttempts configuration start world) (request : Request)
      (fails : request.FailsRemoving configuration world) :
      FailedAttempts configuration start (request.after configuration world)

/-- The request as a run meets it whose history is shorter by `shift` calls. -/
def Request.advanced (request : Request) (shift : Nat) : Request :=
  ⟨request.operation, request.dependencies.advanced shift⟩

/-- An attempt in `world` does what the same attempt would have done at `start`. -/
structure Request.Converges (configuration : Configuration) (request : Request)
    (start world : World) : Prop where
  outcome : (request.run configuration world).1 =
    ((request.advanced (world.history.length - start.history.length)).run configuration start).1
  stored : (request.after configuration world).sessions =
    ((request.advanced (world.history.length - start.history.length)).after configuration
      start).sessions
  /-- Every entry that ends has its runtime removed, whatever was removed before. -/
  removed : world.EndsRemoved (request.after configuration world)

section Runs

variable {configuration : Configuration} {request : Request} {start world : World}

theorem Request.unlessFailed (attempts : request.operation.attempts = true) :
    (request.operation.program ⟨configuration, request.dependencies⟩).Ensures
      (SessionManager.unlessFailed world) world := by
  rcases request with ⟨operation, dependencies⟩
  cases operation with
  | get sessionId => exact ensures_map.mpr (SessionService.unlessFailed_get sessionId)
  | join sessionId actor => exact ensures_map.mpr (SessionService.unlessFailed_join sessionId actor)
  | launch sessionId actor =>
      exact ensures_map.mpr (SessionService.unlessFailed_launch sessionId actor)
  | heartbeat sessionId actor =>
      exact ensures_map.mpr (SessionService.unlessFailed_heartbeat sessionId actor)
  | leave sessionId actor =>
      exact ensures_map.mpr (SessionService.unlessFailed_leave sessionId actor)
  | kick sessionId actor participantId =>
      exact ensures_map.mpr (SessionService.unlessFailed_kick sessionId participantId actor)
  | close sessionId actor =>
      exact ensures_map.mpr (SessionService.unlessFailed_close sessionId actor)
  | create _ _ | discover | sweep | reconcileStartup => cases attempts

theorem Request.FailsRemoving.stored (fails : request.FailsRemoving configuration world) :
    (request.after configuration world).sessions = world.sessions := by
  have ⟨_, raised⟩ := fails.raises
  exact (Request.unlessFailed fails.attempts).ofRaised raised fails.cause

theorem Request.lockstep (configuration : Configuration) (shift : Nat)
    (retires : request.operation.retires = true) :
    Lockstep (World.Ahead shift)
      (request.operation.program ⟨configuration, request.dependencies⟩)
      ((request.advanced shift).operation.program
        ⟨configuration, (request.advanced shift).dependencies⟩) := by
  rcases request with ⟨operation, dependencies⟩
  cases operation with
  | get sessionId => exact lockstep_map (SessionService.lockstep_get sessionId)
  | launch sessionId actor => exact lockstep_map (SessionService.lockstep_launch sessionId actor)
  | heartbeat sessionId actor =>
      exact lockstep_map (SessionService.lockstep_heartbeat sessionId actor)
  | leave sessionId actor => exact lockstep_map (SessionService.lockstep_leave sessionId actor)
  | kick sessionId actor participantId =>
      exact lockstep_map (SessionService.lockstep_kick sessionId participantId actor)
  | close sessionId actor => exact lockstep_map (SessionService.lockstep_close sessionId actor)
  | create _ _ | join _ _ | discover | sweep | reconcileStartup => cases retires

theorem Request.endsRemoved (coherent : Coherent world)
    (retires : request.operation.retires = true) :
    world.EndsRemoved (request.after configuration world) := by
  have ends := World.EndsRemoved.refl coherent
  apply Ensures.after
  rcases request with ⟨operation, dependencies⟩
  cases operation with
  | get sessionId => exact ensures_map.mpr (SessionService.endsRemoved_get ends sessionId)
  | launch sessionId actor =>
      exact ensures_map.mpr (SessionService.endsRemoved_launch ends sessionId actor)
  | heartbeat sessionId actor =>
      exact ensures_map.mpr (SessionService.endsRemoved_heartbeat ends sessionId actor)
  | leave sessionId actor =>
      exact ensures_map.mpr (SessionService.endsRemoved_leave ends sessionId actor)
  | kick sessionId actor participantId =>
      exact ensures_map.mpr (SessionService.endsRemoved_kick ends sessionId participantId actor)
  | close sessionId actor =>
      exact ensures_map.mpr (SessionService.endsRemoved_close ends sessionId actor)
  | create _ _ | join _ _ | discover | sweep | reconcileStartup => cases retires

/-- Failed attempts add to the history and to nothing that is stored. -/
theorem FailedAttempts.keeps (failed : FailedAttempts configuration start world)
    (coherent : Coherent start) :
    Coherent world ∧ world.sessions = start.sessions ∧
      start.history.length ≤ world.history.length := by
  induction failed with
  | none => exact ⟨coherent, rfl, le_refl _⟩
  | more failed request fails inductionHypothesis =>
      have ⟨coherent, stored, grown⟩ := inductionHypothesis
      have path : (lobby configuration).Path (request.Permits configuration _) _ _ :=
        request.path_after coherent
      have ⟨newer, history, (_ : ∀ event ∈ newer, True)⟩ :=
        Request.Path.events path coherent fun _ _ _ _ _ => trivial
      refine ⟨request.coherent_after coherent, fails.stored.trans stored, ?_⟩
      rw [history, List.length_append]
      omega

/-- A retirement that fails at a removal stores nothing; and after any number of
such attempts the next one does what it would have done at once. -/
theorem retirement_retries_converge (configuration : Configuration) (start world : World)
    (reached : Reachable configuration start)
    (failed : FailedAttempts configuration start world) :
    world.sessions = start.sessions ∧
      (∀ request : Request, request.FailsRemoving configuration world →
        (request.after configuration world).sessions = world.sessions) ∧
      (∀ (self : SessionService) (between : World) (session : Session) (error : Error),
        self.due session (self.dependencies.clock between.history.length) = true →
        (self.sweepSession session between).1 = .raised error →
        (self.sweepSession session between).2.removalFailed = true →
          (self.sweepSession session between).2.sessions = between.sessions) ∧
      ∀ request : Request, request.operation.retires = true →
        request.Converges configuration start world := by
  have ⟨coherent, stored, grown⟩ := failed.keeps reached.coherent
  refine ⟨stored, fun _ fails => fails.stored, ?_, fun request retires => ?_⟩
  · exact fun self between session error due raised =>
      (SessionService.unlessFailed_sweepDue due).ofRaised raised
  · have ahead : World.Ahead (world.history.length - start.history.length) world start :=
      ⟨stored, by omega⟩
    have ⟨outcome, later⟩ := Request.lockstep configuration _ retires world start ahead
    exact ⟨outcome, later.sessions, Request.endsRemoved coherent retires⟩

/-- Dependencies that cannot remove a runtime. -/
def unremovable : Dependencies :=
  { Dependencies.fakes fun _ => 0 with
    fault := fun _ call => if call.removes then some ⟨.orchestration "unavailable", false⟩
      else none }

/-- The owner closes the lobby at the second try. -/
theorem second_close_converges :
    let failed := (Request.mk (.close 8 firstActor) unremovable).after .default createdLobby
    failed.sessions = createdLobby.sessions ∧
      (Request.mk (.close 8 firstActor) (Dependencies.fakes fun _ => 0)).Converges .default
        createdLobby failed := by
  intro failed
  have fails : (Request.mk (.close 8 firstActor) unremovable).FailsRemoving .default createdLobby :=
    ⟨rfl, ⟨.orchestration "unavailable", by decide +kernel⟩, by decide +kernel⟩
  have converges := retirement_retries_converge .default createdLobby failed
    createdLobby_reachable (.more .none _ fails)
  exact ⟨converges.1,
    converges.2.2.2 ⟨.close 8 firstActor, Dependencies.fakes fun _ => 0⟩ rfl⟩

end Runs

end RetroBrowser.SessionManager
