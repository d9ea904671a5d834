import RetroBrowser.SessionManager.Services.Raises
import RetroBrowser.SessionManager.Services.Refinement

/-!
Owns what was called before an operation raises. Contract: an operation on one
session that raises right after a failed removal has stored nothing, since every
save of such an operation comes after its removals.
-/

namespace RetroBrowser.SessionManager

open RetroBrowser.Foundation Program

/-! ## Failed removals -/

/-- The call removes a runtime. -/
def Call.removes : Call → Bool
  | .executionRemove _ => true
  | _ => false

/-- The latest call is a removal that raised. -/
def World.removalFailed (world : World) : Bool :=
  world.history.head?.any fun event => event.call.removes && !event.returned

@[simp] theorem World.removalFailed_record (world : World) (event : Event) :
    (world.record event).removalFailed = (event.call.removes && !event.returned) := rfl

/-- Whichever way it ends, the latest call is no failed removal. -/
def awake {α : Type} : Post World Error α :=
  ⟨fun _ after => after.removalFailed = false, fun _ after => after.removalFailed = false,
    fun _ => True⟩

/-- Where it raises by a failed removal, the store is that of `start`. -/
def unlessFailed {α : Type} (start : World) : Post World Error α :=
  ⟨fun _ _ => True, fun _ after => after.removalFailed = true → after.sessions = start.sessions,
    fun _ => True⟩

namespace SessionService

variable {α : Type} {self : SessionService} {start world : World} {session : Session}

section Awake

/-- Any call but a removal. -/
theorem awake_invoke {call : Call} {works : World → Except Error (α × World)}
    (other : call.removes = false) : (self.invoke call works).Ensures awake world := by
  have records : ∀ (after : World) (applied returned : Bool),
      (after.record ⟨call, applied, returned⟩).removalFailed = false := by
    simp [other]
  cases answer : works world with
  | ok result =>
      exact ensures_invoke (.ok result.1) result.2 (by rw [answer]; rfl)
        (fun _ _ _ => records _ _ _) (fun _ _ _ _ => records _ _ _) fun _ => trivial
  | error error =>
      exact ensures_invoke (.error error) world (by rw [answer]; rfl)
        (fun _ _ _ => records _ _ _) (fun _ _ _ _ => records _ _ _) fun _ => trivial

theorem awake_ofExcept {result : Except Error α} (quiet : world.removalFailed = false) :
    (Program.ofExcept result : ServiceProgram α).Ensures awake world :=
  ensures_ofExcept.mpr ⟨fun _ _ => quiet, fun _ _ => quiet⟩

theorem awake_observe {call : Call} (answer : α) (other : call.removes = false) :
    (self.observe call answer).Ensures awake world :=
  ensures_observe (fun _ => by simp [awake, World.observe, other]) fun _ => trivial

theorem awake_bind {β : Type} {program : ServiceProgram β} {next : β → ServiceProgram α}
    (first : program.Ensures awake world)
    (rest : ∀ value after, after.removalFailed = false → (next value).Ensures awake after) :
    (program >>= next).Ensures awake world :=
  ensures_bind.mpr (first.mono rest (fun _ _ => id) fun _ => id)

theorem awake_replaceParticipant (session : Session) (participant : Participant)
    (state : SessionState) (append : Bool) (expiresAt : Option Time) :
    (self.replaceParticipant session participant state append expiresAt).Ensures awake world :=
  awake_bind (awake_observe _ rfl) fun _ _ _ => awake_bind (awake_invoke rfl) fun _ _ => id

/-- The handler reads the record after its clean-up, whose errors it swallows. -/
theorem awake_failStartup (current : Session) (participantId : UUID) (role : Role) (error : Error) :
    (self.failStartup (α := α) current participantId role error).Ensures awake world := by
  have silent : (self.cleanupFailedRuntime participantId).RaisesOnly fun _ => False :=
    raisesOnly_bind (raisesOnly_handled fun _ => raisesOnly_pure _) fun _ =>
      raisesOnly_handled fun _ => raisesOnly_pure _
  refine ensures_bind.mpr ((silent world).mono (fun _ _ _ => ?_) (fun _ _ => False.elim)
    fun _ => id)
  refine awake_bind (awake_invoke rfl) fun stored after quiet => ?_
  dsimp only
  split
  · exact quiet
  · refine awake_bind (awake_replaceParticipant _ _ _ _ _) fun _ later quiet => ?_
    exact ensures_ite.mpr ⟨fun _ => quiet, fun _ => quiet⟩

/-- A startup never raises right after a failed removal. -/
theorem awake_startParticipant {participant : Participant} {game : GameRecord}
    {core : CoreProfile} {role : Role} {host : Option UUID} (quiet : world.removalFailed = false) :
    (self.startParticipant session participant game core role host).Ensures awake world := by
  refine awake_bind (awake_ofExcept quiet) fun _ _ quiet =>
    awake_bind (awake_ofExcept quiet) fun _ _ quiet => ?_
  refine awake_bind (awake_replaceParticipant _ _ _ _ _) fun current _ quiet => ?_
  refine ensures_ite.mpr ⟨fun _ => ?_, fun _ => quiet⟩
  refine awake_bind (ensures_tryCatch.mpr ?_) fun created _ quiet => ?_
  · refine ensures_bind.mpr (ensures_of_forall (fun _ _ => ?_)
      (fun error after => awake_failStartup _ _ _ error) fun _ => trivial)
    refine ensures_bind.mpr (.mono (awake_replaceParticipant _ _ _ _ _) (fun _ _ => id)
      (fun error after _ => awake_failStartup _ _ _ error) fun _ => id)
  dsimp only
  refine awake_bind (ensures_tryCatch.mpr ?_) fun _ _ quiet => ?_
  · refine ensures_bind.mpr (ensures_of_forall (fun _ _ => ?_)
      (fun error after => awake_failStartup _ _ _ error) fun _ => trivial)
    have provided : ∀ id after, (self.streamProvision id 1).Ensures awake after :=
      fun _ _ => awake_invoke rfl
    refine ensures_bind.mpr ((provided _ _).mono (fun _ _ => id)
      (fun error after _ => awake_failStartup _ _ _ error) fun _ => id)
  refine awake_bind (awake_ofExcept quiet) fun _ _ quiet => ?_
  refine awake_bind (awake_observe _ rfl) fun now _ quiet => ?_
  exact awake_bind (awake_ofExcept quiet) fun _ _ _ => awake_replaceParticipant _ _ _ _ _

end Awake

/-! ## One attempt -/

/-- A program that stores nothing. -/
theorem unlessFailed_bind {β : Type} {program : ServiceProgram β}
    {next : β → ServiceProgram α} (kept : (World.storeKept false).Holds program fun _ => True)
    (same : world.sessions = start.sessions)
    (rest : ∀ value after, after.sessions = start.sessions →
      (next value).Ensures (unlessFailed start) after) :
    (program >>= next).Ensures (unlessFailed start) world :=
  ensures_bind.mpr ((kept.ensures world).mono
    (fun value after both => rest value after (both.1.sessions.trans same))
    (fun _ _ kept _ => kept.sessions.trans same) fun _ _ => trivial)

theorem unlessFailed_of_awake {program : ServiceProgram α}
    (ensures : program.Ensures awake world) : program.Ensures (unlessFailed start) world :=
  ensures.mono (fun _ _ _ => trivial)
    (fun _ _ quiet failed => by rw [quiet] at failed; cases failed) fun _ => id

/-- What a reading of `session` hands on: the record itself, with nothing stored
meanwhile, or a closed one in its place. -/
def Settled (start : World) (session value : Session) (after : World) : Prop :=
  after.removalFailed = false ∧
    (value = session ∧ after.sessions = start.sessions ∨
      value.state = .closed ∧ ∀ item ∈ value.participants, item.live = false)

theorem settled_closeSession (quiet : world.removalFailed = false)
    (same : world.sessions = start.sessions) (reason : String) :
    (self.closeSession session reason).Ensures
      ⟨Settled start session, (unlessFailed (α := Session) start).raised,
        fun _ => True⟩ world := by
  refine ensures_ite.mpr ⟨fun _ => ⟨quiet, .inl ⟨rfl, same⟩⟩, fun _ => ?_⟩
  refine ensures_bind.mpr (ensures_ofExcept.mpr ⟨fun _ _ => ?_, fun _ _ _ => same⟩)
  refine ensures_bind.mpr (ensures_clock (fun _ => ?_) fun _ => trivial)
  refine ensures_bind.mpr (((@storeKept_retireAll self false _).ensures _).mono ?_
    (fun _ _ kept _ => kept.sessions.trans same) fun _ _ => trivial)
  intro _ after ⟨kept, _⟩
  refine ensures_bind.mpr (ensures_ofExcept.mpr
    ⟨fun left accepted => ?_, fun _ _ _ => kept.sessions.trans same⟩)
  have ⟨retired, _⟩ := mapM_leftParticipant_ok accepted
  refine ensures_bind.mpr
    (.mono (awake_invoke rfl) (fun _ later quiet => ⟨quiet, .inr ⟨rfl, ?_⟩⟩)
    (fun _ _ quiet failed => ?_) fun _ => id)
  · intro item member
    have member : item ∈ left := member
    rw [retired] at member
    have ⟨entry, _, same⟩ := List.mem_map.mp member
    rw [← same, Participant.live, Update.retire_terminal]
    rfl
  · rw [quiet] at failed
    cases failed

theorem settled_expire (quiet : world.removalFailed = false)
    (same : world.sessions = start.sessions) :
    (self.expire session).Ensures
      ⟨Settled start session, (unlessFailed (α := Session) start).raised,
        fun _ => True⟩ world := by
  apply ensures_expire
  · exact fun _ => ⟨quiet, .inl ⟨rfl, same⟩⟩
  · exact fun _ _ _ => ⟨rfl, .inl ⟨rfl, same⟩⟩
  · intro _ _ _
    have same : (world.observe .clock).sessions = start.sessions := same
    exact settled_closeSession rfl same _
  · exact fun _ => trivial

/-- An operation that reads a session first. -/
theorem unlessFailed_required {sessionId : UUID} {next : Session → ServiceProgram α}
    (rest : ∀ session after, after.removalFailed = false → after.sessions = world.sessions →
      (next session).Ensures (unlessFailed world) after) :
    (self.required sessionId >>= next).Ensures (unlessFailed world) world := by
  refine ensures_bind.mpr (ensures_required ⟨fun _ => ?_, ?_, fun _ => trivial⟩)
  · cases world.get sessionId with
    | none => exact fun _ => rfl
    | some session => exact rest session _ rfl rfl
  · intro error applied _ _ _
    rw [ite_self]
    rfl

theorem unlessFailed_addressed {sessionId : UUID} {next : Session → ServiceProgram α}
    (rest : ∀ session value after, Settled world session value after →
      (next value).Ensures (unlessFailed world) after) :
    (do let session ← self.required sessionId
        let session ← self.expire session
        next session : ServiceProgram α).Ensures (unlessFailed world) world :=
  unlessFailed_required fun session _ quiet same =>
    ensures_bind.mpr ((settled_expire quiet same).mono (rest session) (fun _ _ => id) fun _ => id)

/-- Retiring one entry saves only after the removal. -/
theorem unlessFailed_dismiss {participant : Participant} (same : world.sessions = start.sessions) :
    (do self.retireRuntime participant.participantId
        let now ← self.clock
        let left ← Program.ofExcept (leftParticipant now participant)
        self.replaceParticipant session left session.state false none :
      ServiceProgram Session).Ensures (unlessFailed start) world := by
  refine unlessFailed_bind (storeKept_retireRuntime _) same fun _ _ same => ?_
  refine unlessFailed_bind (holds_ask fun _ => storeKept_observe _ rfl) same fun _ _ same => ?_
  refine ensures_bind.mpr (ensures_ofExcept.mpr ⟨fun _ _ => ?_, fun _ _ _ => same⟩)
  exact unlessFailed_of_awake (awake_replaceParticipant _ _ _ _ _)

theorem unlessFailed_get (sessionId : UUID) :
    (self.get sessionId).Ensures (unlessFailed world) world :=
  unlessFailed_required fun _ _ quiet same =>
    (settled_expire quiet same).mono (fun _ _ _ => trivial) (fun _ _ => id) fun _ => id

theorem unlessFailed_close (sessionId : UUID) (actor : Actor) :
    (self.close sessionId actor).Ensures (unlessFailed world) world := by
  refine unlessFailed_required fun session after quiet same => ?_
  refine ensures_ite.mpr ⟨fun _ _ => same, fun _ => ?_⟩
  exact (settled_closeSession quiet same _).mono (fun _ _ _ => trivial) (fun _ _ => id) fun _ => id

theorem unlessFailed_launch (sessionId : UUID) (actor : Actor) :
    (self.launch sessionId actor).Ensures (unlessFailed world) world := by
  refine unlessFailed_addressed fun session value after settled => unlessFailed_of_awake ?_
  dsimp only
  split
  · exact settled.1
  · split
    · exact settled.1
    · refine awake_bind (awake_invoke rfl) fun _ _ quiet => ?_
      exact ensures_ite.mpr ⟨fun _ => quiet, fun _ => quiet⟩

theorem unlessFailed_heartbeat (sessionId : UUID) (actor : Actor) :
    (self.heartbeat sessionId actor).Ensures (unlessFailed world) world := by
  refine unlessFailed_addressed fun session value after settled => unlessFailed_of_awake ?_
  split
  · exact settled.1
  · exact awake_bind (awake_observe _ rfl) fun _ _ _ => awake_replaceParticipant _ _ _ _ _

/-- Raising without a call after a reading leaves no failed removal behind. -/
theorem unlessFailed_throw {error : Error} {value : Session}
    (settled : Settled start session value world) :
    (throw error : ServiceProgram α).Ensures (unlessFailed start) world := by
  intro failed
  rw [settled.1] at failed
  cases failed

/-- A live participant is found in the record itself only. -/
theorem Settled.same {value : Session} {item : Participant}
    (settled : Settled start session value world) (member : item ∈ value.participants)
    (live : item.live = true) : world.sessions = start.sessions := by
  rcases settled.2 with ⟨_, same⟩ | ⟨_, ended⟩
  · exact same
  · rw [ended item member] at live
    cases live

theorem unlessFailed_leave (sessionId : UUID) (actor : Actor) :
    (self.leave sessionId actor).Ensures (unlessFailed world) world := by
  refine unlessFailed_addressed fun session value after settled => ?_
  cases found : liveOf value actor.userId with
  | none => exact ensures_ite.mpr ⟨fun _ => trivial, fun _ => unlessFailed_throw settled⟩
  | some matching =>
      refine ensures_ite.mpr ⟨fun _ => trivial, fun _ => ?_⟩
      have ⟨member, _, live⟩ := Request.liveOf_some found
      exact unlessFailed_dismiss (settled.same member live)

theorem unlessFailed_kick (sessionId participantId : UUID) (actor : Actor) :
    (self.kick sessionId actor participantId).Ensures (unlessFailed world) world := by
  refine unlessFailed_addressed fun session value after settled => ?_
  refine ensures_ite.mpr ⟨fun _ => unlessFailed_throw settled, fun _ => ?_⟩
  cases found : value.participants.find? fun item => item.participantId = participantId with
  | none => exact unlessFailed_throw settled
  | some participant =>
      refine ensures_ite.mpr ⟨fun _ => unlessFailed_throw settled, fun _ => ?_⟩
      refine ensures_ite.mpr ⟨fun _ => trivial, fun live => ?_⟩
      exact unlessFailed_dismiss (settled.same (List.mem_of_find?_eq_some found)
        (by simpa [Participant.live] using live))

/-- A join begins to store where the lobby is open, and from then on raises after
other calls only. -/
theorem unlessFailed_join (sessionId : UUID) (actor : Actor) :
    (self.join sessionId actor).Ensures (unlessFailed world) world := by
  refine unlessFailed_addressed fun session value after settled => ?_
  refine ensures_ite.mpr ⟨fun _ => trivial, fun _ => ?_⟩
  refine ensures_ite.mpr ⟨fun _ => unlessFailed_throw settled, fun opened => ?_⟩
  refine ensures_ite.mpr ⟨fun _ => unlessFailed_throw settled, fun _ => ?_⟩
  rcases settled.2 with ⟨_, same⟩ | ⟨closed, _⟩
  swap
  · rw [closed] at opened
    exact absurd (by simp) opened
  refine unlessFailed_bind (storeKept_requireUserRuntimeCapacity _) same fun _ _ same => ?_
  refine unlessFailed_bind storeKept_requireRuntimeCapacity same fun _ _ same => ?_
  refine unlessFailed_bind (storeKept_resolve _) same fun ⟨game, core⟩ _ same => ?_
  refine ensures_ite.mpr ⟨fun _ _ => same, fun _ => ?_⟩
  cases freeSlot value with
  | none => exact fun _ => same
  | some slot =>
      refine ensures_bind.mpr (ensures_pure.mpr ?_)
      refine ensures_bind.mpr (ensures_clock (fun _ => ?_) fun _ => trivial)
      refine ensures_bind.mpr (ensures_uuid4 (fun _ _ => ?_) fun _ => trivial)
      refine ensures_ite.mpr ⟨fun _ => ?_, fun _ _ => same⟩
      refine unlessFailed_of_awake (awake_bind (awake_replaceParticipant _ _ _ _ _) ?_)
      intro updated later quiet
      cases hostOf value with
      | none => exact quiet
      | some host => exact ensures_bind.mpr (ensures_pure.mpr (awake_startParticipant quiet))

/-- The sweep closes a session that is due. -/
theorem unlessFailed_sweepDue
    (due : self.due session (self.dependencies.clock world.history.length) = true) :
    (self.sweepSession session).Ensures (unlessFailed world) world := by
  refine ensures_ite.mpr ⟨fun _ => trivial, fun _ => ?_⟩
  refine ensures_bind.mpr (ensures_clock (fun _ => ?_) fun _ => trivial)
  have closes : (self.closeSession session "expired").Ensures
      ⟨Settled world session, (unlessFailed (α := Session) world).raised, fun _ => True⟩
      (world.observe .clock) := settled_closeSession rfl rfl _
  refine ensures_ite.mpr ⟨fun _ => ?_, fun early => absurd due early⟩
  exact ensures_bind.mpr (closes.mono (fun _ _ _ => trivial) (fun _ _ => id) fun _ => id)

end SessionService

end RetroBrowser.SessionManager
