import RetroBrowser.SessionManager.Services.Raises
import RetroBrowser.SessionManager.Services.Working

/-!
Owns repeated lobby operations. A user's earlier entries in a lobby stay in its
list, so a second call must not pick another entry than the first. Contract: of
two live entries of one user the earlier never finished its startup, in every
world of every run; so join, leave, kick and close, called again before the
lease ends, return the same record and change nothing.
-/

namespace RetroBrowser.SessionManager

open RetroBrowser.Foundation ActionSystem Program

/-! ## Entries of one user -/

/-- Of two live entries of one user, the earlier never finished its startup. -/
def Participant.Yields (earlier later : Participant) : Prop :=
  earlier.userId = later.userId → earlier.live = true → later.live = true →
    earlier.state.halfStarted = true

/-- As `Yields`, and the earlier entry is no new one. -/
def Participant.Precedes (issued : List UUID) (earlier later : Participant) : Prop :=
  earlier.participantId ∈ issued ∧ earlier.Yields later

/-- The entries of all stored sessions, in their order. -/
def World.Ordered (relation : Participant → Participant → Prop) (world : World) : Prop :=
  ∀ session ∈ world.sessions, session.participants.Pairwise relation

section Invariant

variable {configuration : Configuration} {request : Request} {start world : World}
variable {session : Session} {update : Update}

/-- A change revives no entry. -/
theorem Update.Enabled.live_of_revise (enabled : update.Enabled configuration world session)
    (distinct : (session.participants.map Participant.participantId).Nodup) {updatedAt : Time}
    {item : Participant} (member : item ∈ session.participants)
    (live : (update.revise updatedAt item).live = true) : item.live = true := by
  by_contra dead
  have terminal : item.state.terminal = true := by simpa [Participant.live] using dead
  rw [(enabled.revise_conforms distinct updatedAt member).final terminal] at live
  exact dead live

/-- A startup goes on unless its entry fails, is closed or becomes active. -/
theorem Update.Enabled.halfStarted_revise (enabled : update.Enabled configuration world session)
    (distinct : (session.participants.map Participant.participantId).Nodup) {updatedAt : Time}
    {item : Participant} (member : item ∈ session.participants)
    (half : item.state.halfStarted = true) (live : (update.revise updatedAt item).live = true) :
    (update.revise updatedAt item).state.halfStarted = true ∨
      ∃ activeAt expiresAt, update = .active item activeAt expiresAt := by
  cases update with
  | joined participant => exact Or.inl half
  | closed reason =>
      by_cases ended : item.state.terminal = true
      · rw [Update.revise, Update.retire, if_pos ended]
        exact Or.inl half
      · rw [Update.revise, Update.retire, if_neg ended] at live
        cases live
  | active participant activeAt expiresAt =>
      by_cases same : item.participantId = participant.participantId
      · exact Or.inr ⟨activeAt, expiresAt, by rw [eq_of_key distinct member enabled.1 same]⟩
      · left
        simp only [Update.revise, Update.put]
        rw [if_neg same]
        exact half
  | starting participant | running participant _ | renewed participant _ _ =>
      left
      simp only [Update.revise, Update.put]
      split
      · rename_i same
        rw [eq_of_key distinct member enabled.1 same] at half
        first | rfl | exact half
      · exact half
  | failed participant _ | left participant _ | faulted participant _ =>
      left
      simp only [Update.revise, Update.put] at live ⊢
      split at live
      · simp [Participant.live, ParticipantState.terminal] at live
      · rename_i other
        rw [if_neg other]
        exact half

/-- A change keeps the order of a session's entries. -/
theorem Update.Enabled.ordered (enabled : update.Enabled configuration world session)
    (coherent : session.Coherent world.history) (updatedAt : Time)
    (saves : request.Saves configuration start world session update)
    (stored : session ∈ world.sessions) (began : Coherent start)
    (ordered : session.participants.Pairwise (Participant.Precedes start.issued)) :
    (update.result session updatedAt).participants.Pairwise
      (Participant.Precedes start.issued) := by
  rw [Update.result_participants]
  have revised : (session.participants.map (update.revise updatedAt)).Pairwise
      (Participant.Precedes start.issued) := by
    rw [List.pairwise_map]
    refine ordered.imp_of_mem fun {earlier later} earlierMember laterMember precedes => ?_
    have same := (enabled.revise_conforms coherent.ids updatedAt earlierMember).toSameIdentity
    have same' := (enabled.revise_conforms coherent.ids updatedAt laterMember).toSameIdentity
    constructor
    · rw [same.participantId]
      exact precedes.1
    · intro user live live'
      have half := precedes.2 (by rw [← same.userId, ← same'.userId, user])
        (enabled.live_of_revise coherent.ids earlierMember live)
        (enabled.live_of_revise coherent.ids laterMember live')
      rcases enabled.halfStarted_revise coherent.ids earlierMember half live with going | active
      · exact going
      · obtain ⟨activeAt, expiresAt, rfl⟩ := active
        -- Only the entry that the request itself appended becomes active.
        cases saves with
        | active _ _ _ _ fresh => exact absurd precedes.1 fresh
  cases update with
  | joined participant =>
      refine List.pairwise_append.mpr ⟨revised, List.pairwise_singleton _ _, ?_⟩
      intro earlier member later last
      rw [Update.appended, List.mem_singleton] at last
      rw [Update.revise, List.map_id] at member
      cases saves with
      | joined _ actor game core operation admitted same sessions =>
          refine ⟨began.issued session (sessions ▸ stored) earlier member,
            fun user live _ => ?_⟩
          rcases coherent.shape.classify member with half | active | terminal
          · exact half
          · have alone := enabled.2.2.2.2.2.2.2.1
            simp only [SessionService.activeIn, List.any_eq_false, decide_eq_true_eq] at alone
            exact absurd ⟨last ▸ user, active⟩ (alone earlier member)
          · simp [Participant.live, terminal] at live
  | _ => simpa [Update.appended] using revised

/-- What a request may do to the stored entries keeps their order. -/
theorem World.Ordered.apply (began : Coherent start) (coherent : Coherent world) {action : Action}
    (permitted : request.Permits configuration start world action)
    (enabled : action.Enabled configuration world)
    (ordered : world.Ordered (Participant.Precedes start.issued)) :
    (action.apply world).Ordered (Participant.Precedes start.issued) := by
  cases action with
  | added session owner applied returned =>
      cases applied with
      | false => exact ordered
      | true =>
          intro current member
          rcases List.mem_append.mp member with stored | added
          · exact ordered current stored
          · have opens : Action.Opens configuration world session owner := enabled
            rw [List.mem_singleton.mp added, opens.participants]
            exact List.pairwise_singleton _ _
  | saved session update updatedAt applied returned =>
      cases applied with
      | false => exact ordered
      | true =>
          intro current member
          rcases InMemorySessionRepository.mem_overwrite member with rfl | ⟨kept, -⟩
          · have stored := (InMemorySessionRepository.get_mem enabled.1).1
            exact enabled.2.ordered (coherent.sessions session stored) updatedAt permitted.2 stored
              began (ordered session stored)
          · exact ordered current kept
  | created _ _ _ applied _ | removed _ applied _ => cases applied <;> exact ordered
  | observed _ | drew _ | provisioned _ _ _ _ | revoked _ _ _ => exact ordered

/-- At the start of a request no entry is new to it. -/
theorem World.Ordered.begin (began : Coherent start) (ordered : start.Ordered Participant.Yields) :
    start.Ordered (Participant.Precedes start.issued) := by
  intro session stored
  refine (ordered session stored).imp_of_mem fun earlierMember _ yields => ⟨?_, yields⟩
  exact began.issued session stored _ earlierMember

theorem ReachableBy.ordered {admissible : World → Request → Prop}
    (reached : ReachableBy configuration admissible world) : world.Ordered Participant.Yields := by
  induction reached with
  | empty => simp [World.Ordered, World.empty]
  | @request start before request allowed inductionHypothesis =>
      have kept : (request.after configuration start).Ordered
          (Participant.Precedes start.issued) := (Request.path_after before.coherent).keeps
        (fun later => later.Ordered (Participant.Precedes start.issued)) before.coherent
        (fun _ _ coherent permitted enabled ordered =>
          World.Ordered.apply before.coherent coherent permitted enabled ordered)
        (World.Ordered.begin before.coherent inductionHypothesis)
      exact fun session stored => (kept session stored).imp And.right

/-- Once the first live entry of a user is past its startup, it is the only one. -/
theorem SessionService.liveOf_unique {session : Session} {userId : String} {matching : Participant}
    (ordered : session.participants.Pairwise Participant.Yields)
    (found : SessionService.liveOf session userId = some matching)
    (past : matching.state.halfStarted = false) :
    ∀ item ∈ session.participants, item.userId = userId → item.live = true →
      item = matching := by
  have ⟨meets, earlier, later, split, before⟩ := List.find?_eq_some_iff_append.mp found
  have meets : matching.userId = userId ∧ matching.live = true := by simpa using meets
  intro item member user live
  rw [split] at member ordered
  rcases List.mem_append.mp member with first | rest
  · have none := before item first
    simp [user, live] at none
  · rcases List.mem_cons.mp rest with same | after
    · exact same
    · have yields := List.rel_of_pairwise_cons (List.pairwise_append.mp ordered).2.1 after
      have half := yields (meets.1.trans user.symm) meets.2 live
      rw [past] at half
      cases half

end Invariant

/-! ## What a returned record says about the next call -/

/-- The operation, called again on this record, finds nothing left to do. -/
def Operation.Repeats (session : Session) : Operation → Prop
  | .join sessionId actor =>
      session.sessionId = sessionId ∧ SessionService.activeIn session actor.userId = true
  | .leave sessionId actor => session.sessionId = sessionId ∧
      (SessionService.liveOf session actor.userId = none ∧
          (session.participants.any fun item => item.userId = actor.userId) = true ∨
        session.state = .closed ∧ SessionService.liveOf session actor.userId ≠ none)
  | .kick sessionId actor participantId => session.sessionId = sessionId ∧
      session.ownerUserId = actor.userId ∧ ∃ item,
        (session.participants.find? fun item => item.participantId = participantId) = some item ∧
          item.userId ≠ session.ownerUserId ∧ item.state.terminal = true
  | .close sessionId actor => session.sessionId = sessionId ∧
      session.ownerUserId = actor.userId ∧ session.state = .closed
  | _ => False

namespace SessionService

variable {self : SessionService} {world : World} {session : Session}

/-- A replaced entry is in the stored record. -/
theorem mem_replaced {participant : Participant} {state : SessionState} {expiresAt : Option Time}
    {updatedAt : Time}
    (entry : ∃ item ∈ session.participants, item.participantId = participant.participantId) :
    participant ∈
      (replacement session participant state false expiresAt updatedAt).participants := by
  obtain ⟨item, member, same⟩ := entry
  exact List.mem_map.mpr ⟨item, member, if_pos same⟩

/-- Looking up a replaced entry finds its replacement. -/
theorem find_replaced {participant : Participant} {state : SessionState}
    {expiresAt : Option Time} {updatedAt : Time}
    (entry : ∃ item ∈ session.participants, item.participantId = participant.participantId) :
    ((replacement session participant state false expiresAt updatedAt).participants.find?
        fun item => item.participantId = participant.participantId) = some participant := by
  have found : ∀ items : List Participant,
      (∃ item ∈ items, item.participantId = participant.participantId) →
      ((items.map fun item =>
          if item.participantId = participant.participantId then participant else item).find?
        fun item => item.participantId = participant.participantId) = some participant := by
    intro items entry
    induction items with
    | nil => simp at entry
    | cons head tail inductionHypothesis =>
        rw [List.map_cons]
        by_cases first : head.participantId = participant.participantId
        · rw [if_pos first, List.find?_cons_of_pos]
          simp
        · rw [if_neg first, List.find?_cons_of_neg (by simpa using first)]
          apply inductionHypothesis
          simpa [first] using entry
  exact found session.participants entry

/-- After its only live entry left, a user has none. -/
theorem liveOf_left {userId : String} {matching left : Participant} {now updatedAt : Time}
    {state : SessionState} {expiresAt : Option Time}
    (ordered : session.participants.Pairwise Participant.Yields)
    (found : liveOf session userId = some matching)
    (accepted : leftParticipant now matching = .ok left) :
    liveOf (replacement session left state false expiresAt updatedAt) userId = none ∧
      ((replacement session left state false expiresAt updatedAt).participants.any
        fun item => item.userId = userId) = true := by
  have ⟨same, wasActive⟩ := leftParticipant_ok accepted
  have meets : matching.userId = userId ∧ matching.live = true := by
    simpa using List.find?_some found
  have past : matching.state.halfStarted = false := by
    rw [wasActive meets.2]
    rfl
  have leftId : left.participantId = matching.participantId := by
    rw [same, Update.retire]
    split <;> rfl
  have leftUser : left.userId = userId := by
    rw [same, Update.retire]
    split <;> exact meets.1
  have gone : left.live = false := by
    simp [Participant.live, same, Update.retire_terminal]
  constructor
  · apply List.find?_eq_none.mpr
    intro item member
    obtain ⟨before, stored, revised⟩ := List.mem_map.mp member
    split at revised
    · rw [← revised]
      simp [gone]
    · rename_i other
      rw [← revised]
      intro meets'
      have meets' : before.userId = userId ∧ before.live = true := by simpa using meets'
      have only := liveOf_unique ordered found past before stored meets'.1 meets'.2
      exact other (by rw [only, leftId])
  · apply List.any_eq_true.mpr
    refine ⟨left, mem_replaced ⟨matching, List.mem_of_find?_eq_some found, leftId.symm⟩, ?_⟩
    simpa using leftUser

/-! ## First calls -/

/-- The record an operation returned is the stored one, and repeats it. -/
def Leaves (operation : Operation) (sessionId : UUID) (value : Session) (after : World) : Prop :=
  after.get sessionId = some value ∧ operation.Repeats value

/-- What the first two calls of most operations find. -/
theorem leaves_addressed {operation : Operation} {sessionId : UUID}
    {next : Session → ServiceProgram Session}
    (rest : ∀ session value after, world.get sessionId = some session →
      after.get sessionId = some value → value.sessionId = sessionId →
      (value = session ∨ value.state = .closed) →
      (next value).Ensures (onReturn (Leaves operation sessionId)) after) :
    (self.required sessionId >>= fun session => self.expire session >>= next).Ensures
      (onReturn (Leaves operation sessionId)) world := by
  refine ensures_bind.mpr
    (ensures_required ⟨fun _ => ?_, fun _ _ _ _ => trivial, fun _ => trivial⟩)
  cases found : world.get sessionId with
  | none => trivial
  | some session =>
      have same := (InMemorySessionRepository.get_mem found).2
      subst same
      have stored : (world.observe (.repositoryGet session.sessionId)).get session.sessionId =
          some session := found
      refine ensures_bind.mpr (.mono (expire_stores stored) ?_ (fun _ _ => id) fun _ => id)
      intro value after ⟨kept, expired⟩
      have sameId := (InMemorySessionRepository.get_mem kept).2
      exact rest session value after found kept sameId (expired.imp_right fun closed => closed.2.2)

theorem close_leaves (sessionId : UUID) (actor : Actor) :
    (self.close sessionId actor).Ensures
      (onReturn (Leaves (.close sessionId actor) sessionId)) world := by
  refine ensures_bind.mpr
    (ensures_required ⟨fun _ => ?_, fun _ _ _ _ => trivial, fun _ => trivial⟩)
  cases found : world.get sessionId with
  | none => trivial
  | some session =>
      have same := (InMemorySessionRepository.get_mem found).2
      subst same
      have stored : (world.observe (.repositoryGet session.sessionId)).get session.sessionId =
          some session := found
      refine ensures_ite.mpr ⟨fun _ => trivial, fun owns => ?_⟩
      refine (closeSession_stores stored _).mono ?_ (fun _ _ => id) fun _ => id
      intro value after ⟨kept, sameId, owner, closed⟩
      exact ⟨kept, sameId, owner.trans (not_not.mp owns), closed⟩

/-- Calls whose outcome does not matter for what follows. -/
theorem onReturn_bind {α β : Type} {program : ServiceProgram α} {next : α → ServiceProgram β}
    {returned : β → World → Prop}
    (rest : ∀ value after, (next value).Ensures (onReturn returned) after) :
    (program >>= next).Ensures (onReturn returned) world :=
  ensures_bind.mpr (ensures_of_forall rest (fun _ _ => trivial) fun _ => trivial)

theorem kick_leaves (sessionId : UUID) (actor : Actor) (participantId : UUID) :
    (self.kick sessionId actor participantId).Ensures
      (onReturn (Leaves (.kick sessionId actor participantId) sessionId)) world := by
  apply leaves_addressed
  intro _ session after _ kept sameId _
  refine ensures_ite.mpr ⟨fun _ => trivial, fun owns => ?_⟩
  have owner := not_not.mp owns
  cases found : session.participants.find? fun item => item.participantId = participantId with
  | none => trivial
  | some participant =>
      refine ensures_ite.mpr ⟨fun _ => trivial, fun guest => ?_⟩
      refine ensures_ite.mpr ⟨fun final => ?_, fun live => ?_⟩
      · exact ⟨kept, sameId, owner, participant, found, guest, final⟩
      · apply onReturn_bind
        intro _ _
        apply onReturn_bind
        intro now _
        refine ensures_bind.mpr
          (ensures_ofExcept.mpr ⟨fun left accepted => ?_, fun _ _ => trivial⟩)
        refine (replaceParticipant_stores _ _ _ _ _).mono ?_ (fun _ _ => id) fun _ => id
        intro updated later ⟨stored, updatedAt, same⟩
        subst same sameId
        have retired := (leftParticipant_ok accepted).1
        have sameParticipant : left.participantId = participantId := by
          have meets : participant.participantId = participantId := by
            simpa using List.find?_some found
          rw [retired, Update.retire]
          split <;> exact meets
        have sameUser : left.userId = participant.userId := by
          rw [retired, Update.retire]
          split <;> rfl
        subst sameParticipant
        refine ⟨stored, rfl, owner, left, find_replaced ?_, ?_, ?_⟩
        · exact ⟨participant, List.mem_of_find?_eq_some found, by
            simpa using List.find?_some found⟩
        · rw [sameUser]
          exact guest
        · rw [retired]
          exact Update.retire_terminal now participant

theorem leave_leaves (ordered : world.Ordered Participant.Yields) (sessionId : UUID)
    (actor : Actor) : (self.leave sessionId actor).Ensures
      (onReturn (Leaves (.leave sessionId actor) sessionId)) world := by
  apply leaves_addressed
  intro before session after stored kept sameId expired
  cases found : liveOf session actor.userId with
  | none =>
      refine ensures_ite.mpr ⟨fun known => ?_, fun _ => trivial⟩
      exact ⟨kept, sameId, .inl ⟨found, known⟩⟩
  | some matching =>
      refine ensures_ite.mpr ⟨fun closed => ?_, fun live => ?_⟩
      · exact ⟨kept, sameId, .inr ⟨closed, by simp [found]⟩⟩
      · have unchanged : session = before := expired.resolve_right live
        apply onReturn_bind
        intro _ _
        apply onReturn_bind
        intro now _
        refine ensures_bind.mpr
          (ensures_ofExcept.mpr ⟨fun left accepted => ?_, fun _ _ => trivial⟩)
        refine (replaceParticipant_stores _ _ _ _ _).mono ?_ (fun _ _ => id) fun _ => id
        intro updated later ⟨saved, updatedAt, same⟩
        subst same sameId unchanged
        have inOrder := ordered session (InMemorySessionRepository.get_mem stored).1
        exact ⟨saved, rfl, .inl (liveOf_left inOrder found accepted)⟩

/-- The first guarded block hands on the entry it names the runtime of. -/
theorem createRuntime_leaves {current : Session} {participant : Participant}
    {request : RuntimeRequest}
    (entry : ∃ item ∈ current.participants, item.participantId = participant.participantId) :
    (self.createRuntime current participant request).Ensures
      (onReturn fun result _ => result.2.2.sessionId = current.sessionId ∧
        result.2.1.participantId = participant.participantId ∧
        result.2.1.userId = participant.userId ∧
        ∃ item ∈ result.2.2.participants, item.participantId = participant.participantId)
          world := by
  apply onReturn_bind
  intro handle _
  refine ensures_bind.mpr (.mono (replaceParticipant_stores _ _ _ _ _) ?_ (fun _ _ => id)
    fun _ => id)
  intro updated _ ⟨_, updatedAt, same⟩
  subst same
  exact ⟨rfl, rfl, rfl, _, mem_replaced entry, rfl⟩

/-- The handler of a failed startup never returns. -/
theorem failStartup_raises {α : Type} {returned : α → World → Prop} (current : Session)
    (participantId : UUID) (role : Role) (error : Error) :
    (self.failStartup current participantId role error).Ensures (onReturn returned) world := by
  apply onReturn_bind
  intro _ _
  apply onReturn_bind
  intro stored _
  dsimp only
  cases (stored.getD current).participants.find? fun item => item.participantId = participantId with
  | none => trivial
  | some item =>
      apply onReturn_bind
      intro _ _
      exact ensures_ite.mpr ⟨fun _ => trivial, fun _ => trivial⟩

/-- A startup that returns leaves its participant active in the stored record. -/
theorem startParticipant_leaves {session : Session} {participant : Participant}
    {game : GameRecord} {core : CoreProfile} {role : Role} {host : Option UUID}
    (entry : ∃ item ∈ session.participants, item.participantId = participant.participantId) :
    (self.startParticipant session participant game core role host).Ensures
      (onReturn fun value after => after.get session.sessionId = some value ∧
        value.sessionId = session.sessionId ∧ activeIn value participant.userId = true)
          world := by
  apply onReturn_bind
  intro _ _
  apply onReturn_bind
  intro _ _
  refine ensures_bind.mpr (.mono (replaceParticipant_stores _ _ _ _ _) ?_ (fun _ _ => id)
    fun _ => id)
  intro current after ⟨_, updatedAt, same⟩
  have entry' : ∃ item ∈ current.participants, item.participantId = participant.participantId :=
    same ▸ mem_replacement (.inr entry)
  have sameId : current.sessionId = session.sessionId := by rw [same]; rfl
  refine ensures_ite.mpr ⟨fun _ => ?_, fun _ => trivial⟩
  refine ensures_bind.mpr (ensures_tryCatch.mpr (.mono (createRuntime_leaves entry') ?_
    (fun error _ _ => failStartup_raises _ _ _ error) fun _ => id))
  intro ⟨handle, withRuntime, current'⟩ _ ⟨sameId', sameEntry, user, entry''⟩
  apply onReturn_bind
  intro _ _
  apply onReturn_bind
  intro _ _
  apply onReturn_bind
  intro activeAt _
  apply onReturn_bind
  intro _ _
  refine (replaceParticipant_stores _ _ _ _ _).mono ?_ (fun _ _ => id) fun _ => id
  intro updated later ⟨stored, savedAt, saved⟩
  have sameUpdated : updated.sessionId = current'.sessionId := by rw [saved]; rfl
  have origin : current'.sessionId = session.sessionId := sameId'.trans sameId
  refine ⟨origin ▸ stored, sameUpdated.trans origin, ?_⟩
  apply List.any_eq_true.mpr
  rw [saved]
  refine ⟨_, mem_replaced ?_, ?_⟩
  · obtain ⟨item, member, same⟩ := entry''
    exact ⟨item, member, same.trans sameEntry.symm⟩
  · simpa using user

theorem join_leaves (sessionId : UUID) (actor : Actor) :
    (self.join sessionId actor).Ensures
      (onReturn (Leaves (.join sessionId actor) sessionId)) world := by
  apply leaves_addressed
  intro _ session after _ kept sameId _
  refine ensures_ite.mpr ⟨fun active => ⟨kept, sameId, active⟩, fun _ => ?_⟩
  refine ensures_ite.mpr ⟨fun _ => trivial, fun _ => ?_⟩
  refine ensures_ite.mpr ⟨fun _ => trivial, fun _ => ?_⟩
  apply onReturn_bind
  intro _ _
  apply onReturn_bind
  intro _ _
  apply onReturn_bind
  intro ⟨game, core⟩ _
  refine ensures_ite.mpr ⟨fun _ => trivial, fun _ => ?_⟩
  apply onReturn_bind
  intro slot _
  apply onReturn_bind
  intro now _
  apply onReturn_bind
  intro participantId _
  refine ensures_ite.mpr ⟨fun _ => ?_, fun _ => trivial⟩
  refine ensures_bind.mpr (.mono (replaceParticipant_stores _ _ _ _ _) ?_ (fun _ _ => id)
    fun _ => id)
  intro updated _ ⟨_, updatedAt, same⟩
  apply onReturn_bind
  intro host _
  have sameUpdated : updated.sessionId = sessionId := by rw [same]; exact sameId
  refine (startParticipant_leaves ?_).mono ?_ (fun _ _ => id) fun _ => id
  · rw [same]
    exact mem_replacement (.inl ⟨rfl, rfl⟩)
  · intro value later ⟨stored, sameValue, active⟩
    exact ⟨sameUpdated ▸ stored, sameValue.trans sameUpdated, active⟩

end SessionService

/-- The operations of a lobby that its members repeat. -/
def Operation.lobbyId : Operation → Option UUID
  | .join sessionId _ | .leave sessionId _ | .kick sessionId _ _ | .close sessionId _ =>
      some sessionId
  | _ => none

/-- A lobby operation that returned has left a record that repeats it. -/
theorem Operation.leaves {configuration : Configuration} {world : World} {operation : Operation}
    {dependencies : Dependencies} {sessionId : UUID} {session : Session}
    (reached : Reachable configuration world) (lobby : operation.lobbyId = some sessionId)
    (returned : ((Request.mk operation dependencies).run configuration world).1 =
      .returned (.session session)) :
    SessionService.Leaves operation sessionId session
      ((Request.mk operation dependencies).after configuration world) := by
  have leaves : ((operation.program ⟨configuration, dependencies⟩).Ensures
      (onReturn fun reply after => ∀ session, reply = .session session →
        SessionService.Leaves operation sessionId session after) world) := by
    cases operation with
    | join _ actor =>
        cases lobby
        exact ensures_map.mpr ((SessionService.join_leaves _ actor).mono
          (fun _ _ leaves _ same => Reply.session.inj same ▸ leaves) (fun _ _ => id) fun _ => id)
    | leave _ actor =>
        cases lobby
        exact ensures_map.mpr ((SessionService.leave_leaves reached.ordered _ actor).mono
          (fun _ _ leaves _ same => Reply.session.inj same ▸ leaves) (fun _ _ => id) fun _ => id)
    | kick _ actor participantId =>
        cases lobby
        exact ensures_map.mpr ((SessionService.kick_leaves _ actor participantId).mono
          (fun _ _ leaves _ same => Reply.session.inj same ▸ leaves) (fun _ _ => id) fun _ => id)
    | close _ actor =>
        cases lobby
        exact ensures_map.mpr ((SessionService.close_leaves _ actor).mono
          (fun _ _ leaves _ same => Reply.session.inj same ▸ leaves) (fun _ _ => id) fun _ => id)
    | create _ _ | discover | get _ | launch _ _ | heartbeat _ _ | sweep | reconcileStartup =>
        cases lobby
  exact leaves.ofReturned returned session rfl

/-! ## Second calls -/

/-- Nothing was stored and no provider was called; the record and the clock were read at most. -/
structure World.OnlyReads (before after : World) : Prop where
  sessions : after.sessions = before.sessions
  runtimes : after.runtimes = before.runtimes
  issued : after.issued = before.issued
  calls : ∃ calls, after.history = calls ++ before.history ∧
    ∀ event ∈ calls, event.call = .clock ∨ ∃ sessionId, event.call =
      .repositoryGet sessionId

theorem World.OnlyReads.get (world : World) (sessionId : UUID) :
    world.OnlyReads (world.observe (.repositoryGet sessionId)) :=
  ⟨rfl, rfl, rfl, [⟨.repositoryGet sessionId, true, true⟩], rfl, by simp⟩

theorem World.OnlyReads.getClock (world : World) (sessionId : UUID) :
    world.OnlyReads ((world.observe (.repositoryGet sessionId)).observe .clock) :=
  ⟨rfl, rfl, rfl, [⟨.clock, true, true⟩, ⟨.repositoryGet sessionId, true, true⟩],
    rfl, by simp⟩

/-- The program returns this record, and all that happened since `start` is reading. -/
def againPost (start : World) (value : Session) : Post World Error Session :=
  ⟨fun result after => result = value ∧ start.OnlyReads after, fun _ _ =>
    False, fun _ => False⟩

namespace SessionService

variable {self : SessionService} {world : World} {value : Session} {sessionId : UUID}

section Again

variable (reliable : self.dependencies.Reliable)
  (stored : world.get sessionId = some value)

include reliable stored

theorem required_again {post : Post World Error Session}
    (rest : post.returned value (world.observe (.repositoryGet sessionId))) :
    (self.required sessionId).Ensures post world := by
  apply ensures_required
  constructor
  · intro _
    rw [stored]
    exact rest
  · intro error applied _ plan
    rw [reliable.stores _ _ rfl] at plan
    cases plan
  · intro stops
    rw [reliable.running] at stops
    cases stops

/-- The lease is checked again, and nothing expires. -/
theorem again_addressed {next : Session → ServiceProgram Session}
    (inTime : value.state = .closed ∨
      self.dependencies.clock (world.history.length + 1) < value.expiresAt)
    (rest : ∀ after, world.OnlyReads after →
      (next value).Ensures (againPost world value) after) :
    (self.required sessionId >>= fun session => self.expire session >>= next).Ensures
      (againPost world value) world := by
  refine ensures_bind.mpr (required_again reliable stored ?_)
  refine ensures_bind.mpr (ensures_expire ?_ ?_ ?_ ?_)
  · exact fun _ => rest _ (.get world sessionId)
  · exact fun _ _ _ => rest _ (.getClock world sessionId)
  · intro live _ elapsed
    exact absurd elapsed (not_le.mpr (inTime.resolve_left live))
  · intro stops
    rw [reliable.running] at stops
    cases stops

end Again

end SessionService

/-- A repeated call returns the record it finds. -/
theorem Operation.again {configuration : Configuration} {world : World} {operation : Operation}
    {dependencies : Dependencies} {sessionId : UUID} {session : Session}
    (reliable : dependencies.Reliable) (lobby : operation.lobbyId = some sessionId)
    (leaves : SessionService.Leaves operation sessionId session world)
    (inTime : session.state = .closed ∨
      dependencies.clock (world.history.length + 1) < session.expiresAt) :
    (operation.program ⟨configuration, dependencies⟩).Ensures
      ⟨fun reply after => reply = .session session ∧ world.OnlyReads after, fun _ _ => False,
        fun _ => False⟩ world := by
  obtain ⟨stored, repeats⟩ := leaves
  have lift : ∀ {program : ServiceProgram Session}, program.Ensures
    (againPost world session) world →
      (Reply.session <$> program).Ensures ⟨fun reply after => reply = .session session ∧
        world.OnlyReads after, fun _ _ => False, fun _ => False⟩ world := by
    intro program again
    exact ensures_map.mpr (again.mono (fun _ _ both => ⟨congrArg _ both.1, both.2⟩)
      (fun _ _ => id) fun _ => id)
  cases operation with
  | join _ actor =>
      cases lobby
      apply lift
      apply SessionService.again_addressed reliable stored inTime
      intro after only
      exact ensures_ite.mpr ⟨fun _ => ⟨rfl, only⟩, fun inactive =>
        absurd repeats.2 inactive⟩
  | leave _ actor =>
      cases lobby
      apply lift
      apply SessionService.again_addressed reliable stored inTime
      intro after only
      rcases repeats.2 with ⟨none, known⟩ | ⟨closed, some⟩
      · rw [none]
        exact ensures_ite.mpr ⟨fun _ => ⟨rfl, only⟩, fun unknown => absurd known unknown⟩
      · obtain ⟨matching, found⟩ := Option.ne_none_iff_exists'.mp some
        rw [found]
        exact ensures_ite.mpr ⟨fun _ => ⟨rfl, only⟩, fun live => absurd closed live⟩
  | kick _ actor participantId =>
      cases lobby
      apply lift
      apply SessionService.again_addressed reliable stored inTime
      intro after only
      obtain ⟨_, owner, item, found, guest, final⟩ := repeats
      refine ensures_ite.mpr ⟨fun other => absurd owner other, fun _ => ?_⟩
      rw [found]
      refine ensures_ite.mpr ⟨fun same => absurd same guest, fun _ => ?_⟩
      exact ensures_ite.mpr ⟨fun _ => ⟨rfl, only⟩, fun live => absurd final live⟩
  | close _ actor =>
      cases lobby
      apply lift
      refine ensures_bind.mpr (SessionService.required_again reliable stored ?_)
      refine ensures_ite.mpr ⟨fun other => absurd repeats.2.1 other, fun _ => ?_⟩
      exact ensures_ite.mpr ⟨fun _ => ⟨rfl, .get world _⟩, fun live =>
        absurd repeats.2.2 live⟩
  | create _ _ | discover | get _ | launch _ _ | heartbeat _ _ | sweep | reconcileStartup =>
      cases lobby

/-- A join, leave, kick or close that returned a record, called again while the
record is closed or its lease is not over, returns the same record; it saves
nothing and calls no provider. The first call may meet any failures. -/
theorem lobby_operations_idempotent (configuration : Configuration) (world : World)
    (reached : Reachable configuration world) (operation : Operation) (sessionId : UUID)
    (lobby : operation.lobbyId = some sessionId) (first second : Dependencies)
    (reliable : second.Reliable) (session : Session)
    (returned : ((Request.mk operation first).run configuration world).1 =
      .returned (.session session))
    (inTime : session.state = .closed ∨
      second.clock (((Request.mk operation first).after configuration world).history.length + 1) <
        session.expiresAt) :
    ((Request.mk operation second).run configuration
        ((Request.mk operation first).after configuration world)).1 =
        .returned (.session session) ∧
      ((Request.mk operation first).after configuration world).OnlyReads
        ((Request.mk operation second).after configuration
          ((Request.mk operation first).after configuration world)) := by
  have leaves := operation.leaves reached lobby returned
  let again : Request := ⟨operation, second⟩
  have ⟨reply, answered, same, only⟩ : ∃ reply,
      (again.run configuration ((Request.mk operation first).after configuration world)).1 =
        .returned reply ∧ reply = .session session ∧
          ((Request.mk operation first).after configuration world).OnlyReads
            (again.after configuration ((Request.mk operation first).after configuration world)) :=
    Ensures.returns (Operation.again reliable lobby leaves inTime)
  exact ⟨same ▸ answered, only⟩

theorem Dependencies.Healthy.reliable {dependencies : Dependencies}
    (healthy : dependencies.Healthy) : dependencies.Reliable :=
  ⟨healthy.running, fun index call _ => healthy.noFault index call⟩

/-- The record of the lobby that its owner left. -/
def leftRecord : Session := leftLobby.sessions.head (by decide +kernel)

/-- The owner leaves twice. -/
theorem left_lobby_left_again :
    ((Request.mk (.leave 8 firstActor) (Dependencies.fakes fun _ => 0)).run .default
        ((Request.mk (.leave 8 firstActor) (Dependencies.fakes fun _ => 0)).after .default
          createdLobby)).1 = .returned (.session leftRecord) ∧
      ((Request.mk (.leave 8 firstActor) (Dependencies.fakes fun _ => 0)).after .default
          createdLobby).OnlyReads
        ((Request.mk (.leave 8 firstActor) (Dependencies.fakes fun _ => 0)).after .default
          ((Request.mk (.leave 8 firstActor) (Dependencies.fakes fun _ => 0)).after .default
            createdLobby)) :=
  lobby_operations_idempotent .default createdLobby createdLobby_reachable (.leave 8 firstActor) 8
    rfl (Dependencies.fakes fun _ => 0) (Dependencies.fakes fun _ => 0)
    (Dependencies.fakes_healthy _).reliable leftRecord (by decide +kernel)
    (Or.inr (by decide +kernel))

end RetroBrowser.SessionManager
