import RetroBrowser.Foundation.ActionSystem
import RetroBrowser.SessionManager.Services.Updates

/-!
Owns the invariant that ties stored records, runtimes and history together, and
the action system of the lobby that it makes. The invariant speaks of single
worlds; facts about whole histories are derived from it elsewhere.
-/

namespace RetroBrowser.SessionManager

open RetroBrowser.Foundation

/-- The entry states that occur in an open session. -/
def ParticipantState.inOpen : ParticipantState → Bool
  | .allocating | .starting | .active | .left | .error => true
  | _ => false

namespace Session

/-- Which entry states go with which session state. Nothing ever stores
`RUNNING` or `DRAINING`. -/
def Shape (session : Session) : Prop :=
  match session.state with
  | .creating => ∃ owner, session.participants = [owner] ∧ owner.state = .allocating
  | .starting => ∃ owner, session.participants = [owner] ∧ owner.state = .starting
  | .open => ∀ item ∈ session.participants, item.state.inOpen = true
  | .closed | .error => ∀ item ∈ session.participants, item.state.terminal = true
  | .running | .draining => False

/-- The invariant of one stored session, given the history. -/
structure Coherent (history : List Event) (session : Session) : Prop where
  ids : (session.participants.map Participant.participantId).Nodup
  belongs : ∀ item ∈ session.participants, item.sessionId = session.sessionId
  owner : ∃ owner rest, session.participants = owner :: rest ∧
    owner.userId = session.ownerUserId ∧ owner.playerSlot = 1
  shape : session.Shape
  started : ∀ item ∈ session.participants, item.state = .active →
    Started history item.participantId

theorem Shape.open_of_active {session : Session} {item : Participant} (shape : session.Shape)
    (member : item ∈ session.participants) (active : item.state = .active) :
    session.state = .open := by
  unfold Shape at shape
  split at shape
  · obtain ⟨owner, only, state⟩ := shape
    rw [only, List.mem_singleton] at member
    simp [← member, active] at state
  · obtain ⟨owner, only, state⟩ := shape
    rw [only, List.mem_singleton] at member
    simp [← member, active] at state
  · assumption
  · have final := shape item member
    simp [active, ParticipantState.terminal] at final
  · have final := shape item member
    simp [active, ParticipantState.terminal] at final
  · exact shape.elim
  · exact shape.elim

theorem Shape.terminal {session : Session} {item : Participant} (shape : session.Shape)
    (ended : session.state = .closed ∨ session.state = .error)
    (member : item ∈ session.participants) : item.state.terminal = true := by
  rcases ended with state | state <;>
  · rw [Shape, state] at shape
    exact shape item member

theorem Shape.inOpen {session : Session} {item : Participant} (shape : session.Shape)
    (state : session.state = .open) (member : item ∈ session.participants) :
    item.state.inOpen = true := by
  rw [Shape, state] at shape
  exact shape item member

/-- An entry of an open or half-started session is half-started, active or terminal. -/
theorem Shape.classify {session : Session} {item : Participant} (shape : session.Shape)
    (member : item ∈ session.participants) :
    item.state.halfStarted = true ∨ item.state = .active ∨ item.state.terminal = true := by
  unfold Shape at shape
  split at shape
  · obtain ⟨owner, only, state⟩ := shape
    rw [only, List.mem_singleton] at member
    exact Or.inl (by rw [member, state]; rfl)
  · obtain ⟨owner, only, state⟩ := shape
    rw [only, List.mem_singleton] at member
    exact Or.inl (by rw [member, state]; rfl)
  · have inOpen := shape item member
    cases state : item.state <;> rw [state] at inOpen <;> first | decide | cases inOpen
  · exact Or.inr (Or.inr (shape item member))
  · exact Or.inr (Or.inr (shape item member))
  · exact shape.elim
  · exact shape.elim

/-- A half-started session has one entry. -/
theorem Shape.single {session : Session} {item : Participant} (shape : session.Shape)
    (state : session.state = .creating ∨ session.state = .starting)
    (member : item ∈ session.participants) : session.participants = [item] := by
  rcases state with state | state <;>
  · rw [Shape, state] at shape
    obtain ⟨owner, only, -⟩ := shape
    rw [only, List.mem_singleton] at member
    rw [only, member]

end Session

namespace Update

variable {configuration : Configuration} {world : World} {session : Session} {update : Update}

private theorem revise_inOpen {updatedAt : Time} {item : Participant}
    (enabled : update.Enabled configuration world session)
    (distinct : (session.participants.map Participant.participantId).Nodup)
    (member : item ∈ session.participants) (inOpen : item.state.inOpen = true) :
    (update.revise updatedAt item).state.inOpen = true := by
  cases update with
  | joined _ => exact inOpen
  | running participant _ | renewed participant _ _ =>
      simp only [revise, put]
      split
      · rw [eq_of_key distinct member enabled.1 ‹_›] at inOpen
        exact inOpen
      · exact inOpen
  | active participant _ _ | starting participant | failed participant _ | left participant _
  | faulted participant _ =>
      simp only [revise, put]
      split <;> first | rfl | exact inOpen
  | closed _ =>
      simp only [revise, retire]
      split <;> first | rfl | exact inOpen

/-- Changes that keep a session open keep its entries in open states. -/
private theorem shape_open (enabled : update.Enabled configuration world session)
    (distinct : (session.participants.map Participant.participantId).Nodup)
    (shape : session.Shape) (updatedAt : Time) (state : session.state = .open)
    (next : update.nextState session = .open) : (update.result session updatedAt).Shape := by
  unfold Session.Shape
  rw [result_state, next]
  intro item member
  rcases mem_result member with ⟨before, stored, rfl⟩ | rfl
  · exact revise_inOpen enabled distinct stored (shape.inOpen state stored)
  · rw [enabled.2.1]; rfl

/-- The only entry of a half-started session is the subject of its next change. -/
private theorem revise_single (update : Update) {participant : Participant}
    (after : Participant) (updatedAt : Time)
    (only : session.participants = [participant])
    (revised : update.revise updatedAt participant = after) (notJoin : update.appended = []) :
    (update.result session updatedAt).participants = [after] := by
  rw [result_participants, only, notJoin, List.map_singleton, revised, List.append_nil]

theorem Enabled.shape (enabled : update.Enabled configuration world session)
    (distinct : (session.participants.map Participant.participantId).Nodup)
    (shape : session.Shape) (updatedAt : Time) : (update.result session updatedAt).Shape := by
  cases update with
  | joined participant => exact shape_open enabled distinct shape updatedAt enabled.1 enabled.1
  | starting participant =>
      obtain ⟨member, -, state | state⟩ := id enabled
      · have only := shape.single (Or.inl state) member
        have after := revise_single (.starting participant)
          { participant with state := .starting } updatedAt only (by simp [revise, put]) rfl
        unfold Session.Shape
        rw [result_state, after, show nextState session (.starting participant) = .starting by
          simp [nextState, state]]
        exact ⟨_, rfl, rfl⟩
      · exact shape_open enabled distinct shape updatedAt state (by simp [nextState, state])
  | running participant runtimeId =>
      obtain ⟨member, starting, state | state⟩ := id enabled
      · have only := shape.single (Or.inr state) member
        have after := revise_single (.running participant runtimeId)
          { participant with runtimeId := some runtimeId } updatedAt
            only (by simp [revise, put]) rfl
        unfold Session.Shape
        rw [result_state, after, show nextState session (.running participant runtimeId) =
          .starting from state]
        exact ⟨_, rfl, starting⟩
      · exact shape_open enabled distinct shape updatedAt state state
  | active participant activeAt expiresAt =>
      obtain ⟨member, -, state | state, -⟩ := id enabled
      · have only := shape.single (Or.inr state) member
        unfold Session.Shape
        rw [result_state, show nextState session (.active participant activeAt expiresAt) = .open by
          simp [nextState, state]]
        intro item memberAfter
        rcases mem_result memberAfter with ⟨before, stored, rfl⟩ | joined
        · rw [only, List.mem_singleton] at stored
          simp [revise, put, stored, ParticipantState.inOpen]
        · cases joined
      · exact shape_open enabled distinct shape updatedAt state (by simp [nextState, state])
  | failed participant role =>
      obtain ⟨member, -, ⟨rfl, state⟩ | ⟨rfl, state⟩⟩ := id enabled
      · have only := shape.single (Or.inr state) member
        unfold Session.Shape
        rw [result_state, show nextState session (.failed participant .host) = .error from rfl]
        intro item memberAfter
        rcases mem_result memberAfter with ⟨before, stored, rfl⟩ | joined
        · rw [only, List.mem_singleton] at stored
          simp [revise, put, stored, ParticipantState.terminal]
        · cases joined
      · exact shape_open enabled distinct shape updatedAt state (by simp [nextState, state])
  | renewed participant now expiresAt | left participant now | faulted participant now =>
      have state := shape.open_of_active enabled.1 enabled.2.1
      exact shape_open enabled distinct shape updatedAt state state
  | closed reason =>
      unfold Session.Shape
      rw [result_state, show nextState session (.closed reason) = .closed from rfl]
      intro item memberAfter
      rcases mem_result memberAfter with ⟨before, stored, rfl⟩ | joined
      · simp only [revise, retire]
        split
        · assumption
        · rfl
      · cases joined

/-- A save keeps the invariant of the session it replaces. -/
theorem Enabled.coherent (enabled : update.Enabled configuration world session)
    (stored : session ∈ world.sessions) (coherent : session.Coherent world.history)
    (updatedAt : Time) : (update.result session updatedAt).Coherent world.history where
  ids := by
    have kept : (session.participants.map (update.revise updatedAt)).map Participant.participantId =
        session.participants.map Participant.participantId := by
      rw [List.map_map]
      exact List.map_congr_left fun item member =>
        (enabled.revise_conforms coherent.ids updatedAt member).participantId
    rw [result_participants, List.map_append, kept]
    cases update with
    | joined participant =>
        obtain ⟨-, -, -, -, -, unused, -⟩ := enabled
        simp only [appended, List.map_singleton, List.nodup_append, coherent.ids,
          List.nodup_singleton, List.mem_singleton, true_and]
        intro id member other same
        subst same
        obtain ⟨item, itemMember, rfl⟩ := List.mem_map.mp member
        exact unused.stored session stored item itemMember
    | _ => simpa [appended] using coherent.ids
  belongs := by
    intro item member
    rw [result_sessionId]
    rcases mem_result member with ⟨before, beforeMember, rfl⟩ | rfl
    · rw [(enabled.revise_conforms coherent.ids updatedAt beforeMember).sessionId]
      exact coherent.belongs before beforeMember
    · exact enabled.2.2.1
  owner := by
    obtain ⟨owner, rest, participants, user, slot⟩ := coherent.owner
    have member : owner ∈ session.participants := by simp [participants]
    have identity := (enabled.revise_conforms coherent.ids updatedAt member).toSameIdentity
    refine ⟨update.revise updatedAt owner, rest.map (update.revise updatedAt) ++ update.appended,
      by simp [participants], ?_, identity.playerSlot.trans slot⟩
    rw [result_ownerUserId, identity.userId, user]
  shape := enabled.shape coherent.ids coherent.shape updatedAt
  started := by
    intro item member active
    rcases mem_result member with ⟨before, beforeMember, rfl⟩ | rfl
    · rw [(enabled.revise_conforms coherent.ids updatedAt beforeMember).participantId]
      rcases enabled.started_of_active coherent.ids beforeMember active with was | started
      · exact coherent.started before beforeMember was
      · exact started
    · rw [enabled.2.1] at active
      cases active

end Update

/-! ## The invariant of a world -/

structure Coherent (world : World) : Prop where
  sessionIds : (world.sessions.map Session.sessionId).Nodup
  sessions : ∀ session ∈ world.sessions, session.Coherent world.history
  disjoint : ∀ left ∈ world.sessions, ∀ right ∈ world.sessions,
    ∀ item ∈ left.participants,
    ∀ other ∈ right.participants, item.participantId = other.participantId →
      left.sessionId = right.sessionId
  issuedSessions : ∀ session ∈ world.sessions, session.sessionId ∈ world.issued
  issued : ∀ session ∈ world.sessions, ∀ item ∈ session.participants,
    item.participantId ∈ world.issued
  startedIssued : ∀ id, Started world.history id → id ∈ world.issued
  runtimesIssued : ∀ id ∈ world.runtimes, id ∈ world.issued

namespace Coherent

variable {world : World}

theorem empty : Coherent World.empty where
  sessionIds := List.nodup_nil
  sessions := by simp [World.empty]
  disjoint := by simp [World.empty]
  issuedSessions := by simp [World.empty]
  issued := by simp [World.empty]
  startedIssued := by simp [World.empty, Started]
  runtimesIssued := by simp [World.empty]

theorem get_eq_of_mem (coherent : Coherent world) {session : Session}
    (member : session ∈ world.sessions) : world.get session.sessionId = some session :=
  InMemorySessionRepository.get_eq_of_mem coherent.sessionIds member

/-- No session is stored under an identifier that was never issued. -/
theorem get_none (coherent : Coherent world) {id : UUID} (fresh : id ∉ world.issued) :
    world.get id = none :=
  InMemorySessionRepository.get_isNone.mpr fun session member same =>
    fresh (same ▸ coherent.issuedSessions session member)

/-- An identifier that was never issued is not in use. -/
theorem unused (coherent : Coherent world) {id : UUID} (fresh : id ∉ world.issued) :
    world.Unused id where
  stored session member item itemMember same :=
    fresh (same ▸ coherent.issued session member item itemMember)
  started started := fresh (coherent.startedIssued id started)
  runtime exists' := fresh (coherent.runtimesIssued id exists')

theorem record (coherent : Coherent world) (event : Event)
    (creates : ∀ request, event.call = .executionCreate request →
      request.participantId ∈ world.issued) : Coherent (world.record event) where
  sessionIds := coherent.sessionIds
  sessions session member :=
    { coherent.sessions session member with
      started := fun item itemMember active =>
        ((coherent.sessions session member).started item itemMember active).cons event }
  disjoint := coherent.disjoint
  issuedSessions := coherent.issuedSessions
  issued := coherent.issued
  startedIssued := by
    intro id started
    rcases started_cons_iff.mp started with ⟨request, call, rfl⟩ | earlier
    · exact creates request call
    · exact coherent.startedIssued id earlier
  runtimesIssued := coherent.runtimesIssued

theorem issue (coherent : Coherent world) (id : UUID) : Coherent (world.issue id) where
  sessionIds := coherent.sessionIds
  sessions := coherent.sessions
  disjoint := coherent.disjoint
  issuedSessions session member := List.mem_cons_of_mem id (coherent.issuedSessions session member)
  issued session member item itemMember :=
    List.mem_cons_of_mem id (coherent.issued session member item itemMember)
  startedIssued other started := List.mem_cons_of_mem id (coherent.startedIssued other started)
  runtimesIssued other exists' := List.mem_cons_of_mem id (coherent.runtimesIssued other exists')

theorem startRuntime (coherent : Coherent world) {id : UUID} (issued : id ∈ world.issued) :
    Coherent (world.startRuntime id) where
  sessionIds := coherent.sessionIds
  sessions := coherent.sessions
  disjoint := coherent.disjoint
  issuedSessions := coherent.issuedSessions
  issued := coherent.issued
  startedIssued := coherent.startedIssued
  runtimesIssued other exists' := by
    rcases World.mem_startRuntime.mp exists' with earlier | rfl
    · exact coherent.runtimesIssued other earlier
    · exact issued

theorem discardRuntime (coherent : Coherent world) (id : UUID) :
    Coherent (world.discardRuntime id) where
  sessionIds := coherent.sessionIds
  sessions := coherent.sessions
  disjoint := coherent.disjoint
  issuedSessions := coherent.issuedSessions
  issued := coherent.issued
  startedIssued := coherent.startedIssued
  runtimesIssued other exists' :=
    coherent.runtimesIssued other (World.mem_discardRuntime.mp exists').1

theorem insert (coherent : Coherent world) {configuration : Configuration} {session : Session}
    {owner : Participant} (opens : Action.Opens configuration world session owner) :
    Coherent (world.insert session) where
  sessionIds := by
    rw [World.insert_sessions, List.map_append, List.nodup_append]
    refine ⟨coherent.sessionIds, List.nodup_singleton _,
      fun id member other otherMember same => ?_⟩
    simp only [List.map_singleton, List.mem_singleton] at otherMember
    obtain ⟨current, stored, rfl⟩ := List.mem_map.mp member
    exact InMemorySessionRepository.get_isNone.mp opens.unusedSession current stored
      (same.trans otherMember)
  sessions := by
    intro current member
    rw [World.insert_sessions, List.mem_append, List.mem_singleton] at member
    rcases member with earlier | rfl
    · exact coherent.sessions current earlier
    · refine ⟨?_, ?_, ⟨owner, [], opens.participants, opens.ownerUser, opens.ownerSlot⟩, ?_,
        ?_⟩
      · simp [opens.participants]
      · simp [opens.participants, opens.ownerSession]
      · unfold Session.Shape
        rw [opens.state]
        exact ⟨owner, opens.participants, opens.ownerState⟩
      · intro item itemMember active
        rw [opens.participants, List.mem_singleton] at itemMember
        rw [itemMember, opens.ownerState] at active
        cases active
  disjoint := by
    intro left leftMember right rightMember item itemMember other otherMember same
    rw [World.insert_sessions, List.mem_append, List.mem_singleton] at leftMember rightMember
    rcases leftMember with leftEarlier | rfl <;> rcases rightMember with rightEarlier | rfl
    · exact coherent.disjoint left leftEarlier right rightEarlier item itemMember other
        otherMember same
    · rw [opens.participants, List.mem_singleton] at otherMember
      exact absurd (same.trans (by rw [otherMember]))
        (opens.unusedOwner.stored left leftEarlier item itemMember)
    · rw [opens.participants, List.mem_singleton] at itemMember
      exact absurd (same.symm.trans (by rw [itemMember]))
        (opens.unusedOwner.stored right rightEarlier other otherMember)
    · rfl
  issuedSessions := by
    intro current member
    rw [World.insert_sessions, List.mem_append, List.mem_singleton] at member
    rcases member with earlier | rfl
    · exact coherent.issuedSessions current earlier
    · exact opens.issuedSession
  issued := by
    intro current member item itemMember
    rw [World.insert_sessions, List.mem_append, List.mem_singleton] at member
    rcases member with earlier | rfl
    · exact coherent.issued current earlier item itemMember
    · rw [opens.participants, List.mem_singleton] at itemMember
      exact itemMember ▸ opens.issuedOwner
  startedIssued := coherent.startedIssued
  runtimesIssued := coherent.runtimesIssued

/-- Entries of a saved record were stored, or join with an unused identifier. -/
private theorem id_of_result {configuration : Configuration} {session : Session} {update : Update}
    (enabled : update.Enabled configuration world session)
    (distinct : (session.participants.map Participant.participantId).Nodup) {updatedAt : Time}
    {item : Participant} (member : item ∈ (update.result session updatedAt).participants) :
    (∃ before ∈ session.participants, before.participantId = item.participantId) ∨
      (world.Unused item.participantId ∧ item.participantId ∈ world.issued) := by
  rcases Update.mem_result member with ⟨before, beforeMember, rfl⟩ | rfl
  · exact Or.inl ⟨before, beforeMember,
      (enabled.revise_conforms distinct updatedAt beforeMember).participantId.symm⟩
  · obtain ⟨-, -, -, -, -, unused, issued, -⟩ := enabled
    exact Or.inr ⟨unused, issued⟩

theorem overwrite (coherent : Coherent world) {configuration : Configuration} {session : Session}
    {update : Update} (stored : world.get session.sessionId = some session)
    (enabled : update.Enabled configuration world session) (updatedAt : Time) :
    Coherent (world.overwrite (update.result session updatedAt)) := by
  have member := (InMemorySessionRepository.get_mem stored).1
  have distinct := (coherent.sessions session member).ids
  -- Every record of the new store is the saved one or an untouched other one.
  have origin : ∀ current ∈ (world.overwrite (update.result session updatedAt)).sessions,
      current = update.result session updatedAt ∨
        (current ∈ world.sessions ∧ current.sessionId ≠ session.sessionId) := by
    intro current currentMember
    simpa using InMemorySessionRepository.mem_overwrite currentMember
  constructor
  · rw [World.overwrite_sessions, InMemorySessionRepository.map_sessionId_overwrite]
    exact coherent.sessionIds
  · intro current currentMember
    rcases origin current currentMember with rfl | ⟨earlier, -⟩
    · exact enabled.coherent member (coherent.sessions session member) updatedAt
    · exact coherent.sessions current earlier
  · intro left leftMember right rightMember item itemMember other otherMember same
    rcases origin left leftMember with rfl | ⟨leftEarlier, leftOther⟩ <;>
      rcases origin right rightMember with rfl | ⟨rightEarlier, rightOther⟩
    · rfl
    · rcases id_of_result enabled distinct itemMember with ⟨before, beforeMember, sameId⟩ |
        ⟨unused, -⟩
      · rw [Update.result_sessionId]
        exact coherent.disjoint session member right rightEarlier before beforeMember other
          otherMember (sameId.trans same)
      · exact absurd same.symm (unused.stored right rightEarlier other otherMember)
    · rcases id_of_result enabled distinct otherMember with ⟨before, beforeMember, sameId⟩ |
        ⟨unused, -⟩
      · rw [Update.result_sessionId]
        exact coherent.disjoint left leftEarlier session member item itemMember before
          beforeMember (same.trans sameId.symm)
      · exact absurd same (unused.stored left leftEarlier item itemMember)
    · exact coherent.disjoint left leftEarlier right rightEarlier item itemMember other
        otherMember same
  · intro current currentMember
    rcases origin current currentMember with rfl | ⟨earlier, -⟩
    · rw [Update.result_sessionId]
      exact coherent.issuedSessions session member
    · exact coherent.issuedSessions current earlier
  · intro current currentMember item itemMember
    rcases origin current currentMember with rfl | ⟨earlier, -⟩
    · rcases id_of_result enabled distinct itemMember with ⟨before, beforeMember, sameId⟩ |
        ⟨-, issued⟩
      · exact sameId ▸ coherent.issued session member before beforeMember
      · exact issued
    · exact coherent.issued current earlier item itemMember
  · exact coherent.startedIssued
  · exact coherent.runtimesIssued

theorem apply (coherent : Coherent world) {configuration : Configuration} {action : Action}
    (enabled : action.Enabled configuration world) : Coherent (action.apply world) := by
  cases action with
  | observed event =>
      refine coherent.record event fun request call => ?_
      have reads : event.call.readOnly = true := enabled
      rw [call] at reads
      cases reads
  | drew id => exact (coherent.issue id).record _ (by simp)
  | added session owner applied returned =>
      cases applied with
      | false => exact coherent.record _ (by simp)
      | true => exact (coherent.insert enabled).record _ (by simp)
  | saved session update updatedAt applied returned =>
      cases applied with
      | false => exact coherent.record _ (by simp)
      | true => exact (coherent.overwrite enabled.1 enabled.2 updatedAt).record _ (by simp)
  | created session participant request applied returned =>
      have issued : request.participantId ∈ world.issued := by
        rw [enabled.requested]
        exact coherent.issued session (InMemorySessionRepository.get_mem enabled.stored).1
          participant enabled.member
      have creates : ∀ other, (⟨.executionCreate request, applied, returned⟩ : Event).call =
          .executionCreate other → other.participantId ∈ world.issued := by
        rintro other same
        cases same
        exact issued
      cases applied with
      | false => exact coherent.record _ creates
      | true => exact (coherent.startRuntime issued).record _ creates
  | removed participantId applied returned =>
      cases applied with
      | false => exact coherent.record _ (by simp)
      | true => exact (coherent.discardRuntime participantId).record _ (by simp)
  | provisioned session participant applied returned => exact coherent.record _ (by simp)
  | revoked participantId applied returned => exact coherent.record _ (by simp)

end Coherent

/-- The lobby as an action system. -/
def lobby (configuration : Configuration) : ActionSystem World Action where
  Enabled world action := action.Enabled configuration world
  apply world action := action.apply world
  Invariant := Coherent
  preserved _ _ coherent enabled := coherent.apply enabled

end RetroBrowser.SessionManager
