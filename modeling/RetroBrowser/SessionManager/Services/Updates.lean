import RetroBrowser.SessionManager.Services.Actions

/-!
Owns what one save does to a stored session: every change but a join revises
existing entries in place, a join appends one entry, and both conform to the
two state machines. These facts need only distinct participant identifiers.
-/

namespace RetroBrowser.SessionManager

open RetroBrowser.Foundation

/-- The fields an entry keeps for life. -/
structure Participant.SameIdentity (before after : Participant) : Prop where
  participantId : after.participantId = before.participantId
  sessionId : after.sessionId = before.sessionId
  userId : after.userId = before.userId
  displayName : after.displayName = before.displayName
  playerSlot : after.playerSlot = before.playerSlot
  joinedAt : after.joinedAt = before.joinedAt

theorem Participant.SameIdentity.refl (participant : Participant) :
    participant.SameIdentity participant := ⟨rfl, rfl, rfl, rfl, rfl, rfl⟩

/-- How an entry may differ between consecutive stored versions. -/
structure Participant.Conforms (before after : Participant) : Prop
    extends Participant.SameIdentity before after where
  moves : before.state.Moves after.state
  final : before.state.terminal = true → after = before

theorem Participant.Conforms.refl (participant : Participant) :
    participant.Conforms participant :=
  ⟨.refl participant, Relation.ReflTransGen.refl, fun _ => rfl⟩

theorem Participant.Conforms.trans {before between after : Participant}
    (first : before.Conforms between) (second : between.Conforms after) :
    before.Conforms after where
  participantId := second.participantId.trans first.participantId
  sessionId := second.sessionId.trans first.sessionId
  userId := second.userId.trans first.userId
  displayName := second.displayName.trans first.displayName
  playerSlot := second.playerSlot.trans first.playerSlot
  joinedAt := second.joinedAt.trans first.joinedAt
  moves := Relation.ReflTransGen.trans first.moves second.moves
  final ended := by
    have same := first.final ended
    rw [second.final (same ▸ ended), same]

/-- How consecutive stored versions of a session may differ. -/
structure Session.Conforms (before after : Session) : Prop where
  sameSession : after.sessionId = before.sessionId
  revision : after.revision = before.revision + 1
  state : after.state = before.state ∨ before.state.Edge after.state
  notClosed : before.state ≠ .closed
  participants : ∃ revised appended,
    after.participants = revised ++ appended ∧
      List.Forall₂ Participant.Conforms before.participants revised

namespace Update

/-- The entry a change is about, where it is about one. -/
def subject : Update → Option Participant
  | joined participant | starting participant | running participant _ | active participant _ _
  | failed participant _ | renewed participant _ _ | left participant _
  | faulted participant _ => some participant
  | closed _ => none

/-- Replace the entry with the same identifier. -/
def put (participant item : Participant) : Participant :=
  if item.participantId = participant.participantId then participant else item

theorem put_cases (participant item : Participant) :
    put participant item = participant ∨ put participant item = item := by
  unfold put
  split
  · exact Or.inl rfl
  · exact Or.inr rfl

/-- What a change does to an existing entry. -/
def revise (updatedAt : Time) : Update → Participant → Participant
  | joined _ => id
  | starting participant => put { participant with state := .starting }
  | running participant runtimeId => put { participant with runtimeId := some runtimeId }
  | active participant activeAt _ => put { participant with
      state := .active, lastHeartbeat := activeAt
      streamPath := some (SessionService.streamPath participant.participantId) }
  | failed participant _ => put { participant with state := .error }
  | renewed participant now _ => put { participant with lastHeartbeat := now }
  | left participant now => put { participant with state := .left, lastHeartbeat := now }
  | faulted participant now => put { participant with state := .error, lastHeartbeat := now }
  | closed _ => retire updatedAt

/-- The entry a change appends. -/
def appended : Update → List Participant
  | joined participant => [participant]
  | _ => []

/-- The session state a change stores. -/
def nextState (session : Session) : Update → SessionState
  | joined _ | running _ _ | renewed _ _ _ | left _ _ | faulted _ _ => session.state
  | starting _ => if session.state = .creating then .starting else session.state
  | active _ _ _ => if session.state = .starting then .open else session.state
  | failed _ role => if role = .host then .error else session.state
  | closed _ => .closed

/-- The lease end a change stores. -/
def nextExpiry (session : Session) : Update → Time
  | active _ _ expiresAt | renewed _ _ expiresAt => expiresAt
  | _ => session.expiresAt

/-- The closing reason a change stores. -/
def nextReason (session : Session) : Update → Option String
  | closed reason => some reason
  | _ => session.closedReason

section Result

variable (session : Session) (updatedAt : Time) (update : Update)

theorem result_eq : update.result session updatedAt =
    { session with
      state := update.nextState session
      participants := session.participants.map (update.revise updatedAt) ++ update.appended
      updatedAt
      expiresAt := update.nextExpiry session
      closedReason := update.nextReason session
      revision := session.revision + 1 } := by
  cases update <;>
    simp [result, SessionService.replacement, nextState, revise, appended, nextExpiry,
      nextReason, put]

@[simp] theorem result_sessionId :
    (update.result session updatedAt).sessionId = session.sessionId := by rw [result_eq]

@[simp] theorem result_revision :
    (update.result session updatedAt).revision = session.revision + 1 := by rw [result_eq]

@[simp] theorem result_state :
    (update.result session updatedAt).state = update.nextState session := by rw [result_eq]

@[simp] theorem result_participants : (update.result session updatedAt).participants =
    session.participants.map (update.revise updatedAt) ++ update.appended := by rw [result_eq]

@[simp] theorem result_ownerUserId :
    (update.result session updatedAt).ownerUserId = session.ownerUserId := by rw [result_eq]

@[simp] theorem result_maxPlayers :
    (update.result session updatedAt).maxPlayers = session.maxPlayers := by rw [result_eq]

@[simp] theorem result_createdAt :
    (update.result session updatedAt).createdAt = session.createdAt := by rw [result_eq]

@[simp] theorem result_expiresAt :
    (update.result session updatedAt).expiresAt = update.nextExpiry session := by rw [result_eq]

end Result

/-! ## Conformance of one change -/

section Conformance

variable {configuration : Configuration} {world : World} {session : Session} {update : Update}

/-- The subject of an in-place change is a stored entry. -/
theorem Enabled.subject_mem {participant : Participant}
    (enabled : update.Enabled configuration world session)
    (subject : update.subject = some participant) (notJoin : update.appended = []) :
    participant ∈ session.participants := by
  cases update with
  | joined _ => simp [Update.appended] at notJoin
  | closed _ => simp [Update.subject] at subject
  | starting _ | running _ _ | active _ _ _ | failed _ _ | renewed _ _ _ | left _ _
  | faulted _ _ =>
      obtain rfl := Option.some.inj subject
      exact enabled.1

theorem put_conforms {items : List Participant} {item before after : Participant}
    (distinct : (items.map Participant.participantId).Nodup) (member : item ∈ items)
    (beforeMember : before ∈ items) (conforms : before.Conforms after) :
    item.Conforms (put after item) := by
  unfold put
  by_cases same : item.participantId = after.participantId
  · rw [if_pos same]
    have : item = before := eq_of_key distinct member beforeMember
      (same.trans conforms.participantId)
    exact this ▸ conforms
  · rw [if_neg same]
    exact .refl item

theorem retire_conforms (now : Time) {item : Participant}
    (active : item.live = true → item.state = .active) : item.Conforms (retire now item) := by
  unfold retire
  by_cases final : item.state.terminal = true
  · rw [if_pos final]
    exact .refl item
  · rw [if_neg final]
    have state := active (by simpa [Participant.live] using final)
    exact ⟨⟨rfl, rfl, rfl, rfl, rfl, rfl⟩, state ▸ ParticipantState.moves_active_left,
      fun final' => absurd final' final⟩

/-- A step along one edge from a state that is not terminal. -/
private theorem conforms_edge {before after : Participant} (identity : before.SameIdentity after)
    (edge : before.state.Edge after.state) (live : before.state.terminal = false) :
    before.Conforms after :=
  ⟨identity, .single edge, fun final => by simp [live] at final⟩

/-- A change of other fields of a live entry. -/
private theorem conforms_same {before after : Participant} (identity : before.SameIdentity after)
    (state : after.state = before.state) (live : before.state.terminal = false) :
    before.Conforms after :=
  ⟨identity, state ▸ Relation.ReflTransGen.refl, fun final => by simp [live] at final⟩

/-- Every change treats every existing entry as the participant table allows. -/
theorem Enabled.revise_conforms (enabled : update.Enabled configuration world session)
    (distinct : (session.participants.map Participant.participantId).Nodup) (updatedAt : Time)
    {item : Participant} (member : item ∈ session.participants) :
    item.Conforms (update.revise updatedAt item) := by
  cases update with
  | joined _ => exact .refl item
  | starting participant =>
      obtain ⟨stored, state, -⟩ := enabled
      refine put_conforms distinct member stored
        (conforms_edge ⟨rfl, rfl, rfl, rfl, rfl, rfl⟩ ?_ ?_)
      · rw [state]; exact (by decide : ParticipantState.Edge .allocating .starting)
      · rw [state]; rfl
  | running participant _ =>
      obtain ⟨stored, state, -⟩ := enabled
      exact put_conforms distinct member stored
        (conforms_same ⟨rfl, rfl, rfl, rfl, rfl, rfl⟩ rfl (by rw [state]; rfl))
  | active participant _ _ =>
      obtain ⟨stored, state, -⟩ := enabled
      refine put_conforms distinct member stored
        (conforms_edge ⟨rfl, rfl, rfl, rfl, rfl, rfl⟩ ?_ ?_)
      · rw [state]; exact (by decide : ParticipantState.Edge .starting .active)
      · rw [state]; rfl
  | failed participant _ =>
      obtain ⟨stored, state, -⟩ := enabled
      refine put_conforms distinct member stored
        (conforms_edge ⟨rfl, rfl, rfl, rfl, rfl, rfl⟩ ?_ ?_)
      · rw [state]; exact (by decide : ParticipantState.Edge .starting .error)
      · rw [state]; rfl
  | renewed participant _ _ =>
      obtain ⟨stored, state, -⟩ := enabled
      exact put_conforms distinct member stored
        (conforms_same ⟨rfl, rfl, rfl, rfl, rfl, rfl⟩ rfl (by rw [state]; rfl))
  | left participant _ =>
      obtain ⟨stored, state, -⟩ := enabled
      refine put_conforms distinct member stored ⟨⟨rfl, rfl, rfl, rfl, rfl, rfl⟩, ?_, ?_⟩
      · rw [state]; exact ParticipantState.moves_active_left
      · intro final; rw [state] at final; exact absurd final (by decide)
  | faulted participant _ =>
      obtain ⟨stored, state, -⟩ := enabled
      refine put_conforms distinct member stored
        (conforms_edge ⟨rfl, rfl, rfl, rfl, rfl, rfl⟩ ?_ ?_)
      · rw [state]; exact (by decide : ParticipantState.Edge .active .error)
      · rw [state]; rfl
  | closed _ => exact retire_conforms updatedAt fun live => (enabled.2.2 item member live).1

/-- A changed session state follows the session table. -/
theorem Enabled.nextState_edge (enabled : update.Enabled configuration world session) :
    update.nextState session = session.state ∨ session.state.Edge (update.nextState session) := by
  cases update with
  | joined _ | running _ _ | renewed _ _ _ | left _ _ | faulted _ _ => exact Or.inl rfl
  | starting _ =>
      rcases enabled.2.2 with state | state <;> simp only [nextState, state]
      · exact Or.inr (by decide : SessionState.Edge .creating .starting)
      · exact Or.inl rfl
  | active _ _ _ =>
      rcases enabled.2.2.1 with state | state <;> simp only [nextState, state]
      · exact Or.inr (by decide : SessionState.Edge .starting .open)
      · exact Or.inl rfl
  | failed _ _ =>
      rcases enabled.2.2 with ⟨rfl, state⟩ | ⟨rfl, state⟩ <;> simp only [nextState, state]
      · exact Or.inr (by decide : SessionState.Edge .starting .error)
      · exact Or.inl rfl
  | closed _ => exact Or.inr (SessionState.edge_closed enabled.1)

/-- One save conforms to both state machines. -/
theorem Enabled.conforms (enabled : update.Enabled configuration world session)
    (distinct : (session.participants.map Participant.participantId).Nodup)
    (notClosed : session.state ≠ .closed) (updatedAt : Time) :
    session.Conforms (update.result session updatedAt) where
  sameSession := result_sessionId session updatedAt update
  revision := result_revision session updatedAt update
  state := by
    rw [result_state]
    exact enabled.nextState_edge
  notClosed := notClosed
  participants := by
    refine ⟨_, _, result_participants session updatedAt update, ?_⟩
    rw [List.forall₂_map_right_iff, List.forall₂_same]
    exact fun item member => enabled.revise_conforms distinct updatedAt member

theorem revised_mem (update : Update) {item : Participant} (updatedAt : Time)
    (member : item ∈ session.participants) :
    update.revise updatedAt item ∈ (update.result session updatedAt).participants := by
  rw [result_participants]
  exact List.mem_append_left _ (List.mem_map_of_mem member)

/-- Entries of the stored record are revised entries or the joining one. -/
theorem mem_result {updatedAt : Time} {item : Participant}
    (member : item ∈ (update.result session updatedAt).participants) :
    (∃ before ∈ session.participants, item = update.revise updatedAt before) ∨
      update = joined item := by
  rw [result_participants, List.mem_append, List.mem_map] at member
  rcases member with ⟨before, stored, rfl⟩ | joining
  · exact Or.inl ⟨before, stored, rfl⟩
  · right
    cases update <;> simp_all [appended]

/-- A terminal entry of a saved record was stored before, belongs to a retired
participant, or is the outcome of a failed startup. -/
theorem Enabled.ended (enabled : update.Enabled configuration world session) {updatedAt : Time}
    {item : Participant} (member : item ∈ (update.result session updatedAt).participants)
    (final : item.state.terminal = true) :
    item ∈ session.participants ∨ world.Retired item.participantId ∨
      ∃ participant role, update = .failed participant role ∧
        item = { participant with state := .error } := by
  rcases mem_result member with ⟨before, stored, rfl⟩ | joined
  · cases update with
    | joined _ => exact Or.inl stored
    | closed _ =>
        simp only [revise, retire] at final ⊢
        split
        · exact Or.inl stored
        · rename_i live
          exact Or.inr
            (Or.inl (enabled.2.2 before stored (by simpa [Participant.live] using live)).2)
    | starting participant | active participant _ _ =>
        simp only [revise] at final ⊢
        rcases put_cases _ before with same | same <;> rw [same] at final ⊢
        · cases final
        · exact Or.inl stored
    | running participant _ | renewed participant _ _ =>
        simp only [revise] at final ⊢
        rcases put_cases _ before with same | same <;> rw [same] at final ⊢
        · rw [enabled.2.1] at final
          cases final
        · exact Or.inl stored
    | failed participant role =>
        simp only [revise] at final ⊢
        rcases put_cases _ before with same | same <;> rw [same] at final ⊢
        · exact Or.inr (Or.inr ⟨participant, role, rfl, rfl⟩)
        · exact Or.inl stored
    | left participant _ | faulted participant _ =>
        simp only [revise] at final ⊢
        rcases put_cases _ before with same | same <;> rw [same] at final ⊢
        · exact Or.inr (Or.inl enabled.2.2)
        · exact Or.inl stored
  · subst joined
    rw [enabled.2.1] at final
    cases final

/-- Terminal entries stay in the record as they are. -/
theorem Enabled.keeps_ended (enabled : update.Enabled configuration world session)
    (distinct : (session.participants.map Participant.participantId).Nodup) (updatedAt : Time)
    {item : Participant} (member : item ∈ session.participants)
    (final : item.state.terminal = true) :
    item ∈ (update.result session updatedAt).participants := by
  have kept := (enabled.revise_conforms distinct updatedAt member).final final
  have revised : update.revise updatedAt item ∈ _ := revised_mem update updatedAt member
  rwa [kept] at revised

/-- An entry that an in-place change makes active was active or is its subject. -/
theorem Enabled.started_of_active (enabled : update.Enabled configuration world session)
    (distinct : (session.participants.map Participant.participantId).Nodup) {updatedAt : Time}
    {item : Participant} (member : item ∈ session.participants)
    (active : (update.revise updatedAt item).state = .active) :
    item.state = .active ∨ Started world.history item.participantId := by
  cases update with
  | joined _ => exact Or.inl active
  | running participant _ | renewed participant _ _ =>
      left
      simp only [revise, put] at active
      split at active
      · have same := eq_of_key distinct member enabled.1 ‹_›
        rw [same]
        simpa using active
      · exact active
  | active participant _ _ =>
      simp only [revise, put] at active
      split at active
      · rename_i same
        right
        rw [same]
        exact enabled.2.2.2.1
      · exact Or.inl active
  | starting participant | failed participant _ | left participant _ | faulted participant _ =>
      simp only [revise, put] at active
      split at active
      · simp at active
      · exact Or.inl active
  | closed _ =>
      simp only [revise, retire] at active
      split at active
      · exact Or.inl active
      · simp at active

end Conformance

end Update

end RetroBrowser.SessionManager
