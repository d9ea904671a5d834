import RetroBrowser.SessionManager.Properties.Launches
import RetroBrowser.SessionManager.Properties.Validity
import RetroBrowser.SessionManager.Services.Raises

/-!
Owns player slots. The capacity check of `join` counts live participants and
the search runs over `1 .. max_players`, so a lobby with room always has a free
slot; the search takes the least one, which keeps the slots of live
participants distinct, and no change ever moves an entry to another slot.
Contract: this holds of every record that any run ever stores.
-/

namespace RetroBrowser.SessionManager

open RetroBrowser.Foundation ActionSystem Program

/-! ## The search -/

/-- The least number from 1 to `max_players` that no live participant holds. -/
structure Session.LeastFree (session : Session) (slot : Nat) : Prop where
  positive : 1 ≤ slot
  within : slot ≤ session.maxPlayers
  free : ∀ item ∈ session.liveParticipants, item.playerSlot ≠ slot
  least : ∀ smaller, 1 ≤ smaller → smaller < slot →
    ∃ item ∈ session.liveParticipants, item.playerSlot = smaller

/-- The slots of live participants are distinct and within the capacity. -/
structure Session.Slotted (session : Session) : Prop where
  distinct : (session.liveParticipants.map Participant.playerSlot).Nodup
  within : ∀ item ∈ session.liveParticipants,
    1 ≤ item.playerSlot ∧ item.playerSlot ≤ session.maxPlayers

namespace SessionService

variable {session : Session} {slot : Nat}

theorem freeSlot_leastFree (found : freeSlot session = some slot) : session.LeastFree slot := by
  have ⟨free, inRange, least⟩ := List.find?_range'_eq_some.mp found
  rw [List.mem_range'_1] at inRange
  refine ⟨inRange.1, by omega, ?_, ?_⟩
  · intro item member same
    exact of_decide_eq_true free (List.mem_map.mpr ⟨item, member, same⟩)
  · intro smaller positive below
    have taken : smaller ∈ occupied session := by simpa using least smaller positive below
    exact List.mem_map.mp taken

/-- Fewer taken numbers than candidates leave a candidate. -/
theorem freeSlot_of_room (room : session.playerCount < session.maxPlayers) :
    ∃ slot, freeSlot session = some slot := by
  apply Option.isSome_iff_exists.mp
  apply Option.ne_none_iff_isSome.mp
  intro none
  have taken : List.range' 1 session.maxPlayers ⊆ occupied session := by
    intro candidate member
    have held := List.find?_eq_none.mp none candidate member
    simpa using held
  have fewer := (List.nodup_range' ).length_le_of_subset taken
  have count : (occupied session).length = session.playerCount := List.length_map _
  rw [List.length_range', count] at fewer
  omega

end SessionService

/-! ## The invariant -/

/-- A save leaves each entry its slot, and gives a new entry the least free one
of the record it replaces. -/
def SlotChosen (event : Event) (earlier : List Event) : Prop :=
  ∀ updated revision, event.call = .repositorySave updated revision →
    ∃ before, (versions earlier updated.sessionId).head? = some before ∧
      ∀ item ∈ updated.participants,
        (∃ entry ∈ before.participants, entry.participantId = item.participantId ∧
          entry.playerSlot = item.playerSlot) ∨ before.LeastFree item.playerSlot

/-- Slots over a whole history. -/
structure HistorySlotted (history : List Event) : Prop where
  /-- No two live participants ever hold the same slot. -/
  slots : ∀ session ∈ storedRecords history, session.Slotted
  /-- An entry keeps its slot through all stored versions. -/
  constant : ∀ session ∈ storedRecords history, ∀ other ∈ storedRecords history,
    ∀ item ∈ session.participants, ∀ entry ∈ other.participants,
      item.participantId = entry.participantId → item.playerSlot = entry.playerSlot
  /-- Joins take the least free slot. -/
  chosen : Throughout SlotChosen history

/-- What the runs maintain: every entry ever stored is still remembered. -/
structure World.Slotted (world : World) : Prop extends world.Versioned where
  slots : ∀ session ∈ storedRecords world.history, session.Slotted
  remembered : ∀ session ∈ storedRecords world.history, ∀ item ∈ session.participants,
    world.Remembers item
  chosen : Throughout SlotChosen world.history

section Invariant

variable {configuration : Configuration} {world : World} {session : Session} {update : Update}

/-- A change keeps the slots distinct. -/
theorem Update.Enabled.slotted (enabled : update.Enabled configuration world session)
    (distinct : (session.participants.map Participant.participantId).Nodup) (updatedAt : Time)
    (slotted : session.Slotted) : (update.result session updatedAt).Slotted := by
  have kept := enabled.live_keys distinct updatedAt Participant.playerSlot
    fun _ _ identity => identity.playerSlot
  have revised : ∀ item ∈ (session.participants.map (update.revise updatedAt)).filter
      Participant.live, 1 ≤ item.playerSlot ∧ item.playerSlot ≤ session.maxPlayers := by
    intro item member
    obtain ⟨before, stored, same⟩ := List.mem_map.mp (kept.subset (List.mem_map_of_mem member))
    rw [← same]
    exact slotted.within before stored
  by_cases joins : ∃ participant, update = .joined participant
  · obtain ⟨participant, rfl⟩ := joins
    have least := SessionService.freeSlot_leastFree enabled.2.2.2.2.2.2.2.2.2.2
    have live : ((Update.joined participant).result session updatedAt).liveParticipants =
        session.liveParticipants ++ [participant] := by
      rw [Session.liveParticipants, result_participants, List.filter_append]
      simp [Session.liveParticipants, revise, appended, Participant.live, enabled.2.1,
        ParticipantState.terminal]
    constructor
    · rw [live, List.map_append, List.map_singleton, List.nodup_append_comm]
      refine List.nodup_cons.mpr ⟨fun taken => ?_, slotted.distinct⟩
      obtain ⟨item, member, same⟩ := List.mem_map.mp taken
      exact least.free item member same
    · intro item member
      rw [live, List.mem_append, List.mem_singleton] at member
      rw [result_maxPlayers]
      rcases member with stored | rfl
      · exact slotted.within item stored
      · exact ⟨least.positive, least.within⟩
  · have inPlace : update.appended = [] := by
      cases update with
      | joined participant => exact absurd ⟨participant, rfl⟩ joins
      | _ => rfl
    have live : (update.result session updatedAt).liveParticipants =
        (session.participants.map (update.revise updatedAt)).filter Participant.live := by
      rw [Session.liveParticipants, result_participants, inPlace, List.append_nil]
    constructor
    · rw [live]
      exact kept.nodup slotted.distinct
    · intro item member
      rw [result_maxPlayers]
      exact revised item (live ▸ member)

/-- A save leaves each entry its slot or gives it the least free one. -/
theorem Update.Enabled.slot_of_result (enabled : update.Enabled configuration world session)
    (distinct : (session.participants.map Participant.participantId).Nodup) {updatedAt : Time}
    {item : Participant} (member : item ∈ (update.result session updatedAt).participants) :
    (∃ entry ∈ session.participants, entry.participantId = item.participantId ∧
      entry.playerSlot = item.playerSlot) ∨ session.LeastFree item.playerSlot := by
  rcases mem_result member with ⟨before, stored, rfl⟩ | rfl
  · have identity := (enabled.revise_conforms distinct updatedAt stored).toSameIdentity
    exact Or.inl ⟨before, stored, identity.participantId.symm, identity.playerSlot.symm⟩
  · exact Or.inr (SessionService.freeSlot_leastFree enabled.2.2.2.2.2.2.2.2.2.2)

/-- A record that an action stores is a new lobby or the result of a save. -/
theorem Action.stored_cases {action : Action} {record : Session}
    (enabled : action.Enabled configuration world) (stores : action.event.stored = some record) :
    (∃ owner, Action.Opens configuration world record owner) ∨
      ∃ (session : Session) (update : Update) (updatedAt : Time),
        world.get session.sessionId = some session ∧
          update.Enabled configuration world session ∧
            record = update.result session updatedAt := by
  cases action with
  | added session owner applied returned =>
      cases applied with
      | false => cases stores
      | true =>
          cases stores
          exact Or.inl ⟨owner, enabled⟩
  | saved session update updatedAt applied returned =>
      cases applied with
      | false => cases stores
      | true =>
          cases stores
          exact Or.inr ⟨session, update, updatedAt, enabled.1, enabled.2, rfl⟩
  | observed event =>
      have reads : event.call.readOnly = true := enabled
      simp [Action.event, Event.stored, Call.record_of_readOnly reads] at stores
  | drew _ => cases stores
  | created _ _ _ applied _ | removed _ applied _ | provisioned _ _ applied _
  | revoked _ applied _ => cases applied <;> cases stores

/-- The owner of a new lobby is in slot 1. -/
theorem Action.Opens.slotted {owner : Participant}
    (opens : Action.Opens configuration world session owner) : session.Slotted := by
  have only : session.liveParticipants = [owner] := by
    simp [Session.liveParticipants, opens.participants, Participant.live, opens.ownerState,
      ParticipantState.terminal]
  have consistent := ((Session.validate_ok_iff session).mp opens.valid).2
  refine ⟨consistent.slots, fun item member => ⟨?_, consistent.slotBound item member⟩⟩
  rw [only, List.mem_singleton] at member
  rw [member, opens.ownerSlot]

theorem World.Slotted.apply (slotted : world.Slotted) (coherent : Coherent world) {action : Action}
    (enabled : action.Enabled configuration world) : (action.apply world).Slotted := by
  have versioned := slotted.toVersioned.apply coherent enabled
  have coherent' : Coherent (action.apply world) := coherent.apply enabled
  have remembered : ∀ record ∈ storedRecords world.history, ∀ item ∈ record.participants,
      (action.apply world).Remembers item := fun record member item itemMember =>
    (slotted.remembered record member item itemMember).apply coherent enabled
  have choice : SlotChosen action.event world.history := by
    intro updated revision call
    cases action with
    | saved session update updatedAt applied returned =>
        cases call
        have distinct := (coherent.sessions session
          (InMemorySessionRepository.get_mem enabled.1).1).ids
        refine ⟨session, ?_, fun item member => enabled.2.slot_of_result distinct member⟩
        rw [Update.result_sessionId, slotted.latest]
        exact enabled.1
    | observed event =>
        have reads : event.call.readOnly = true := enabled
        rw [show event.call = _ from call] at reads
        cases reads
    | added _ _ _ _ | drew _ | created _ _ _ _ _ | removed _ _ _ | provisioned _ _ _ _
    | revoked _ _ _ => cases call
  have history := Action.apply_history world action
  refine { versioned with slots := ?_, remembered := ?_, chosen := ?_ }
  · rw [history]
    cases stores : action.event.stored with
    | none =>
        rw [storedRecords_none stores]
        exact slotted.slots
    | some record =>
        rw [storedRecords_some stores]
        intro current member
        rcases List.mem_cons.mp member with rfl | earlier
        · rcases Action.stored_cases enabled stores with ⟨owner, opens⟩ |
            ⟨session, update, updatedAt, found, changes, rfl⟩
          · exact opens.slotted
          · have stored := (InMemorySessionRepository.get_mem found).1
            refine changes.slotted (coherent.sessions session stored).ids updatedAt ?_
            have latest := slotted.latest session.sessionId
            rw [found] at latest
            exact slotted.slots session (List.mem_of_mem_filter (List.mem_of_mem_head? latest))
        · exact slotted.slots current earlier
  · rw [history]
    cases stores : action.event.stored with
    | none =>
        rw [storedRecords_none stores]
        exact remembered
    | some record =>
        rw [storedRecords_some stores]
        intro current member item itemMember
        rcases List.mem_cons.mp member with rfl | earlier
        · have latest := versioned.latest current.sessionId
          rw [history, versions_same stores] at latest
          exact World.remembers_of_stored coherent' latest.symm itemMember
        · exact remembered current earlier item itemMember
  · rw [history]
    exact throughout_cons.mpr ⟨choice, slotted.chosen⟩

theorem World.Slotted.empty : World.empty.Slotted :=
  { World.Versioned.empty with
    slots := by simp [World.empty, storedRecords]
    remembered := by simp [World.empty, storedRecords]
    chosen := throughout_nil }

/-- Entries with one identifier are versions of one stored entry. -/
theorem World.Slotted.constant (slotted : world.Slotted) (coherent : Coherent world)
    {other : Session} {item entry : Participant} (stored : session ∈ storedRecords world.history)
    (otherStored : other ∈ storedRecords world.history) (member : item ∈ session.participants)
    (otherMember : entry ∈ other.participants)
    (same : item.participantId = entry.participantId) : item.playerSlot = entry.playerSlot := by
  obtain ⟨current, found, now, nowMember, conforms⟩ :=
    slotted.remembered session stored item member
  have sameNow : now.participantId = entry.participantId := conforms.participantId.trans same
  have sameId : current.sessionId = item.sessionId := (InMemorySessionRepository.get_mem found).2
  have later := (slotted.remembered other otherStored entry otherMember).conforms coherent
    (by rw [sameId]; exact found) nowMember sameNow
  exact conforms.playerSlot.symm.trans later.2.playerSlot

end Invariant

/-! ## The searches of a join -/

namespace SessionService

variable {self : SessionService} {world : World}

/-- Expiry returns a closed record or the stored one. -/
theorem expire_keeps {launches : Bool} (session : Session) :
    (self.expire session).Ensures (onReturn fun value after =>
      value.state = .closed ∨ value = session ∧ world.KeepsStore launches after) world := by
  apply ensures_expire
  · exact fun closed => .inl closed
  · exact fun _ _ _ => .inr ⟨rfl, .record _ (by simp [Call.launches])⟩
  · intro _ _ _
    exact (closeSession_closed session "expired").mono (fun _ _ => .inl) (fun _ _ => id)
      fun _ => id
  · exact fun _ => trivial

theorem searched_expired (session : Session) :
    (self.expire session).Ensures
      ⟨fun value after => value.state = .closed ∨
          value = session ∧ world.KeepsStore true after,
        fun error _ => self.Searched error, fun _ => True⟩ world :=
  ((expire_keeps session).raises (searched_expire session)).mono (fun _ _ => id)
    (fun _ _ => And.right) fun _ => id

/-- In a lobby with room the search for a slot succeeds, the lobby has a host and
the handler of a failed startup finds the new entry. -/
theorem join_searched (coherent : Coherent world) (sessionId : UUID) (actor : Actor) :
    (self.join sessionId actor).Ensures
      ⟨fun _ _ => True, fun error _ => self.Searched error, fun _ => True⟩ world := by
  refine ensures_bind.mpr (ensures_required ⟨fun _ => ?_, ?_, fun _ => trivial⟩)
  swap
  · exact fun error applied _ plan => searched_of_throws (.call _ _ applied plan)
  cases found : world.get sessionId with
  | none => exact searched_of_ne (by simp)
  | some session =>
      have stored := InMemorySessionRepository.get_mem found
      refine ensures_bind.mpr (.mono (searched_expired session) ?_ (fun _ _ => id) fun _ => id)
      intro value after expired
      refine ensures_ite.mpr ⟨fun _ => trivial, fun _ => ?_⟩
      refine ensures_ite.mpr ⟨fun _ => searched_of_ne (by simp), fun opened => ?_⟩
      refine ensures_ite.mpr ⟨fun _ => searched_of_ne (by simp), fun room => ?_⟩
      rcases expired with closed | ⟨rfl, kept⟩
      · rw [closed] at opened
        exact absurd (by simp) opened
      have sameStore : ∀ {later : World}, later.sessions = world.sessions →
          later.get value.sessionId = some value := by
        intro later same
        rw [World.get, same, stored.2]
        exact found
      refine ensures_bind.mpr (.mono (searched_of_storeKept
        (storeKept_requireUserRuntimeCapacity _) (searched_requireUserRuntimeCapacity _)) ?_
        (fun _ _ => And.right) fun _ => id)
      intro _ checked kept'
      have kept := kept.trans kept'
      refine ensures_bind.mpr (.mono (searched_of_storeKept storeKept_requireRuntimeCapacity
        searched_requireRuntimeCapacity) ?_ (fun _ _ => And.right) fun _ => id)
      intro _ admitted kept'
      have kept := kept.trans kept'
      refine ensures_bind.mpr (.mono (searched_of_storeKept (storeKept_resolve _)
        (searched_resolve _)) ?_ (fun _ _ => And.right) fun _ => id)
      rintro ⟨game, core⟩ resolved kept'
      have kept := kept.trans kept'
      refine ensures_ite.mpr ⟨fun _ => searched_of_ne (by simp), fun _ => ?_⟩
      obtain ⟨slot, free⟩ := freeSlot_of_room (not_le.mp room)
      rw [free]
      refine ensures_bind.mpr (ensures_pure.mpr ?_)
      refine ensures_bind.mpr (ensures_clock (fun _ => ?_) fun _ => trivial)
      refine ensures_bind.mpr (ensures_uuid4 (fun _ _ => ?_) fun _ => trivial)
      refine ensures_ite.mpr ⟨fun _ => ?_, fun _ => searched_of_ne (by simp)⟩
      refine ensures_bind.mpr (.mono (hasEntry_replaceParticipant (sameStore kept.sessions)
        (.inl ⟨rfl, rfl⟩)) ?_ (fun _ _ raised => raised.2) fun _ => id)
      intro updated later saved
      obtain ⟨host, _, _, isHost, _⟩ := (coherent.sessions value stored.1).hostOf
      rw [isHost]
      refine ensures_bind.mpr (ensures_pure.mpr ?_)
      exact searched_startParticipant saved.2.1 saved.2.2

end SessionService

/-! ## Every run -/

section Runs

variable {configuration : Configuration} {world : World}

theorem ReachableBy.slotted {admissible : World → Request → Prop}
    (reached : ReachableBy configuration admissible world) : world.Slotted :=
  reached.keeps_enabled (fun world => world.Slotted) .empty
    fun _ _ coherent enabled slotted => slotted.apply coherent enabled

/-- What slot allocation promises about a world and the next join. -/
structure World.AllocatesSlots (configuration : Configuration) (world : World) : Prop
    extends HistorySlotted world.history where
  /-- Stored lobbies keep their players apart. -/
  stored : ∀ session ∈ world.sessions, session.Slotted
  /-- A stored lobby with room has a least free slot, and the search finds it. -/
  finds : ∀ session ∈ world.sessions, session.playerCount < session.maxPlayers →
    ∃ slot, SessionService.freeSlot session = some slot ∧ session.LeastFree slot
  /-- A join raises `StopIteration` only where one of its calls does. -/
  searched : ∀ sessionId actor dependencies,
    ((Request.mk (.join sessionId actor) dependencies).run configuration world).1 =
      .raised .stopIteration → dependencies.Throws .stopIteration

theorem World.Slotted.stored (slotted : world.Slotted) (coherent : Coherent world)
    {session : Session} (stored : session ∈ world.sessions) : session.Slotted := by
  have latest := slotted.latest session.sessionId
  have found : world.get session.sessionId = some session := coherent.get_eq_of_mem stored
  rw [found] at latest
  exact slotted.slots session (List.mem_of_mem_filter (List.mem_of_mem_head? latest))

/-- Slots are allocated without gaps or clashes in every run, and never move. -/
theorem slots_allocated (configuration : Configuration) (world : World)
    (reached : Reachable configuration world) : world.AllocatesSlots configuration := by
  have slotted := reached.slotted
  have coherent := reached.coherent
  constructor
  · constructor
    · exact slotted.slots
    · intro session stored other otherStored item member entry otherMember same
      exact slotted.constant coherent stored otherStored member otherMember same
    · exact slotted.chosen
  · exact fun session stored => slotted.stored coherent stored
  · intro session stored room
    have ⟨slot, found⟩ := SessionService.freeSlot_of_room room
    exact ⟨slot, found, SessionService.freeSlot_leastFree found⟩
  · intro sessionId actor dependencies raised
    let self : SessionService := ⟨configuration, dependencies⟩
    have searched : ((Operation.join sessionId actor).program self).Ensures
        ⟨fun _ _ => True, fun error _ => self.Searched error, fun _ => True⟩ world :=
      ensures_map.mpr (SessionService.join_searched coherent sessionId actor)
    exact searched.ofRaised raised rfl

/-- The owner holds slot 1 of a lobby for two, and the next player is offered slot 2. -/
theorem created_lobby_allocates_slots : createdLobby.AllocatesSlots .default ∧
    (createdLobby.get 8).bind SessionService.freeSlot = some 2 :=
  ⟨slots_allocated .default createdLobby createdLobby_reachable, by decide +kernel⟩

end Runs

end RetroBrowser.SessionManager
