import RetroBrowser.SessionManager.Properties.Versions
import RetroBrowser.SessionManager.Repositories.Valkey

/-!
Owns the validity of stored records. Replacing a participant bypasses the
validator, so validity rests on the guards of `join`: the slot is free and the
lobby has room, but only an `ACTIVE` entry of the same user is looked for. A
startup that was interrupted before its guarded block leaves the user an entry
in `ALLOCATING` or `STARTING`, and the next join of the same user saves a record
that the validator rejects. Contract: as long as no join is admitted for a user
with such a leftover, every record handed to the repository is valid.
-/

namespace RetroBrowser.SessionManager

open RetroBrowser.Foundation ActionSystem

/-! ## Live entries -/

namespace Update

variable {configuration : Configuration} {world : World} {session : Session} {update : Update}

/-- Changes in place keep, of every live entry, what its key reads, and revive none. -/
theorem Enabled.live_keys {α : Type} (enabled : update.Enabled configuration world session)
    (distinct : (session.participants.map Participant.participantId).Nodup) (updatedAt : Time)
    (key : Participant → α)
    (kept : ∀ before after : Participant, before.SameIdentity after → key after = key before) :
    (((session.participants.map (update.revise updatedAt)).filter Participant.live).map key).Sublist
      (session.liveParticipants.map key) := by
  have conforms : ∀ item ∈ session.participants, item.Conforms (update.revise updatedAt item) :=
    fun item member => enabled.revise_conforms distinct updatedAt member
  have revived : ∀ item ∈ session.participants,
      (update.revise updatedAt item).live = (item.live && (update.revise updatedAt item).live) := by
    intro item member
    cases final : item.state.terminal with
    | true => simp [Participant.live, (conforms item member).final final, final]
    | false => simp [Participant.live, final]
  have keys : (((session.participants.map (update.revise updatedAt)).filter Participant.live).map
      key) = ((session.participants.filter fun item => (update.revise updatedAt item).live).map
        key) := by
    rw [List.filter_map, List.map_map]
    refine List.map_congr_left fun item member => ?_
    exact kept item _ (conforms item (List.mem_of_mem_filter member)).toSameIdentity
  rw [keys, List.filter_congr revived, ← List.filter_filter]
  exact (List.filter_sublist.filter Participant.live).map key

/-- Changes in place keep a session consistent. -/
theorem Enabled.consistent_inPlace (enabled : update.Enabled configuration world session)
    (distinct : (session.participants.map Participant.participantId).Nodup) (updatedAt : Time)
    (inPlace : update.appended = []) (consistent : session.Consistent) :
    (update.result session updatedAt).Consistent := by
  have entries : (update.result session updatedAt).participants =
      session.participants.map (update.revise updatedAt) := by
    rw [result_participants, inPlace, List.append_nil]
  have keys : ∀ {α : Type} (key : Participant → α),
      (∀ before after : Participant, before.SameIdentity after → key after = key before) →
      ((update.result session updatedAt).liveParticipants.map key).Sublist
        (session.liveParticipants.map key) := by
    intro α key kept
    rw [Session.liveParticipants, entries]
    exact enabled.live_keys distinct updatedAt key kept
  have slots := keys Participant.playerSlot fun _ _ identity => identity.playerSlot
  constructor
  · intro item member
    rw [entries] at member
    obtain ⟨before, stored, rfl⟩ := List.mem_map.mp member
    rw [(enabled.revise_conforms distinct updatedAt stored).sessionId, result_sessionId]
    exact consistent.belongs before stored
  · exact (keys Participant.userId fun _ _ identity => identity.userId).nodup consistent.users
  · exact slots.nodup consistent.slots
  · intro item member
    obtain ⟨before, stored, same⟩ :=
      List.mem_map.mp (slots.subset (List.mem_map_of_mem member))
    rw [← same, result_maxPlayers]
    exact consistent.slotBound before stored
  · have fewer := slots.length_le
    rw [List.length_map, List.length_map] at fewer
    rw [result_maxPlayers]
    exact fewer.trans consistent.count

/-- A join keeps a session consistent if its user has no live entry there. -/
theorem Enabled.consistent_joined {participant : Participant}
    (enabled : (Update.joined participant).Enabled configuration world session) (updatedAt : Time)
    (absent : ∀ item ∈ session.participants, item.userId = participant.userId →
      item.live = false) (consistent : session.Consistent) :
    ((Update.joined participant).result session updatedAt).Consistent := by
  obtain ⟨-, allocating, belongs, -, -, -, -, -, room, -, slot⟩ := enabled
  obtain ⟨within, free⟩ := SessionService.freeSlot_some slot
  have entries : ((Update.joined participant).result session updatedAt).participants =
      session.participants ++ [participant] := by
    rw [result_participants]
    simp [revise, appended]
  have live : ((Update.joined participant).result session updatedAt).liveParticipants =
      session.liveParticipants ++ [participant] := by
    rw [Session.liveParticipants, entries, List.filter_append, Session.liveParticipants]
    simp [Participant.live, allocating, ParticipantState.terminal]
  have newUser : participant.userId ∉ session.liveParticipants.map Participant.userId := by
    intro taken
    obtain ⟨item, member, same⟩ := List.mem_map.mp taken
    obtain ⟨stored, alive⟩ := List.mem_filter.mp member
    rw [absent item stored same] at alive
    cases alive
  constructor
  · intro item member
    rw [entries, List.mem_append, List.mem_singleton] at member
    rw [result_sessionId]
    rcases member with stored | rfl
    · exact consistent.belongs item stored
    · exact belongs
  · rw [live, List.map_append, List.map_singleton, List.nodup_append_comm]
    exact List.nodup_cons.mpr ⟨newUser, consistent.users⟩
  · rw [live, List.map_append, List.map_singleton, List.nodup_append_comm]
    exact List.nodup_cons.mpr ⟨free, consistent.slots⟩
  · intro item member
    rw [live, List.mem_append, List.mem_singleton] at member
    rw [result_maxPlayers]
    rcases member with stored | rfl
    · exact consistent.slotBound item stored
    · exact within
  · rw [Session.playerCount, live, List.length_append, List.length_singleton, result_maxPlayers]
    exact room

/-! ## Fields -/

/-- The path of a stream is short enough for its field. -/
theorem streamPath_short (id : UUID) :
    lengthBetween 0 96 (SessionService.streamPath id) = true := by
  have length : (SessionService.streamPath id).length = 40 := by
    rw [SessionService.streamPath, String.length_append, UUID.hex_length]
    rfl
  simp [lengthBetween, length]

/-- A revised entry keeps its field constraints. -/
theorem Enabled.revise_valid (enabled : update.Enabled configuration world session)
    (valid : ∀ item ∈ session.participants, item.valid = true) (updatedAt : Time)
    {item : Participant} (member : item ∈ session.participants) :
    (update.revise updatedAt item).valid = true := by
  have itemValid := valid item member
  cases update with
  | joined _ => exact itemValid
  | starting participant | running participant _ | failed participant _
  | renewed participant _ _ | left participant _ | faulted participant _ =>
      have subjectValid := valid participant enabled.1
      simp only [revise]
      rcases put_cases _ item with same | same <;> rw [same]
      · exact subjectValid
      · exact itemValid
  | active participant _ _ =>
      have subjectValid := valid participant enabled.1
      simp only [revise]
      rcases put_cases _ item with same | same <;> rw [same]
      · simp only [Participant.valid, Bool.and_eq_true] at subjectValid ⊢
        exact ⟨subjectValid.1, streamPath_short participant.participantId⟩
      · exact itemValid
  | closed _ =>
      simp only [revise, retire]
      split
      · exact itemValid
      · exact itemValid

theorem Enabled.fieldsValid (enabled : update.Enabled configuration world session)
    (updatedAt : Time) (valid : session.fieldsValid = true) :
    (update.result session updatedAt).fieldsValid = true := by
  simp only [Session.fieldsValid, Bool.and_eq_true, List.all_eq_true] at valid ⊢
  obtain ⟨⟨fixed, entries⟩, reason⟩ := valid
  refine ⟨⟨by rwa [result_eq], fun item member => ?_⟩, ?_⟩
  · rcases mem_result member with ⟨before, stored, rfl⟩ | rfl
    · exact enabled.revise_valid entries updatedAt stored
    · exact enabled.2.2.2.2.1
  · rw [result_eq]
    cases update with
    | closed closing => exact enabled.2.1
    | _ => exact reason

end Update

/-! ## The invariant -/

/-- Stored records are valid, and so was every record handed to the repository. -/
structure World.Valid (world : World) : Prop where
  stored : ∀ session ∈ world.sessions, session.validate = .ok ()
  handed : ∀ event ∈ world.history, ∀ record, event.call.record = some record →
    record.validate = .ok ()

/-- No admitted join is by a user whose earlier startup in that session is unfinished. -/
def Request.JoinsSettled (configuration : Configuration) (world : World) (request : Request) :
    Prop :=
  ∀ session actor game core playerSlot, request.operation = .join session.sessionId actor →
    (request.service configuration).Admits world session actor game core playerSlot →
    ∀ item ∈ session.participants, item.userId = actor.userId → item.state.halfStarted = false

section Runs

variable {configuration : Configuration} {world start : World} {request : Request}

/-- A save by a request that admits no unsettled join hands over a valid record. -/
theorem Update.Enabled.validate {session : Session} {update : Update}
    (enabled : update.Enabled configuration world session)
    (coherent : session.Coherent world.history)
    (saves : request.Saves configuration start world session update)
    (settled : request.JoinsSettled configuration start) (valid : session.validate = .ok ())
    (updatedAt : Time) : (update.result session updatedAt).validate = .ok () := by
  rw [Session.validate_ok_iff] at valid ⊢
  refine ⟨enabled.fieldsValid updatedAt valid.1, ?_⟩
  cases update with
  | joined participant =>
      refine enabled.consistent_joined updatedAt (fun item member user => ?_) valid.2
      cases saves with
      | joined _ actor game core operation admitted same _ =>
          have sameUser : item.userId = actor.userId := by rw [user, same]; rfl
          have finished := settled session actor game core _ operation admitted item member sameUser
          have absent := admitted.absent
          simp only [SessionService.activeIn, List.any_eq_false, decide_eq_true_eq] at absent
          rcases coherent.shape.classify member with half | active | final
          · rw [half] at finished
            cases finished
          · exact absurd ⟨sameUser, active⟩ (absent item member)
          · simp [Participant.live, final]
  | starting _ | running _ _ | active _ _ _ | failed _ _ | renewed _ _ _ | left _ _ | faulted _ _
  | closed _ => exact enabled.consistent_inPlace coherent.ids updatedAt rfl valid.2

/-- An event that hands over no record. -/
theorem World.Valid.observed (valid : world.Valid) {after : World} {event : Event}
    (noRecord : event.call.record = none) (history : after.history = event :: world.history)
    (sessions : after.sessions = world.sessions) : after.Valid where
  stored := by
    rw [sessions]
    exact valid.stored
  handed := by
    rw [history]
    intro current member record handed
    rcases List.mem_cons.mp member with rfl | earlier
    · rw [noRecord] at handed
      cases handed
    · exact valid.handed current earlier record handed

/-- An event that hands over a valid record. -/
theorem World.Valid.hands (valid : world.Valid) {after : World} {event : Event} {record : Session}
    (handed : event.call.record = some record) (recordValid : record.validate = .ok ())
    (history : after.history = event :: world.history)
    (sessions : ∀ session ∈ after.sessions, session = record ∨ session ∈ world.sessions) :
    after.Valid where
  stored := by
    intro session member
    rcases sessions session member with rfl | earlier
    · exact recordValid
    · exact valid.stored session earlier
  handed := by
    rw [history]
    intro current member other otherHanded
    rcases List.mem_cons.mp member with rfl | earlier
    · rw [handed] at otherHanded
      obtain rfl := Option.some.inj otherHanded
      exact recordValid
    · exact valid.handed current earlier other otherHanded

theorem World.Valid.apply (valid : world.Valid) (coherent : Coherent world)
    (settled : request.JoinsSettled configuration start) {action : Action}
    (permitted : request.Permits configuration start world action)
    (enabled : action.Enabled configuration world) : (action.apply world).Valid := by
  cases action with
  | observed event => exact valid.observed (Call.record_of_readOnly enabled) rfl rfl
  | drew id => exact valid.observed rfl rfl rfl
  | added session owner applied returned =>
      refine valid.hands rfl enabled.valid (Action.apply_history world _) fun current member => ?_
      cases applied with
      | false => exact Or.inr member
      | true =>
          rcases List.mem_append.mp member with earlier | added
          · exact Or.inr earlier
          · exact Or.inl (List.mem_singleton.mp added)
  | saved session update updatedAt applied returned =>
      obtain ⟨found, changes⟩ := enabled
      have stored := (InMemorySessionRepository.get_mem found).1
      refine valid.hands rfl
        (changes.validate (coherent.sessions session stored) permitted.2 settled
        (valid.stored session stored) updatedAt) (Action.apply_history world _)
          fun current member => ?_
      cases applied with
      | false => exact Or.inr member
      | true => exact (InMemorySessionRepository.mem_overwrite member).imp_right And.left
  | created session participant runtimeRequest applied returned =>
      cases applied <;> exact valid.observed rfl rfl rfl
  | removed participantId applied returned =>
      cases applied <;> exact valid.observed rfl rfl rfl
  | provisioned session participant applied returned => exact valid.observed rfl rfl rfl
  | revoked participantId applied returned => exact valid.observed rfl rfl rfl

/-- In runs without unsettled joins, every record handed to the repository is
consistent and can be decoded again. -/
theorem handed_records_valid (configuration : Configuration) (world : World)
    (reached : ReachableBy configuration
      (fun world request => request.JoinsSettled configuration world) world) :
    ∀ event ∈ world.history, ∀ record, event.call.record = some record →
      record.Consistent ∧ ValkeySessionRepository.decode record = .ok record := by
  intro event member record handed
  have initial : World.empty.Valid := ⟨by simp [World.empty], by simp [World.empty]⟩
  have valid := (reached.keeps World.Valid initial
    fun start request _ _ settled world action coherent permitted enabled valid =>
      valid.apply coherent settled permitted enabled).handed event member record handed
  exact ⟨((Session.validate_ok_iff record).mp valid).2, ValkeySessionRepository.decode_ok valid⟩

/-- Where every stored startup is finished, every request is settled. -/
theorem Request.joinsSettled_of_finished (finished : ∀ session ∈ world.sessions,
    ∀ item ∈ session.participants, item.state.halfStarted = false) :
    request.JoinsSettled configuration world := by
  intro session actor game core playerSlot _ admitted item member _
  exact finished session (InMemorySessionRepository.get_mem admitted.stored).1 item member

end Runs

theorem joined_lobby_records_valid :
    ((lobbyJoin.after .default createdLobby).sessions.map Session.playerCount) = [2] ∧
      ∀ event ∈ (lobbyJoin.after .default createdLobby).history, ∀ record,
        event.call.record = some record →
          record.Consistent ∧ ValkeySessionRepository.decode record = .ok record :=
  ⟨by decide +kernel, handed_records_valid .default _
    (.request (.request .empty ⟨lobbyCreation, Dependencies.fakes fun _ => 0⟩
      (Request.joinsSettled_of_finished (by decide +kernel))) lobbyJoin
        (Request.joinsSettled_of_finished (by decide +kernel)))⟩

/-! ## A repeated join -/

/-- The fakes with a core profile for four players. -/
def fourPlayers : Dependencies :=
  { Dependencies.fakes fun _ => 0 with
    resolveCore := fun _ platform => .ok ⟨"nes-default", platform, 4⟩ }

/-- The second player joins a lobby for four; the save of the startup fails and
stores nothing; the player joins again. -/
def repeatedJoin : World :=
  let created :=
    (Request.mk (.create firstActor ⟨"Saturday Night NES", 42, 4⟩) fourPlayers).after
    .default World.empty
  let interrupted := (Request.mk (.join 8 secondActor)
    { fourPlayers with
      fault := fun index _ =>
        if index = 31 then
          some ⟨.repositoryConflict "session revision changed during update", false⟩
        else none }).after .default created
  (Request.mk (.join 8 secondActor) fourPlayers).after .default interrupted

/-- In this run, where failing calls have no effect, the record of the second
join is handed over although it names its user twice. -/
theorem repeated_join_hands_over_invalid_record :
    Reachable .default repeatedJoin ∧
      (∀ event ∈ repeatedJoin.history, event.applied = event.returned) ∧
      ∃ event ∈ repeatedJoin.history, ∃ record, event.call.record = some record ∧
        ¬ record.Consistent := by
  have handed : ∃ event ∈ repeatedJoin.history, ∃ record ∈ event.call.record,
      record.consistentParticipants ≠ .ok () := by decide +kernel
  obtain ⟨event, member, record, hands, invalid⟩ := handed
  refine ⟨.request (.request (.request .empty _ trivial) _ trivial) _ trivial,
    by decide +kernel, event, member, record, hands, fun consistent => ?_⟩
  exact invalid ((Session.consistentParticipants_ok_iff record).mpr consistent)

end RetroBrowser.SessionManager
