import RetroBrowser.SessionManager.Properties.Versions

/-!
Owns the order of retirement calls, read off the history. Contract: a
participant is stored as `LEFT`, or moved from `ACTIVE` to `ERROR`, only after
its token was revoked and its runtime removal acknowledged, in that order and
both after the only start of the runtime; and once it is stored as `LEFT` or
`ERROR` its runtime is never started and its token never provisioned again.
-/

namespace RetroBrowser.SessionManager

open RetroBrowser.Foundation ActionSystem

/-! ## The order, event by event -/

/-- The participant whose runtime a call starts or whose token it provisions. -/
def Call.serves : Call → Option UUID
  | .executionCreate request => some request.participantId
  | .streamProvision participantId _ => some participantId
  | _ => none

/-- The entry under the identifier of `item` in the latest version of the record
stored before. -/
def Preceded (earlier : List Event) (record : Session) (item was : Participant) : Prop :=
  ∃ before, (versions earlier record.sessionId).head? = some before ∧
    was ∈ before.participants ∧ was.participantId = item.participantId

/-- What the events before one event must contain, or must not. -/
structure RetirementOrdered (event : Event) (earlier : List Event) : Prop where
  /-- A record with a `LEFT` participant is handed over only after its retirement. -/
  left : ∀ record, event.call.record = some record → ∀ item ∈ record.participants,
    item.state = .left → RetiredIn earlier item.participantId
  /-- An `ACTIVE` participant turns to `ERROR` only after its retirement. -/
  faulted : ∀ record, event.call.record = some record → ∀ item ∈ record.participants,
    item.state = .error → ∀ was, Preceded earlier record item was → was.state = .active →
      RetiredIn earlier item.participantId
  /-- A runtime is started once. -/
  once : ∀ request, event.call = .executionCreate request →
    ¬ Started earlier request.participantId
  /-- No participant is served after it was stored as terminal. -/
  live : ∀ id, event.call.serves = some id → ∀ record ∈ storedRecords earlier,
    ∀ item ∈ record.participants, item.participantId = id → item.state.terminal = false

/-- An event later than `start` hands over no `ERROR` participant that was not
stored as such before, unless it is retired. -/
def SweepRetires (start : List Event) (event : Event) (earlier : List Event) : Prop :=
  start.length ≤ earlier.length → ∀ record, event.call.record = some record →
    ∀ item ∈ record.participants, item.state = .error →
      Preceded earlier record item item ∨ RetiredIn earlier item.participantId

/-! ## The invariant -/

/-- The order holds so far, the stored `LEFT` entries are retired, and entries
that were ever stored as terminal are still stored. -/
structure World.Orderly (world : World) : Prop where
  ordered : Throughout RetirementOrdered world.history
  leftRetired : ∀ sessionId session, world.get sessionId = some session →
    ∀ item ∈ session.participants, item.state = .left →
      RetiredIn world.history item.participantId
  endedKept : ∀ record ∈ storedRecords world.history, ∀ item ∈ record.participants,
    item.state.terminal = true →
      ∃ session, world.get record.sessionId = some session ∧ item ∈ session.participants

namespace World

variable {configuration : Configuration} {world after : World} {event : Event}
variable {session : Session}

theorem Orderly.empty : World.empty.Orderly where
  ordered := throughout_nil
  leftRetired _ _ found := by cases found
  endedKept _ member := by cases member

/-- A participant that is stored as live was never stored as terminal. -/
theorem Orderly.live_stored (orderly : world.Orderly) (coherent : Coherent world)
    (stored : world.get session.sessionId = some session) {participant : Participant}
    (member : participant ∈ session.participants) (live : participant.state.terminal = false) :
    ∀ record ∈ storedRecords world.history, ∀ item ∈ record.participants,
      item.participantId = participant.participantId → item.state.terminal = false := by
  intro record recordStored item itemMember sameId
  by_contra ended
  obtain ⟨current, found, kept⟩ := orderly.endedKept record recordStored item itemMember
    (by simpa using ended)
  have currentStored := InMemorySessionRepository.get_mem found
  have sessionStored := (InMemorySessionRepository.get_mem stored).1
  have sameSession := coherent.disjoint current currentStored.1 session sessionStored item kept
    participant member sameId
  rw [← currentStored.2, sameSession, stored] at found
  obtain rfl := Option.some.inj found
  obtain rfl := eq_of_key (coherent.sessions session sessionStored).ids kept member sameId
  exact ended live

/-- A call that hands over no record and serves no participant. -/
theorem ordered_plain {earlier : List Event} (noRecord : event.call.record = none)
    (serves : event.call.serves = none) : RetirementOrdered event earlier where
  left record handed := by
    rw [noRecord] at handed
    cases handed
  faulted record handed := by
    rw [noRecord] at handed
    cases handed
  once request call := by
    rw [call] at serves
    cases serves
  live id served := by
    rw [serves] at served
    cases served

/-- An event that stores nothing. -/
theorem Orderly.unstored (orderly : world.Orderly) (storesNothing : event.stored = none)
    (next : RetirementOrdered event world.history)
    (history : after.history = event :: world.history)
    (same : ∀ id, after.get id = world.get id) : after.Orderly where
  ordered := history ▸ throughout_cons.mpr ⟨next, orderly.ordered⟩
  leftRetired sessionId current found item member state := by
    rw [same] at found
    rw [history]
    exact (orderly.leftRetired sessionId current found item member state).cons event
  endedKept := by
    simp only [history, storedRecords_none storesNothing, same]
    exact orderly.endedKept

/-- An event that stores a record, which keeps the terminal entries of the one before. -/
theorem Orderly.stored (orderly : world.Orderly) (stores : event.stored = some session)
    (handed : event.call.record = some session) (next : RetirementOrdered event world.history)
    (history : after.history = event :: world.history) (replaces : world.Replaces after session)
    (kept : ∀ before, world.get session.sessionId = some before →
      ∀ item ∈ before.participants,
      item.state.terminal = true → item ∈ session.participants) : after.Orderly where
  ordered := history ▸ throughout_cons.mpr ⟨next, orderly.ordered⟩
  leftRetired sessionId current found item member state := by
    rw [history]
    by_cases same : sessionId = session.sessionId
    · rw [same, replaces.1] at found
      obtain rfl := Option.some.inj found
      exact (next.left session handed item member state).cons event
    · rw [replaces.2 sessionId same] at found
      exact (orderly.leftRetired sessionId current found item member state).cons event
  endedKept := by
    rw [history, storedRecords_some stores]
    intro record member item itemMember final
    rcases List.mem_cons.mp member with rfl | earlier
    · exact ⟨record, replaces.1, itemMember⟩
    · obtain ⟨current, found, kept'⟩ := orderly.endedKept record earlier item itemMember final
      by_cases same : record.sessionId = session.sessionId
      · rw [same] at found ⊢
        exact ⟨session, replaces.1, kept current found item kept' final⟩
      · exact ⟨current, (replaces.2 _ same).trans found, kept'⟩

/-- What a save of a stored record must meet. -/
theorem Orderly.ordered_save (orderly : world.Orderly) (versioned : world.Versioned)
    (coherent : Coherent world) (stored : world.get session.sessionId = some session)
    {update : Update} (enabled : update.Enabled configuration world session) {updatedAt : Time}
    (call : event.call = .repositorySave (update.result session updatedAt) session.revision) :
    RetirementOrdered event world.history where
  left record handed item member state := by
    rw [call] at handed
    obtain rfl := Option.some.inj handed
    rcases enabled.ended member (by rw [state]; rfl) with before | retired | ⟨_, _, _, rfl⟩
    · exact orderly.leftRetired _ session stored item before state
    · exact retired.1
    · cases state
  faulted record handed item member state was preceded active := by
    rw [call] at handed
    obtain rfl := Option.some.inj handed
    obtain ⟨before, latest, wasMember, sameId⟩ := preceded
    rw [Update.result_sessionId, versioned.latest, stored] at latest
    obtain rfl := Option.some.inj latest
    have distinct := (coherent.sessions session (InMemorySessionRepository.get_mem stored).1).ids
    rcases enabled.ended member (by rw [state]; rfl) with unchanged | retired |
      ⟨starting, _, rfl, rfl⟩
    · obtain rfl := eq_of_key distinct wasMember unchanged sameId
      rw [active] at state
      cases state
    · exact retired.1
    · obtain rfl := eq_of_key distinct wasMember enabled.1 sameId
      rw [enabled.2.1] at active
      cases active
  once request other := by
    rw [call] at other
    cases other
  live id serves := by
    rw [call] at serves
    cases serves

theorem Orderly.apply (orderly : world.Orderly) (versioned : world.Versioned)
    (coherent : Coherent world) {action : Action} (enabled : action.Enabled configuration world) :
    (action.apply world).Orderly := by
  cases action with
  | observed event =>
      have reads : event.call.readOnly = true := enabled
      have noRecord := Call.record_of_readOnly reads
      refine orderly.unstored ?_ (ordered_plain noRecord ?_) rfl fun _ => rfl
      · rw [Event.stored, noRecord, ite_self]
      · cases call : event.call <;> rw [call] at reads <;> first | rfl | cases reads
  | drew id => exact orderly.unstored rfl (ordered_plain rfl rfl) rfl fun _ => rfl
  | added session owner applied returned =>
      have next : RetirementOrdered ⟨.repositoryAdd session, applied, returned⟩ world.history :=
        {
        left := by
          rintro record ⟨⟩ item member state
          rw [enabled.participants, List.mem_singleton] at member
          rw [member, enabled.ownerState] at state
          cases state
        faulted := by
          rintro record ⟨⟩ item member state
          rw [enabled.participants, List.mem_singleton] at member
          rw [member, enabled.ownerState] at state
          cases state
        once := by rintro _ ⟨⟩
        live := by rintro _ ⟨⟩ }
      cases applied with
      | false => exact orderly.unstored rfl next rfl fun _ => rfl
      | true =>
          refine orderly.stored rfl rfl next rfl
            ⟨get_insert enabled.unusedSession, fun id other =>
              get_insert_other (Ne.symm other)⟩ ?_
          intro before found
          rw [enabled.unusedSession] at found
          cases found
  | saved session update updatedAt applied returned =>
      obtain ⟨stored, changes⟩ := enabled
      have distinct := (coherent.sessions session (InMemorySessionRepository.get_mem stored).1).ids
      have next : RetirementOrdered ⟨.repositorySave (update.result session updatedAt)
          session.revision, applied, returned⟩ world.history :=
        orderly.ordered_save versioned coherent stored changes rfl
      cases applied with
      | false => exact orderly.unstored rfl next rfl fun _ => rfl
      | true =>
          have replaces : world.Replaces
              (world.save (update.result session updatedAt) session.revision) _ :=
            save_replaces stored (Update.result_sessionId session updatedAt update)
          refine orderly.stored rfl rfl next rfl replaces ?_
          intro before latest item member final
          rw [Update.result_sessionId, stored] at latest
          obtain rfl := Option.some.inj latest
          exact changes.keeps_ended distinct updatedAt member final
  | created session participant request applied returned =>
      have next : RetirementOrdered ⟨.executionCreate request, applied,
        returned⟩ world.history := {
        left := by rintro _ ⟨⟩
        faulted := by rintro _ ⟨⟩
        once := by
          rintro _ ⟨⟩
          rw [enabled.requested]
          exact enabled.unstarted
        live := by
          rintro id ⟨⟩
          rw [enabled.requested]
          exact orderly.live_stored coherent enabled.stored enabled.member
            (by rw [enabled.state]; rfl) }
      cases applied <;> exact orderly.unstored rfl next rfl fun _ => rfl
  | removed participantId applied returned =>
      cases applied <;> exact orderly.unstored rfl (ordered_plain rfl rfl) rfl fun _ => rfl
  | provisioned session participant applied returned =>
      obtain ⟨stored, member, state⟩ := enabled
      have next : RetirementOrdered ⟨.streamProvision participant.participantId 1, applied,
          returned⟩ world.history := {
        left := by rintro _ ⟨⟩
        faulted := by rintro _ ⟨⟩
        once := by rintro _ ⟨⟩
        live := by
          rintro id ⟨⟩
          exact orderly.live_stored coherent stored member
            (by rcases state with state | state <;> rw [state] <;> rfl) }
      cases applied <;> exact orderly.unstored rfl next rfl fun _ => rfl
  | revoked participantId applied returned =>
      cases applied <;> exact orderly.unstored rfl (ordered_plain rfl rfl) rfl fun _ => rfl

end World

/-! ## Runs -/

section Runs

variable {configuration : Configuration} {world : World}

theorem ReachableBy.orderly {admissible : World → Request → Prop}
    (reached : ReachableBy configuration admissible world) : world.Versioned ∧ world.Orderly :=
  reached.keeps_enabled (fun world => world.Versioned ∧ world.Orderly) ⟨.empty, .empty⟩
    fun _ _ coherent enabled orderly =>
      ⟨orderly.1.apply coherent enabled, orderly.2.apply orderly.1 coherent enabled⟩

/-- A save of the sweep meets its rule: it never fails a startup. -/
theorem World.Orderly.sweep_save {start : World} {session : Session} {update : Update}
    {updatedAt : Time} {dependencies : Dependencies} (versioned : world.Versioned)
    (stored : world.get session.sessionId = some session)
    (enabled : update.Enabled configuration world session)
    (saves : (Request.mk .sweep dependencies).Saves configuration start world session update)
    {item : Participant} (member : item ∈ (update.result session updatedAt).participants)
    (state : item.state = .error) :
    Preceded world.history (update.result session updatedAt) item item ∨
      RetiredIn world.history item.participantId := by
  rcases enabled.ended member (by rw [state]; rfl) with unchanged | retired | ⟨_, _, rfl, -⟩
  · refine Or.inl ⟨session, ?_, unchanged, rfl⟩
    rw [Update.result_sessionId, versioned.latest, stored]
  · exact Or.inr retired.1
  · cases saves with
    | failed _ _ cause _ _ => cases cause

/-- The retirement order holds throughout every run; and the sweep, which
creations and listings run first, stores no failed participant before its
retirement. -/
theorem retirement_ordered (configuration : Configuration) (world : World)
    (reached : Reachable configuration world) :
    Throughout RetirementOrdered world.history ∧
      ∀ dependencies, Throughout (SweepRetires world.history)
        (SessionService.sweep ⟨configuration, dependencies⟩ world).2.history := by
  refine ⟨reached.orderly.2.ordered, fun dependencies => ?_⟩
  let request : Request := ⟨.sweep, dependencies⟩
  have follows : request.Follows configuration world world
      (request.service configuration).sweep _ fun _ _ => True :=
    Request.follows_sweep rfl fun _ _ => trivial
  refine ((follows reached.coherent).1.keeps
    (fun later => (later.Versioned ∧ later.Orderly) ∧
      Throughout (SweepRetires world.history) later.history) reached.coherent ?_
    ⟨reached.orderly, ?_⟩).2
  · rintro later action coherent permitted enabled ⟨⟨versioned, orderly⟩, kept⟩
    refine ⟨⟨versioned.apply coherent enabled, orderly.apply versioned coherent enabled⟩,
      ?_⟩
    rw [show ((lobby configuration).apply later action).history = _ from
      Action.apply_history later action]
    refine throughout_cons.mpr ⟨?_, kept⟩
    rintro - record handed item member state
    cases action with
    | saved session update updatedAt applied returned =>
        obtain rfl := Option.some.inj handed
        exact World.Orderly.sweep_save versioned enabled.1 enabled.2 permitted.2 member state
    | added session owner applied returned =>
        obtain ⟨⟨_, _, operation, -⟩, -⟩ := permitted
        cases operation
    | observed event =>
        have noRecord : event.call.record = none := Call.record_of_readOnly enabled
        rw [show event.call.record = some record from handed] at noRecord
        cases noRecord
    | drew _ | created _ _ _ _ _ | removed _ _ _ | provisioned _ _ _ _ | revoked _ _ _ =>
        cases handed
  · rintro newer event earlier split within
    have length := congrArg List.length split
    rw [List.length_append, List.length_cons] at length
    omega

theorem left_lobby_retirement_ordered :
    ((storedRecords leftLobby.history).map fun record =>
      record.participants.map Participant.state) =
        [[.left], [.active], [.starting], [.starting], [.allocating]] ∧
      Throughout RetirementOrdered leftLobby.history :=
  ⟨by decide, (retirement_ordered .default leftLobby leftLobby_reachable).1⟩

end Runs

end RetroBrowser.SessionManager
