import RetroBrowser.SessionManager.Properties.Versions

/-!
Owns the Netplay topology: one host, and clients that join it. A join takes the
first entry with slot 1 as its host, whatever has become of it, so once the
owner has left an open lobby a guest is started as a client of a host that is
gone, and may be given slot 1 itself. Contract: as long as joins start runtimes
only while that entry is `ACTIVE`, they start clients of the live host, and no
client is ever stored in slot 1.
-/

namespace RetroBrowser.SessionManager

open RetroBrowser.Foundation ActionSystem

/-! ## The topology, read off the history -/

/-- The request of a call that starts a runtime. -/
def Call.runtimeRequest : Call → Option RuntimeRequest
  | .executionCreate request => some request
  | _ => none

/-- The requests of all attempted starts, latest first. -/
def createdRequests (history : List Event) : List RuntimeRequest :=
  history.filterMap fun event => event.call.runtimeRequest

/-- The start of a runtime was attempted. -/
abbrev Created (history : List Event) (request : RuntimeRequest) : Prop :=
  request ∈ createdRequests history

/-- A start later than `start` is of a client, pointed at a participant that is
`ACTIVE` in the latest version of the session and whose runtime was started as
the host of that session. -/
def StartsClient (start : List Event) (event : Event) (earlier : List Event) : Prop :=
  start.length ≤ earlier.length → ∀ request, event.call = .executionCreate request →
    request.role = .client ∧ ∃ record host hosting,
      (versions earlier request.sessionId).head? = some record ∧ host ∈ record.participants ∧
      host.state = .active ∧ request.hostParticipantId = some host.participantId ∧
      Created earlier hosting ∧ hosting.role = .host ∧
      hosting.sessionId = request.sessionId ∧ hosting.participantId = host.participantId

/-- No participant whose runtime is a client was ever stored in slot 1. -/
def ClientsAvoidFirstSlot (history : List Event) : Prop :=
  ∀ request, Created history request → request.role = .client →
    ∀ record ∈ storedRecords history, ∀ item ∈ record.participants,
      item.participantId = request.participantId → item.playerSlot ≠ 1

/-- Joins that start a runtime find their host `ACTIVE`. -/
def Request.JoinsHosted (configuration : Configuration) (world : World) (request : Request) :
    Prop :=
  ∀ session actor participant host, request.operation = .join session.sessionId actor →
    (request.service configuration).Launches world session actor participant host →
    host.state = .active

theorem Call.runtimeRequest_eq_some {call : Call} {request : RuntimeRequest} :
    call.runtimeRequest = some request ↔ call = .executionCreate request := by
  cases call <;> simp [Call.runtimeRequest]

theorem created_iff {history : List Event} {request : RuntimeRequest} :
    Created history request ↔ ∃ event ∈ history, event.call = .executionCreate request := by
  simp [Created, createdRequests, Call.runtimeRequest_eq_some]

theorem created_cons_iff {history : List Event} {event : Event} {request : RuntimeRequest} :
    Created (event :: history) request ↔
      event.call = .executionCreate request ∨ Created history request := by
  simp [created_iff]

theorem Created.started {history : List Event} {request : RuntimeRequest}
    (created : Created history request) : Started history request.participantId := by
  obtain ⟨event, member, call⟩ := created_iff.mp created
  exact ⟨event, member, request, call, rfl⟩

/-! ## The invariant -/

/-- The runtimes of stored participants: only hosts are started as such, no
client holds slot 1, and stored entries keep their slot. -/
structure World.Hosted (world : World) : Prop where
  hosts : ∀ session ∈ world.sessions, ∀ host, SessionService.hostOf session = some host →
    ∀ request, Created world.history request → request.participantId = host.participantId →
      request.role = .host ∧ request.sessionId = session.sessionId
  clients : ∀ session ∈ world.sessions, ∀ item ∈ session.participants,
    ∀ request, Created world.history request → request.participantId = item.participantId →
      request.role = .client → item.playerSlot ≠ 1
  kept : ∀ record ∈ storedRecords world.history, ∀ item ∈ record.participants,
    ∃ session, world.get record.sessionId = some session ∧ ∃ current ∈ session.participants,
      current.participantId = item.participantId ∧ current.playerSlot = item.playerSlot

namespace World

variable {configuration : Configuration} {world after start : World} {event : Event}
variable {session : Session} {request : Request}

theorem Hosted.empty : World.empty.Hosted where
  hosts _ member := by cases member
  clients _ member := by cases member
  kept _ member := by cases member

theorem Hosted.clientsAvoidFirstSlot (hosted : world.Hosted) :
    ClientsAvoidFirstSlot world.history := by
  intro request created client record stored item member same first
  obtain ⟨session, found, current, currentMember, sameId, sameSlot⟩ :=
    hosted.kept record stored item member
  exact hosted.clients session (InMemorySessionRepository.get_mem found).1 current currentMember
    request created (same.symm.trans sameId.symm) client (sameSlot.trans first)

/-- An event that starts nothing and stores nothing. -/
theorem Hosted.unstored (hosted : world.Hosted)
    (starts : ∀ started, event.call ≠ .executionCreate started)
    (storesNothing : event.stored = none) (history : after.history = event :: world.history)
    (sessions : after.sessions = world.sessions) : after.Hosted := by
  have created : ∀ started, Created after.history started → Created world.history started := by
    intro started
    rw [history, created_cons_iff]
    exact fun either => either.resolve_left (starts started)
  have same : ∀ id, after.get id = world.get id :=
    fun id => by rw [World.get, World.get, sessions]
  constructor
  · rw [sessions]
    exact fun session member host found started began =>
      hosted.hosts session member host found started (created started began)
  · rw [sessions]
    exact fun session member item itemMember started began =>
      hosted.clients session member item itemMember started (created started began)
  · simp only [history, storedRecords_none storesNothing, same]
    exact hosted.kept

/-- A new session, whose owner has no runtime yet. -/
theorem Hosted.added (hosted : world.Hosted) {owner : Participant}
    (opens : Action.Opens configuration world session owner) (returned : Bool) :
    (Action.apply world (.added session owner true returned)).Hosted := by
  have created : ∀ started, Created (Action.apply world
      (.added session owner true returned)).history started → Created world.history started := by
    intro started
    rw [Action.apply_history, created_cons_iff]
    exact fun either => either.resolve_left (by simp [Action.event])
  have unstarted : ∀ started, Created world.history started →
      started.participantId ≠ owner.participantId :=
    fun started began same => opens.unusedOwner.started (same ▸ began.started)
  have split : ∀ current ∈ (Action.apply world (.added session owner true returned)).sessions,
      current ∈ world.sessions ∨ current = session := by
    intro current member
    exact (List.mem_append.mp member).imp_right List.mem_singleton.mp
  constructor
  · intro current member host found started began same
    rcases split current member with earlier | rfl
    · exact hosted.hosts current earlier host found started (created started began) same
    · have hostMember := List.mem_of_find?_eq_some found
      rw [opens.participants, List.mem_singleton] at hostMember
      exact absurd (same.trans (by rw [hostMember])) (unstarted started (created started began))
  · intro current member item itemMember started began same
    rcases split current member with earlier | rfl
    · exact hosted.clients current earlier item itemMember started (created started began) same
    · rw [opens.participants, List.mem_singleton] at itemMember
      exact absurd (same.trans (by rw [itemMember])) (unstarted started (created started began))
  · have stores : (Action.event (.added session owner true returned)).stored = some session := rfl
    rw [Action.apply_history, storedRecords_some stores]
    intro record member item itemMember
    rcases List.mem_cons.mp member with rfl | earlier
    · exact ⟨record, get_insert opens.unusedSession, item, itemMember, rfl, rfl⟩
    · obtain ⟨current, found, rest⟩ := hosted.kept record earlier item itemMember
      refine ⟨current, (get_insert_other fun same => ?_).trans found, rest⟩
      rw [← same, opens.unusedSession] at found
      cases found

/-- A save of a stored session. -/
theorem Hosted.saved (hosted : world.Hosted) (coherent : Coherent world) {update : Update}
    (stored : world.get session.sessionId = some session)
    (enabled : update.Enabled configuration world session) (updatedAt : Time) (returned : Bool) :
    (Action.apply world (.saved session update updatedAt true returned)).Hosted := by
  have created : ∀ started, Created (Action.apply world
      (.saved session update updatedAt true returned)).history started →
        Created world.history started := by
    intro started
    rw [Action.apply_history, created_cons_iff]
    exact fun either => either.resolve_left (by simp [Action.event])
  have member := (InMemorySessionRepository.get_mem stored).1
  have sessionCoherent := coherent.sessions session member
  have identity : ∀ item ∈ session.participants, item.SameIdentity
      (update.revise updatedAt item) :=
    fun item itemMember =>
      (enabled.revise_conforms sessionCoherent.ids updatedAt itemMember).toSameIdentity
  constructor
  · intro current currentMember host found started began same
    rcases InMemorySessionRepository.mem_overwrite currentMember with rfl | ⟨earlier, -⟩
    · obtain ⟨owner, rest, participants, isHost, -⟩ := sessionCoherent.hostOf
      obtain ⟨isHost', sameId⟩ := enabled.hostOf sessionCoherent isHost updatedAt
      obtain rfl := Option.some.inj (isHost'.symm.trans found)
      rw [Update.result_sessionId]
      exact hosted.hosts session member owner isHost started (created started began)
        (same.trans sameId)
    · exact hosted.hosts current earlier host found started (created started began) same
  · intro current currentMember item itemMember started began same client
    rcases InMemorySessionRepository.mem_overwrite currentMember with rfl | ⟨earlier, -⟩
    · rcases Update.mem_result itemMember with ⟨before, beforeMember, rfl⟩ | rfl
      · rw [(identity before beforeMember).playerSlot]
        exact hosted.clients session member before beforeMember started (created started began)
          (same.trans (identity before beforeMember).participantId) client
      · obtain ⟨-, -, -, -, -, unused, -⟩ := enabled
        exact absurd (same ▸ (created started began).started) unused.started
    · exact hosted.clients current earlier item itemMember started (created started began) same
        client
  · have stores : (Action.event (.saved session update updatedAt true returned)).stored =
        some (update.result session updatedAt) := rfl
    have replaces : world.Replaces
        (world.save (update.result session updatedAt) session.revision) _ :=
      save_replaces stored (Update.result_sessionId session updatedAt update)
    rw [Action.apply_history, storedRecords_some stores]
    intro record recordMember item itemMember
    rcases List.mem_cons.mp recordMember with rfl | earlier
    · exact ⟨_, replaces.1, item, itemMember, rfl, rfl⟩
    · obtain ⟨before, found, current, currentMember, sameId, sameSlot⟩ :=
        hosted.kept record earlier item itemMember
      by_cases same : record.sessionId = session.sessionId
      · rw [same, stored] at found
        obtain rfl := Option.some.inj found
        have revised := identity current currentMember
        rw [same]
        exact ⟨_, get_overwrite stored (Update.result_sessionId session updatedAt update), _,
          Update.revised_mem update updatedAt currentMember,
          revised.participantId.trans sameId, revised.playerSlot.trans sameSlot⟩
      · refine ⟨before, (replaces.2 _ ?_).trans found, current,
          currentMember, sameId, sameSlot⟩
        rwa [Update.result_sessionId]

/-- The start of a client is a join's, in a session it just joined: the host is
the one it found, and the client holds another slot than a live host. -/
theorem Starts.client (coherent : Coherent world) {participant : Participant}
    {started : RuntimeRequest}
    (starts : Action.Starts configuration world session participant started)
    (launching : request.Launching configuration start session participant started)
    (client : started.role = .client) : ∃ host, SessionService.hostOf session = some host ∧
      host.participantId ≠ participant.participantId ∧
      started.hostParticipantId = some host.participantId ∧
      (request.JoinsHosted configuration start → host.state = .active ∧
        participant.playerSlot ≠ 1) := by
  cases launching with
  | host _ _ _ _ role _ =>
      rw [role] at client
      cases client
  | client actor before joined host _ operation _ hostId same sameSession entries launches =>
      obtain ⟨game, core, slot, admitted, isJoining, -⟩ := launches.admitted
      have isHost := launches.host
      have hostMember := List.mem_of_find?_eq_some isHost
      have hostSlot : host.playerSlot = 1 := by simpa using List.find?_some isHost
      refine ⟨host, ?_, ?_, hostId, fun joinsHosted => ?_⟩
      · rw [SessionService.hostOf, entries, List.find?_append,
          show before.participants.find? _ = some host from isHost]
        rfl
      · have distinct := (coherent.sessions session
          (InMemorySessionRepository.get_mem starts.stored).1).ids
        rw [entries, List.map_append, List.nodup_append] at distinct
        exact distinct.2.2 _ (List.mem_map_of_mem hostMember) _ (by simp)
      · have active := joinsHosted before actor joined host (sameSession ▸ operation) launches
        refine ⟨active, fun first => ?_⟩
        have joinedSlot : participant.playerSlot = slot := by rw [same, isJoining]; rfl
        refine (SessionService.freeSlot_some admitted.slot).2 (List.mem_map.mpr ⟨host, ?_, ?_⟩)
        · exact List.mem_filter.mpr ⟨hostMember, by rw [Participant.live, active]; rfl⟩
        · rw [hostSlot, ← joinedSlot, first]

/-- A start of a runtime. -/
theorem Hosted.created (hosted : world.Hosted) (coherent : Coherent world)
    (joinsHosted : request.JoinsHosted configuration start) {participant : Participant}
    {started : RuntimeRequest}
    (starts : Action.Starts configuration world session participant started)
    (launching : request.Launching configuration start session participant started)
    (applied returned : Bool) :
    (Action.apply world (.created session participant started applied returned)).Hosted := by
  have member := (InMemorySessionRepository.get_mem starts.stored).1
  have distinct := (coherent.sessions session member).ids
  have sessions : (Action.apply world
      (.created session participant started applied returned)).sessions = world.sessions := by
    cases applied <;> rfl
  have split : ∀ other, Created (Action.apply world
      (.created session participant started applied returned)).history other →
        other = started ∨ Created world.history other := by
    intro other
    rw [Action.apply_history, created_cons_iff]
    exact fun either => either.imp_left fun same => (Call.executionCreate.inj same).symm
  -- The participant is stored in one session only.
  have found : ∀ current ∈ world.sessions, ∀ item ∈ current.participants,
      started.participantId = item.participantId → current = session ∧ item = participant := by
    intro current currentMember item itemMember same
    have sameId := same.symm.trans starts.requested
    have sameSession := coherent.disjoint current currentMember session member item itemMember
      participant starts.member sameId
    obtain rfl := eq_of_key coherent.sessionIds currentMember member sameSession
    exact ⟨rfl, eq_of_key distinct itemMember starts.member sameId⟩
  constructor
  · rw [sessions]
    intro current currentMember host isHost other began same
    rcases split other began with rfl | earlier
    · obtain ⟨rfl, rfl⟩ :=
        found current currentMember host (List.mem_of_find?_eq_some isHost) same
      cases role : other.role with
      | host => exact ⟨rfl, starts.inSession⟩
      | client =>
          obtain ⟨host', isHost', different, -⟩ := Starts.client coherent starts launching role
          rw [isHost] at isHost'
          exact absurd (congrArg Participant.participantId (Option.some.inj isHost').symm) different
    · exact hosted.hosts current currentMember host isHost other earlier same
  · rw [sessions]
    intro current currentMember item itemMember other began same client
    rcases split other began with rfl | earlier
    · obtain ⟨rfl, rfl⟩ := found current currentMember item itemMember same
      obtain ⟨_, _, _, _, live⟩ := Starts.client coherent starts launching client
      exact (live joinsHosted).2
    · exact hosted.clients current currentMember item itemMember other earlier same client
  · have storesNothing : (Action.event
        (.created session participant started applied returned)).stored = none := by
      cases applied <;> rfl
    have same : ∀ id, (Action.apply world
        (.created session participant started applied returned)).get id = world.get id := by
      cases applied <;> exact fun _ => rfl
    simp only [Action.apply_history, storedRecords_none storesNothing, same]
    exact hosted.kept

theorem Hosted.apply (hosted : world.Hosted) (coherent : Coherent world)
    (joinsHosted : request.JoinsHosted configuration start) {action : Action}
    (permitted : request.Permits configuration start world action)
    (enabled : action.Enabled configuration world) : (action.apply world).Hosted := by
  cases action with
  | observed event =>
      have reads : event.call.readOnly = true := enabled
      refine hosted.unstored (fun started call => ?_) ?_ rfl rfl
      · rw [call] at reads
        cases reads
      · rw [Event.stored, Call.record_of_readOnly reads, ite_self]
  | drew id => exact hosted.unstored (by rintro _ ⟨⟩) rfl rfl rfl
  | added session owner applied returned =>
      cases applied with
      | false => exact hosted.unstored (by rintro _ ⟨⟩) rfl rfl rfl
      | true => exact hosted.added enabled returned
  | saved session update updatedAt applied returned =>
      cases applied with
      | false => exact hosted.unstored (by rintro _ ⟨⟩) rfl rfl rfl
      | true => exact hosted.saved coherent enabled.1 enabled.2 updatedAt returned
  | created session participant started applied returned =>
      exact hosted.created coherent joinsHosted enabled permitted applied returned
  | removed participantId applied returned =>
      cases applied <;> exact hosted.unstored (by rintro _ ⟨⟩) rfl rfl rfl
  | provisioned session participant applied returned =>
      cases applied <;> exact hosted.unstored (by rintro _ ⟨⟩) rfl rfl rfl
  | revoked participantId applied returned =>
      cases applied <;> exact hosted.unstored (by rintro _ ⟨⟩) rfl rfl rfl

end World

/-! ## Runs -/

section Runs

variable {configuration : Configuration} {world start : World} {request : Request}

/-- The start of a runtime by a join. -/
theorem World.Hosted.starts_client (hosted : world.Hosted) (versioned : world.Versioned)
    (coherent : Coherent world) (joinsHosted : request.JoinsHosted configuration start)
    {sessionId : UUID} {actor : Actor} (operation : request.operation = .join sessionId actor)
    {session : Session} {participant : Participant} {started : RuntimeRequest}
    (starts : Action.Starts configuration world session participant started)
    (launching : request.Launching configuration start session participant started)
    (applied returned : Bool) :
    StartsClient start.history ⟨.executionCreate started, applied, returned⟩ world.history := by
  rintro - _ ⟨⟩
  have client : started.role = .client := by
    cases launching with
    | host _ _ _ created _ _ =>
        rw [operation] at created
        cases created
    | client _ _ _ _ _ _ role _ _ _ _ _ => exact role
  obtain ⟨host, isHost, -, hostId, live⟩ := World.Starts.client coherent starts launching client
  have member := (InMemorySessionRepository.get_mem starts.stored).1
  have hostMember := List.mem_of_find?_eq_some isHost
  have active := (live joinsHosted).1
  obtain ⟨event, recorded, hosting, call, sameId⟩ :=
    (coherent.sessions session member).started host hostMember active
  have created : Created world.history hosting := created_iff.mpr ⟨event, recorded, call⟩
  have role := hosted.hosts session member host isHost hosting created sameId
  refine ⟨client, session, host, hosting, ?_, hostMember, active, hostId, created, role.1, ?_,
    sameId⟩
  · rw [starts.inSession, versioned.latest, starts.stored]
  · rw [role.2, starts.inSession]

/-- In runs whose joins find their host active, no client is ever stored in
slot 1, and every start of a runtime by a join is of a client of the live host. -/
theorem joins_start_clients_of_live_host (configuration : Configuration) (world : World)
    (reached : ReachableBy configuration
      (fun world request => request.JoinsHosted configuration world) world) :
    ClientsAvoidFirstSlot world.history ∧
      ∀ request : Request, request.JoinsHosted configuration world →
        (∃ sessionId actor, request.operation = .join sessionId actor) →
          Throughout (StartsClient world.history) (request.after configuration world).history := by
  have holds : world.Versioned ∧ world.Hosted :=
    reached.keeps (fun world => world.Versioned ∧ world.Hosted) ⟨.empty, .empty⟩
      fun _ _ _ _ joinsHosted _ _ coherent permitted enabled holds =>
        ⟨holds.1.apply coherent enabled, holds.2.apply coherent joinsHosted permitted enabled⟩
  refine ⟨holds.2.clientsAvoidFirstSlot, ?_⟩
  rintro request joinsHosted ⟨sessionId, actor, operation⟩
  refine ((Request.path_after reached.coherent).keeps
    (fun later => (later.Versioned ∧ later.Hosted) ∧
      Throughout (StartsClient world.history) later.history) reached.coherent ?_ ⟨holds, ?_⟩).2
  · rintro later action coherent permitted enabled ⟨⟨versioned, hosted⟩, kept⟩
    refine ⟨⟨versioned.apply coherent enabled,
      hosted.apply coherent joinsHosted permitted enabled⟩, ?_⟩
    rw [show ((lobby configuration).apply later action).history = _ from
      Action.apply_history later action]
    refine throughout_cons.mpr ⟨?_, kept⟩
    cases action with
    | created session participant started applied returned =>
        exact hosted.starts_client versioned coherent joinsHosted operation enabled permitted
          applied returned
    | observed event =>
        have reads : event.call.readOnly = true := enabled
        rintro - started call
        rw [show event.call = .executionCreate started from call] at reads
        cases reads
    | drew _ | added _ _ _ _ | saved _ _ _ _ _ | removed _ _ _ | provisioned _ _ _ _
    | revoked _ _ _ => rintro - _ ⟨⟩
  · rintro newer event earlier split within
    have length := congrArg List.length split
    rw [List.length_append, List.length_cons] at length
    omega

/-- Where the slot-1 entries of all sessions are active, every join finds its host active. -/
theorem Request.joinsHosted_of_active (active : ∀ session ∈ world.sessions,
    ∀ item ∈ session.participants, item.playerSlot = 1 → item.state = .active) :
    request.JoinsHosted configuration world := by
  intro session actor participant host _ launches
  obtain ⟨game, core, slot, admitted, -⟩ := launches.admitted
  exact active session (InMemorySessionRepository.get_mem admitted.stored).1 host
    (List.mem_of_find?_eq_some launches.host) (by simpa using List.find?_some launches.host)

end Runs

theorem joined_lobby_starts_client_of_live_host :
    (createdRequests (lobbyJoin.after .default createdLobby).history).map
        (fun request => (request.role, request.hostParticipantId)) =
          [(.client, some 9), (.host, none)] ∧
      Throughout (StartsClient createdLobby.history)
        (lobbyJoin.after .default createdLobby).history :=
  ⟨by decide +kernel, (joins_start_clients_of_live_host .default createdLobby
    (.request .empty ⟨lobbyCreation, Dependencies.fakes fun _ => 0⟩
      (Request.joinsHosted_of_active (by decide)))).2 lobbyJoin
        (Request.joinsHosted_of_active (by decide +kernel)) ⟨8, secondActor, rfl⟩⟩

/-- After the owner left the open lobby, a join starts a client of the departed
host, and stores it in slot 1. -/
theorem join_after_owner_left_starts_client_of_departed_host :
    Reachable .default leftLobby ∧
      leftLobby.sessions.map (fun session => session.participants.map fun item =>
        (item.participantId, item.state)) = [[(9, .left)]] ∧
      (createdRequests (lobbyJoin.after .default leftLobby).history).map
        (fun request => (request.role, request.hostParticipantId)) =
          [(.client, some 9), (.host, none)] ∧
      ¬ ClientsAvoidFirstSlot (lobbyJoin.after .default leftLobby).history := by
  refine ⟨leftLobby_reachable, by decide +kernel, by decide +kernel, fun avoids => ?_⟩
  have taken : ∃ request ∈ createdRequests (lobbyJoin.after .default leftLobby).history,
      request.role = .client ∧
        ∃ record ∈ storedRecords (lobbyJoin.after .default leftLobby).history,
          ∃ item ∈ record.participants, item.participantId = request.participantId ∧
            item.playerSlot = 1 := by decide +kernel
  obtain ⟨request, created, client, record, stored, item, member, same, first⟩ := taken
  exact avoids request created client record stored item member same first

end RetroBrowser.SessionManager
