import RetroBrowser.SessionManager.Properties.Answers
import RetroBrowser.SessionManager.Properties.Requests

/-!
Owns what the service sees of the agent through the socket.

Contract: an operation of the adapter is the operation of the agent's service, with its records
read as handles and its errors as refusals, which keep the HTTP status and not the message.
Documents and bytes in between change nothing, apart from an answer that is too long.
-/

namespace RetroBrowser.SessionManager

open RetroBrowser.Foundation Program
open RuntimeAgent (AgentProgram Host RuntimeRecord)
open RuntimeAgent.RuntimeRequestHandler (dispatch dispatchCreate invalidRequest
  sentError serve)
open Validation (Issue)

/-- The service's value for a health status. -/
def HealthStatus.seen : RuntimeAgent.HealthStatus → HealthStatus
  | .none => .none
  | .starting => .starting
  | .healthy => .healthy
  | .unhealthy => .unhealthy

/-- The handle of a record. -/
def RuntimeHandle.seen (record : RuntimeRecord) : RuntimeHandle where
  runtimeId := record.participantId
  state := record.state.text
  healthStatus := HealthStatus.seen record.healthStatus

/-- The host belongs to the role. -/
def Suits (request : RuntimeRequest) : Prop :=
  ¬(request.role = .host ∧ request.hostParticipantId ≠ none) ∧
    ¬(request.role = .client ∧ request.hostParticipantId = none)

theorem suits_of_askable {provider : LocalRuntimeAgentProvider} {request : RuntimeRequest}
    (askable : provider.Askable request) : Suits request := by
  have host := askable.host
  constructor
  · rintro ⟨role, named⟩
    have client := host.mp (Option.isSome_iff_ne_none.mpr named)
    simp [role] at client
  · rintro ⟨client, unnamed⟩
    simp [client, unnamed] at host

namespace AgentSocket

open LocalRuntimeAgentProvider (maxResponseBytes received unavailable)

variable (socket : AgentSocket) {α β : Type}

def tooLarge : Error := .orchestration "Runtime Agent response is too large"

/-- What a refusal becomes: of the agent's error, its HTTP status. -/
def refused (error : RuntimeAgent.Error) : Except Error β :=
  .error (.orchestration s!"Runtime Agent rejected the operation with HTTP {error.status}")

/-- What a refused removal becomes: a runtime that is not found is gone. -/
def refusedRemoval (error : RuntimeAgent.Error) : Except Error Unit :=
  if error.status = 404 then .ok ()
  else .error (.orchestration s!"Runtime Agent rejected removal with HTTP {error.status}")

/-- An answer, unless it is too long. -/
def unlessTooLarge (document : Json) (answer : Except Error β) : Program Host Error β :=
  if maxResponseBytes < document.dumps.length then throw tooLarge else Program.ofExcept answer

/-- A program of the agent, as it is seen through a connection that works. -/
def seen (program : AgentProgram α) (document : α → Json) (value : α → β)
    (refusal : RuntimeAgent.Error → Except Error β) : Program Host Error β := fun host =>
  match program host with
  | (.returned result, after) => unlessTooLarge (document result) (.ok (value result)) after
  | (.raised error, after) => unlessTooLarge (sentError error.shown) (refusal error) after
  | (.stopped, after) => (.raised unavailable, after)

/-- The same through any connection. -/
def through (program : Program Host Error β) : Program Host Error β := fun host =>
  match socket.link with
  | .works => program host
  | .unreachable => (.raised unavailable, host)
  | .silent | .late => (.raised unavailable, (program host).2)

/-! ## Documents on their way -/

section Documents

theorem received_dumps {document : Json} (status : ℤ) (own : document.exact = true)
    (tidied : document.tidy = true) :
    received socket.loads status (Json.encodeUtf8 document.dumps) =
      if maxResponseBytes < document.dumps.length then .error tooLarge
      else .ok (status, document.toPython socket.float) := by
  unfold received readDocument loads
  rw [encoded_length own, Json.loadsPython_dumps own tidied]
  rfl

theorem sentError_sound (text : String) :
    (sentError text).exact = true ∧ (sentError text).tidy = true :=
  ⟨rfl, rfl⟩

theorem dump_sound (record : RuntimeRecord) :
    record.dump.exact = true ∧ record.dump.tidy = true := by
  constructor
  · rfl
  · simp [RuntimeRecord.dump, Json.tidy, Json.tidyMembers]

theorem items_sound (records : List RuntimeRecord) :
    (Json.object [("items", .array (records.map RuntimeRecord.dump))]).exact = true ∧
      (Json.object [("items", .array (records.map RuntimeRecord.dump))]).tidy = true := by
  have exacts : (records.map RuntimeRecord.dump).all Json.exact = true := by
    simp [dump_sound]
  have tidies : (records.map RuntimeRecord.dump).all Json.tidy = true := by
    simp [dump_sound]
  constructor
  · simp only [Json.exact, Json.exactMembers, Json.exactItems_eq, exacts, Bool.and_true]
  · simp only [Json.tidy, Json.tidyMembers, Json.tidyItems_eq, tidies, Bool.and_true]
    rfl

theorem invalidRequest_sound (issues : List Issue) :
    (invalidRequest issues).exact = true ∧ (invalidRequest issues).tidy = true := by
  constructor
  · simp [invalidRequest, Json.exact, Json.exactMembers, Json.exactItems_eq]
  · simp [invalidRequest, Json.tidy, Json.tidyMembers, Json.tidyItems_eq]

end Documents

/-! ## Requests that are served -/

section Served

variable {method path : String} {payload : Option Json} {program : AgentProgram α} {status : ℤ}
  {document : α → Json} {value : α → β} {refusal : RuntimeAgent.Error → Except Error β}
  {operation : AgentRequester → Except Error β}

/-- The agent runs the program and answers with its document. -/
def Serves (method path : String) (payload : Option Json) (program : AgentProgram α) (status : ℤ)
    (document : α → Json) : Prop :=
  dispatch socket.service socket.health (sent method path payload) = do
    let result ← program
    pure (status, document result)

/-- An operation that reads these documents. -/
structure Reads (operation : AgentRequester → Except Error β) (status : ℤ)
    (document : α → Json)
    (value : α → β) (refusal : RuntimeAgent.Error → Except Error β) : Prop where
  value : ∀ result, operation (fun _ _ _ =>
    .ok (status, (document result).toPython socket.float)) = .ok (value result)
  refusal : ∀ error, operation (fun _ _ _ =>
    .ok (error.status, (sentError error.shown).toPython socket.float)) = refusal error

/-- What `_request` returns of an answer. -/
def answered (status : ℤ) (document : Json) : Program Host Error (ℤ × PythonValue) :=
  unlessTooLarge document (.ok (status, document.toPython socket.float))

theorem request_served (serves : socket.Serves method path payload program status document)
    (sound : ∀ result, (document result).exact = true ∧ (document result).tidy = true)
    (host : Host) : socket.request method path payload host =
      match socket.link, program host with
      | .unreachable, _ => (.raised unavailable, host)
      | .works, (.returned result, after) => socket.answered status (document result) after
      | .works, (.raised error, after) => socket.answered error.status (sentError error.shown) after
      | _, (_, after) => (.raised unavailable, after) := by
  unfold request serve
  rw [tryCatch_apply, serves, bind_apply]
  rcases program host with ⟨outcome, after⟩
  cases outcome with
  | returned result =>
      have read := socket.received_dumps status (sound result).1 (sound result).2
      cases socket.link with
      | works =>
          simp only [pure_apply, read, answered, unlessTooLarge]
          split <;> rfl
      | unreachable | silent | late => rfl
  | raised error =>
      have read := socket.received_dumps error.status (sentError_sound error.shown).1
        (sentError_sound error.shown).2
      cases socket.link with
      | works =>
          simp only [pure_apply, read, answered, unlessTooLarge]
          split <;> rfl
      | unreachable | silent | late => rfl
  | stopped => cases socket.link <;> rfl

/-- A request that is served is seen as its program. -/
theorem asking_served (serves : socket.Serves method path payload program status document)
    (sound : ∀ result, (document result).exact = true ∧ (document result).tidy = true)
    (reads : socket.Reads operation status document value refusal) :
    asking socket.request method path payload operation =
      socket.through (seen program document value refusal) := by
  funext host
  unfold asking through seen
  rw [bind_apply, socket.request_served serves sound]
  rcases program host with ⟨outcome, after⟩
  cases outcome with
  | returned result =>
      cases socket.link with
      | works =>
          by_cases long : maxResponseBytes < (document result).dumps.length
          · simp only [answered, unlessTooLarge, if_pos long]
            rfl
          · simp only [answered, unlessTooLarge, if_neg long, Program.ofExcept, pure_apply,
              reads.value]
      | unreachable => rfl
      | silent | late =>
          simp only [unlessTooLarge]
          split <;> rfl
  | raised error =>
      cases socket.link with
      | works =>
          by_cases long : maxResponseBytes < (sentError error.shown).dumps.length
          · simp only [answered, unlessTooLarge, if_pos long]
            rfl
          · simp only [answered, unlessTooLarge, if_neg long, Program.ofExcept, pure_apply,
              reads.refusal]
      | unreachable => rfl
      | silent | late =>
          simp only [unlessTooLarge]
          split
          · rfl
          · cases refusal error <;> rfl
  | stopped => cases socket.link <;> rfl

end Served

/-! ## The operations -/

section Operations

variable (participantId : UUID)

theorem path_ne (other : String) (short : other.length ≠ 49) :
    "/v1/runtimes/" ++ UUID.str participantId ≠ other := by
  intro same
  apply short
  rw [← same, String.length_append, UUID.str_length]
  rfl

theorem serves_inspect : socket.Serves "GET" ("/v1/runtimes/" ++ UUID.str participantId) none
    (socket.service.inspectRuntime participantId) 200 RuntimeRecord.dump := by
  have health := path_ne participantId "/v1/health" (by decide)
  have runtimes := path_ne participantId "/v1/runtimes" (by decide)
  have capacity := path_ne participantId "/v1/capacity" (by decide)
  unfold Serves dispatch RuntimeAgent.RuntimeRequestHandler.dispatchRuntime
  simp [sent, health, runtimes, capacity, RuntimeAgent.RuntimeRequestHandler.runtimeId_path]

theorem serves_remove : socket.Serves "DELETE" ("/v1/runtimes/" ++ UUID.str participantId) none
    (socket.service.removeRuntime participantId) 200
    (fun _ => .object [("removed", .bool true)]) := by
  unfold Serves dispatch RuntimeAgent.RuntimeRequestHandler.dispatchRuntime
  simp [sent, RuntimeAgent.RuntimeRequestHandler.runtimeId_path]

theorem serves_list : socket.Serves "GET" "/v1/runtimes" none socket.service.listManagedRuntimes 200
    (fun records => .object [("items", .array (records.map RuntimeRecord.dump))]) := by
  unfold Serves dispatch
  simp [sent]

theorem record_members (record : RuntimeRecord) : socket.provider.record
    [("participant_id", .str (UUID.str record.participantId)),
      ("container_id", .str record.containerId), ("container_name", .str record.containerName),
      ("state", .str record.state.text), ("health_status", .str record.healthStatus.text),
      ("stream_subfolder", .str record.streamSubfolder), ("orphaned", .bool record.orphaned)] =
    .ok (RuntimeHandle.seen record) := by
  have health : LocalRuntimeAgentProvider.healthStatus (.str record.healthStatus.text) =
      .ok (HealthStatus.seen record.healthStatus) := by
    cases record.healthStatus <;> rfl
  have parsed : LocalRuntimeAgentProvider.toUUID (UUID.str record.participantId) =
      .ok record.participantId := by
    rw [LocalRuntimeAgentProvider.toUUID, UUID.parse_str]
  exact LocalRuntimeAgentProvider.record_ok.mpr
    { runtimeId := ⟨_, rfl, _, rfl, parsed⟩
      state := ⟨_, rfl, rfl⟩
      healthStatus := ⟨_, rfl, health⟩ }

theorem handle_dump {status : ℤ} (accepted : ¬(status < 200 ∨ 300 ≤ status))
    (record : RuntimeRecord) :
    socket.provider.handle status (record.dump.toPython socket.float) =
      .ok (RuntimeHandle.seen record) := by
  unfold LocalRuntimeAgentProvider.handle
  rw [if_neg accepted]
  simp only [RuntimeRecord.dump, Json.toPython, Json.membersToPython, socket.record_members,
    translating]

theorem handle_outside {status : ℤ} (outside : status < 200 ∨ 300 ≤ status)
    (document : PythonValue) : socket.provider.handle status document =
      .error (.orchestration s!"Runtime Agent rejected the operation with HTTP {status}") := by
  unfold LocalRuntimeAgentProvider.handle
  rw [if_pos outside]

theorem handle_refused (error : RuntimeAgent.Error) (document : PythonValue) :
    socket.provider.handle error.status document = refused error := by
  have outside : error.status < 200 ∨ 300 ≤ error.status := by
    cases error <;> simp [RuntimeAgent.Error.status]
  exact socket.handle_outside outside document

theorem inspect_answered (provider : LocalRuntimeAgentProvider) (status : ℤ)
    (document : PythonValue) :
    provider.inspect (fun _ _ _ => .ok (status, document)) participantId =
      provider.handle status document := rfl

theorem list_answered (provider : LocalRuntimeAgentProvider) (status : ℤ)
    (document : PythonValue) :
    provider.list (fun _ _ _ => .ok (status, document)) = provider.listed status document := rfl

theorem reads_inspect : socket.Reads
    (fun requester => socket.provider.inspect requester participantId) 200 RuntimeRecord.dump
    RuntimeHandle.seen refused where
  value record := (inspect_answered _ _ _ _).trans (socket.handle_dump (by decide) record)
  refusal error := (inspect_answered _ _ _ _).trans (socket.handle_refused error _)

theorem reads_list : socket.Reads (fun requester => socket.provider.list requester) 200
    (fun records : List RuntimeRecord =>
      .object [("items", .array (records.map RuntimeRecord.dump))])
    (fun records => records.map RuntimeHandle.seen) refused where
  value records := by
    have items : ∀ records : List RuntimeRecord, (Json.itemsToPython socket.float
        (records.map RuntimeRecord.dump)).mapM (socket.provider.handle 200) =
        .ok (records.map RuntimeHandle.seen) := by
      intro records
      induction records with
      | nil => rfl
      | cons record rest inductionHypothesis =>
          rw [List.map_cons, Json.itemsToPython, List.mapM_cons,
            socket.handle_dump (by decide) record, inductionHypothesis]
          rfl
    rw [list_answered]
    exact items records
  refusal error := by
    have other : error.status ≠ 200 := by
      cases error <;> simp [RuntimeAgent.Error.status]
    rw [list_answered]
    exact if_pos other

theorem reads_remove : socket.Reads
    (fun requester => LocalRuntimeAgentProvider.remove requester participantId) 200
    (fun _ : Unit => .object [("removed", .bool true)]) id refusedRemoval where
  value _ := rfl
  refusal error := by
    unfold LocalRuntimeAgentProvider.remove refusedRemoval
    cases error <;> rfl

end Operations

/-! ## Creation -/

section Creation

variable {socket} {request : RuntimeRequest}

theorem dispatch_post (payload : Option Json) :
    dispatch socket.service socket.health (sent "POST" "/v1/runtimes" payload) =
      dispatchCreate socket.service (sent "POST" "/v1/runtimes" payload) := by
  unfold dispatch
  rw [if_neg (by simp [sent]), if_neg (by simp [sent]), if_neg (by simp [sent]),
    if_pos (by simp [sent])]

theorem dispatchCreate_read {service : RuntimeAgent.RuntimeService}
    {message : RuntimeAgent.HttpRequest} {members : List (String × Json)}
    (body : RuntimeAgent.RuntimeRequestHandler.body service.library.tables message = .ok members) :
    dispatchCreate service message =
      match RuntimeAgent.CreateRuntimeRequest.modelValidate service.library.tables
        (.object members) with
      | .error issues => pure (400, invalidRequest issues)
      | .ok request => service.createRuntime request >>= fun record => pure (201, record.dump) := by
  rw [dispatchCreate, body]
  rfl

/-- The agent's models take the request, and its body is not too long. -/
def Takes (socket : AgentSocket) (request : RuntimeRequest) : Prop :=
  (socket.provider.asked request).valid socket.service.library.tables = true ∧
    (Json.dumps (.object (socket.provider.payloadMembers request))).length ≤
      RuntimeAgent.RuntimeRequestHandler.maxRequestBytes

theorem takes_iff (askable : socket.provider.Askable request)
    (agrees : Hostname.AgreesOnAscii socket.service.library.tables.isAlnum) :
    socket.Takes request ↔ socket.provider.Fits request := by
  unfold Takes
  rw [askable.valid_asked_iff agrees]
  exact ⟨And.left, fun fits => ⟨fits, askable.payload_length_le fits⟩⟩

/-- A request that the agent takes is a creation. -/
theorem serves_create (config : socket.provider.config.valid = true)
    (lower : socket.service.library.tables.lower "application/json".toList =
      "application/json".toList) (takes : socket.Takes request) :
    socket.Serves "POST" "/v1/runtimes" (some (socket.provider.payload request))
      (socket.service.createRuntime (socket.provider.asked request)) 201 RuntimeRecord.dump := by
  obtain ⟨members, body, validated⟩ := (LocalRuntimeAgentProvider.handed config lower
    (socket.provider.asked request)).mpr ⟨rfl, takes⟩
  unfold Serves
  rw [dispatch_post, dispatchCreate_read body, validated]

theorem create_answered (suits : Suits request) (status : ℤ)
    (document : PythonValue) :
    socket.provider.create (fun _ _ _ => .ok (status, document)) request =
      socket.provider.handle status document := by
  unfold LocalRuntimeAgentProvider.create
  rw [if_neg suits.1, if_neg suits.2]
  rfl

theorem create_asks (suits : Suits request) :
    socket.create request = asking socket.request "POST" "/v1/runtimes"
      (some (socket.provider.payload request)) fun requester =>
        socket.provider.create requester request := by
  unfold create LocalRuntimeAgentProvider.createThrough Program.raiseIf
  rw [if_neg suits.1, if_neg suits.2]
  rfl

theorem create_unsuited (socket : AgentSocket) (suits : ¬Suits request) (host : Host) :
    ∃ message, socket.create request host = (.raised (.value message), host) := by
  unfold create LocalRuntimeAgentProvider.createThrough
  by_cases named : request.role = .host ∧ request.hostParticipantId ≠ none
  · rw [Program.raiseIf, if_pos named]
    exact ⟨_, rfl⟩
  · have unnamed : request.role = .client ∧ request.hostParticipantId = none :=
      not_not.mp fun client => suits ⟨named, client⟩
    rw [Program.raiseIf, if_neg named, Program.raiseIf, if_pos unnamed]
    exact ⟨_, rfl⟩

/-- Any other request is refused before the agent does anything. -/
theorem create_refused (config : socket.provider.config.valid = true) (suits : Suits request)
    (lower : socket.service.library.tables.lower "application/json".toList =
      "application/json".toList) (takes : ¬socket.Takes request) (host : Host) :
    ∃ message, socket.create request host = (.raised (.orchestration message), host) := by
  have refuses : ∀ status document, (status < 200 ∨ 300 ≤ status) →
    document.exact = true →
      document.tidy = true → serve socket.service socket.health (sent "POST" "/v1/runtimes"
        (some (socket.provider.payload request))) host = (.returned (status, document), host) →
      ∃ message, socket.create request host = (.raised (.orchestration message), host) := by
    intro status document outside own tidied served
    have read := socket.received_dumps status own tidied
    rw [create_asks suits]
    unfold asking
    rw [bind_apply]
    unfold AgentSocket.request
    rw [served]
    cases socket.link with
    | unreachable | silent | late => exact ⟨_, rfl⟩
    | works =>
        simp only [read]
        by_cases long : maxResponseBytes < document.dumps.length
        · rw [if_pos long]
          exact ⟨_, rfl⟩
        · simp only [if_neg long, Program.ofExcept, pure_apply, create_answered suits,
            socket.handle_outside outside]
          exact ⟨_, rfl⟩
  cases body : RuntimeAgent.RuntimeRequestHandler.body socket.service.library.tables
      (sent "POST" "/v1/runtimes" (some (socket.provider.payload request))) with
  | error error =>
      apply refuses error.status (sentError error.shown) _ rfl rfl
      · unfold serve
        rw [tryCatch_apply, dispatch_post, dispatchCreate, body]
        rfl
      · cases error <;> simp [RuntimeAgent.Error.status]
  | ok members =>
      cases validated : RuntimeAgent.CreateRuntimeRequest.modelValidate
          socket.service.library.tables (.object members) with
      | ok read =>
          obtain ⟨_, taken⟩ := (LocalRuntimeAgentProvider.handed config lower read).mp
            ⟨members, body, validated⟩
          exact absurd taken takes
      | error issues =>
          apply refuses 400 (invalidRequest issues) (by decide) (invalidRequest_sound issues).1
            (invalidRequest_sound issues).2
          unfold serve
          rw [tryCatch_apply, dispatch_post, dispatchCreate_read body, validated]
          rfl

theorem reads_create (suits : Suits request) : socket.Reads
    (fun requester => socket.provider.create requester request) 201 RuntimeRecord.dump
    RuntimeHandle.seen refused where
  value record := (create_answered suits _ _).trans (socket.handle_dump (by decide) record)
  refusal error := (create_answered suits _ _).trans (socket.handle_refused error _)

end Creation

end AgentSocket

/-- Through the socket the adapter's operations are the agent's: they return the handles of its
records, tell the HTTP status of its errors, and say that the agent is unavailable where it stops,
the connection fails or the answer is late. A creation that the agent's models refuse changes
nothing there. -/
theorem agent_calls_seen (socket : AgentSocket)
    (agrees : Hostname.AgreesOnAscii socket.service.library.tables.isAlnum)
    (lower : socket.service.library.tables.lower "application/json".toList =
      "application/json".toList) :
    (∀ request, socket.provider.Askable request →
      (socket.provider.Fits request → socket.create request = socket.through
        (AgentSocket.seen (socket.service.createRuntime (socket.provider.asked request))
          RuntimeRecord.dump RuntimeHandle.seen AgentSocket.refused)) ∧
      (¬socket.provider.Fits request → ∀ host, ∃ message,
        socket.create request host = (.raised (.orchestration message), host))) ∧
    (∀ participantId, socket.inspect participantId = socket.through
      (AgentSocket.seen (socket.service.inspectRuntime participantId)
        RuntimeRecord.dump RuntimeHandle.seen AgentSocket.refused)) ∧
    socket.list = socket.through (AgentSocket.seen socket.service.listManagedRuntimes
      (fun records => .object [("items", .array (records.map RuntimeRecord.dump))])
      (fun records => records.map RuntimeHandle.seen) AgentSocket.refused) ∧
    ∀ participantId, socket.remove participantId = socket.through
      (AgentSocket.seen (socket.service.removeRuntime participantId)
        (fun _ => .object [("removed", .bool true)]) id AgentSocket.refusedRemoval) := by
  constructor
  · intro request askable
    constructor
    · intro fits
      have takes := (AgentSocket.takes_iff askable agrees).mpr fits
      rw [AgentSocket.create_asks (suits_of_askable askable)]
      exact socket.asking_served (AgentSocket.serves_create askable.config lower takes)
        AgentSocket.dump_sound (AgentSocket.reads_create (suits_of_askable askable))
    · intro fits
      have takes := (AgentSocket.takes_iff askable agrees).not.mpr fits
      exact AgentSocket.create_refused askable.config (suits_of_askable askable) lower takes
  constructor
  · intro participantId
    exact socket.asking_served (socket.serves_inspect participantId) AgentSocket.dump_sound
      (socket.reads_inspect participantId)
  constructor
  · exact socket.asking_served socket.serves_list AgentSocket.items_sound socket.reads_list
  · intro participantId
    exact socket.asking_served (socket.serves_remove participantId) (fun _ => ⟨rfl, rfl⟩)
      (socket.reads_remove participantId)

/-- A connection that works, to an agent whose calls all work. -/
def exampleSocket : AgentSocket where
  provider := exampleAdapter
  service := RuntimeAgent.exampleAgent.service .working
  health := pure true
  link := .works
  float _ := .nan

theorem example_agent_calls_seen : exampleSocket.create exampleHostRequest =
    exampleSocket.through (AgentSocket.seen
      (exampleSocket.service.createRuntime (exampleAdapter.asked exampleHostRequest))
      RuntimeRecord.dump RuntimeHandle.seen AgentSocket.refused) :=
  ((agent_calls_seen exampleSocket exampleTables_agrees (by decide)).1 exampleHostRequest
    exampleHostRequest_askable).1 exampleHostRequest_fits

end RetroBrowser.SessionManager
