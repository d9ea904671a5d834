import RetroBrowser.Foundation.Script
import RetroBrowser.RuntimeAgent.Properties.Hosting
import RetroBrowser.SessionManager.Properties.AgentCalls
import RetroBrowser.SessionManager.World

/-!
Owns the provider of runtimes that the service's model assumes, and the agent behind its socket,
which is one.

Contract: the service's model knows a list of participants with a runtime, and calls that fail
before or after their effect. The agent has containers, files and labels, answers in documents,
stops in the middle of an operation and cleans up. While no container disappears on its own and
no request is still served when the next call begins, no conversation tells the two apart.
-/

namespace RetroBrowser.SessionManager

open RetroBrowser.Foundation Program
open RuntimeAgent (Agent AgentProgram Calmly Host Hosts RuntimeRecord excluding growing including)
open RuntimeAgent.RuntimeService (creationPost removalPost)

/-! ## Conversations -/

/-- What the service asks of its execution provider. -/
inductive ExecutionCall where
  | create (request : RuntimeRequest)
  | inspect (participantId : UUID)
  | list
  | remove (participantId : UUID)
deriving DecidableEq, Repr

inductive ExecutionReply where
  | runtime (handle : RuntimeHandle)
  | runtimes (handles : List RuntimeHandle)
  | removed
deriving DecidableEq, Repr

namespace ExecutionCall

/-- The call in the service's model. -/
def program (service : SessionService) : ExecutionCall → ServiceProgram ExecutionReply
  | .create request => ExecutionReply.runtime <$> service.executionCreate request
  | .inspect participantId => ExecutionReply.runtime <$> service.executionInspect participantId
  | .list => ExecutionReply.runtimes <$> service.executionList
  | .remove participantId =>
    (fun _ => ExecutionReply.removed) <$> service.executionRemove participantId

/-- The call to the agent. -/
def through (socket : AgentSocket) : ExecutionCall → Program Host Error ExecutionReply
  | .create request => ExecutionReply.runtime <$> socket.create request
  | .inspect participantId => ExecutionReply.runtime <$> socket.inspect participantId
  | .list => ExecutionReply.runtimes <$> socket.list
  | .remove participantId => (fun _ => ExecutionReply.removed) <$> socket.remove participantId

/-- What the call does to the participants with a runtime. -/
def effect : ExecutionCall → List UUID → List UUID
  | .create request => including request.participantId
  | .remove participantId => excluding participantId
  | .inspect _ | .list => id

/-- What the call may answer. -/
def Answers (participants : List UUID) : ExecutionCall → ExecutionReply → Prop
  | .create _, .runtime _ | .inspect _, .runtime _ => True
  | .list, .runtimes handles => handles.map (fun handle => handle.runtimeId) = participants
  | .remove _, .removed => True
  | _, _ => False

end ExecutionCall

/-- A call, how the socket and the agent behave meanwhile, and what else the agent has done. -/
structure Turn where
  socket : AgentSocket
  meanwhile : List RuntimeAgent.Step
  call : ExecutionCall

namespace Turn

variable (turn : Turn)

/-- The agent at the other end. -/
def agent : Agent := ⟨turn.socket.service.config, turn.socket.service.library⟩

def run : Program Host Error ExecutionReply := fun host =>
  turn.call.through turn.socket (turn.agent.execute host turn.meanwhile)

/-- The adapter's configuration is accepted, the content type is in lower case, the agent is done
with a request when the adapter is, and runtimes are made and removed by the service alone. -/
structure Proper : Prop where
  config : turn.socket.provider.config.valid = true
  lower : turn.socket.service.library.tables.lower "application/json".toList =
    "application/json".toList
  inTime : turn.socket.link ≠ .late
  meanwhile : ∀ step ∈ turn.meanwhile, step.operation.keepsRuntimes = true

end Turn

/-! ## The agent's side -/

section Agent

variable {socket : AgentSocket} {participants : List UUID} {host : Host} {α β : Type}

/-- What holds of a program holds of what is seen of it: an answer that gets lost is an error. -/
theorem ensures_through {program : AgentProgram α} {document : α → Json} {value : α → β}
    {refusal : RuntimeAgent.Error → Except Error β} {post : Post Host RuntimeAgent.Error α}
    {onValue : β → Host → Prop} {failed : Host → Prop} (ensures : program.Ensures post host)
    (before : failed host)
    (returned : ∀ result after, post.returned result after →
      onValue (value result) after ∧ failed after)
    (raised : ∀ error after, post.raised error after → failed after)
    (tolerated : ∀ error result after, post.raised error after → refusal error = .ok result →
      onValue result after)
    (stopped : ∀ after, post.stopped after → failed after) :
    (socket.through (AgentSocket.seen program document value refusal)).Ensures
      ⟨onValue, fun _ => failed, fun _ => False⟩ host := by
  have sees : Post.Holds ⟨onValue, fun _ => failed, fun _ => False⟩
        (AgentSocket.seen program document value refusal host) ∧
      failed (AgentSocket.seen program document value refusal host).2 := by
    unfold Program.Ensures at ensures
    unfold AgentSocket.seen
    rcases run : program host with ⟨outcome, after⟩
    rw [run] at ensures
    cases outcome with
    | returned result =>
        obtain ⟨meets, fails⟩ := returned result after ensures
        simp only [AgentSocket.unlessTooLarge]
        split
        · exact ⟨fails, fails⟩
        · exact ⟨meets, fails⟩
    | raised error =>
        have fails := raised error after ensures
        simp only [AgentSocket.unlessTooLarge]
        split
        · exact ⟨fails, fails⟩
        · cases answer : refusal error with
          | ok result => exact ⟨tolerated error result after ensures answer, fails⟩
          | error other => exact ⟨fails, fails⟩
    | stopped =>
        have fails := stopped after ensures
        exact ⟨fails, fails⟩
  unfold Program.Ensures AgentSocket.through
  cases socket.link with
  | works => exact sees.1
  | unreachable => exact before
  | silent | late => exact sees.2

/-- How a call of the provider ends. -/
def ExecutionCall.post (call : ExecutionCall) (participants : List UUID) :
    Post Host Error ExecutionReply where
  returned reply := Calmly fun engine =>
    call.Answers participants reply ∧ Hosts (call.effect participants) engine
  raised _ := Calmly fun engine =>
    Hosts participants engine ∨ Hosts (call.effect participants) engine
  stopped _ := False

theorem refused_ne_ok {error : RuntimeAgent.Error} {result : β} :
    AgentSocket.refused error ≠ .ok result := by
  unfold AgentSocket.refused
  simp

theorem ensures_create {request : RuntimeRequest}
    (config : socket.provider.config.valid = true)
    (lower : socket.service.library.tables.lower "application/json".toList =
      "application/json".toList)
    (holds : Calmly (Hosts participants) host) :
    ((ExecutionCall.create request).through socket).Ensures
      ((ExecutionCall.create request).post participants) host := by
  have unchanged : Calmly (fun engine => Hosts participants engine ∨
      Hosts (including request.participantId participants) engine) host :=
    fun calm => Or.inl (holds calm)
  apply ensures_map.mpr
  by_cases suits : Suits request
  · by_cases takes : socket.Takes request
    · rw [AgentSocket.create_asks suits, socket.asking_served
        (AgentSocket.serves_create config lower takes) AgentSocket.dump_sound
        (AgentSocket.reads_create suits)]
      have created : (socket.service.createRuntime (socket.provider.asked request)).Ensures
          (creationPost participants request.participantId) host :=
        RuntimeAgent.RuntimeService.ensures_createRuntime_hosts holds
      apply ensures_through created unchanged
      · intro record after hosts
        exact ⟨fun calm => ⟨trivial, hosts calm⟩, fun calm => Or.inr (hosts calm)⟩
      · exact fun _ _ => id
      · exact fun _ _ _ _ accepted => absurd accepted refused_ne_ok
      · exact fun _ => id
    · obtain ⟨message, refused⟩ := AgentSocket.create_refused config suits lower takes host
      unfold Program.Ensures
      rw [refused]
      exact unchanged
  · obtain ⟨message, refused⟩ := socket.create_unsuited suits host
    unfold Program.Ensures
    rw [refused]
    exact unchanged

theorem ensures_inspect (participantId : UUID) (holds : Calmly (Hosts participants) host) :
    ((ExecutionCall.inspect participantId).through socket).Ensures
      ((ExecutionCall.inspect participantId).post participants) host := by
  have either : ∀ {after : Host}, Calmly (Hosts participants) after →
      Calmly (fun engine => Hosts participants engine ∨ Hosts participants engine) after :=
    fun hosts calm => Or.inl (hosts calm)
  apply ensures_map.mpr
  show (socket.inspect participantId).Ensures _ host
  have asks := socket.asking_served (socket.serves_inspect participantId) AgentSocket.dump_sound
    (socket.reads_inspect participantId)
  unfold AgentSocket.inspect LocalRuntimeAgentProvider.inspectThrough
  rw [asks]
  apply ensures_through (RuntimeAgent.RuntimeService.inspectRuntime_hosts host holds) (either holds)
  · exact fun record after hosts => ⟨fun calm => ⟨trivial, hosts calm⟩, either hosts⟩
  · exact fun _ _ => either
  · exact fun _ _ _ _ accepted => absurd accepted refused_ne_ok
  · exact fun _ => either

theorem ensures_list (holds : Calmly (Hosts participants) host) :
    (ExecutionCall.list.through socket).Ensures (ExecutionCall.list.post participants) host := by
  have either : ∀ {after : Host}, Calmly (Hosts participants) after →
      Calmly (fun engine => Hosts participants engine ∨ Hosts participants engine) after :=
    fun hosts calm => Or.inl (hosts calm)
  have asks := socket.asking_served socket.serves_list AgentSocket.items_sound socket.reads_list
  apply ensures_map.mpr
  unfold AgentSocket.list LocalRuntimeAgentProvider.listThrough
  rw [asks]
  apply ensures_through (RuntimeAgent.RuntimeService.ensures_listManagedRuntimes_hosts holds)
    (either holds)
  · intro records after listed
    refine ⟨fun calm => ⟨?_, (listed calm).1⟩, either fun calm => (listed calm).1⟩
    show (records.map RuntimeHandle.seen).map _ = _
    rw [List.map_map]
    exact (listed calm).2
  · exact fun _ _ => either
  · exact fun _ _ _ _ accepted => absurd accepted refused_ne_ok
  · exact fun _ => either

/-- Only `NotFoundError` is taken for a removal. -/
theorem refusedRemoval_ok {error : RuntimeAgent.Error} {result : Unit}
    (accepted : AgentSocket.refusedRemoval error = .ok result) : error.isNotFound = true := by
  cases error with
  | notFound message => rfl
  | value | ownership | conflict | engine | os | other =>
      simp [AgentSocket.refusedRemoval, RuntimeAgent.Error.status] at accepted

theorem ensures_remove (participantId : UUID) (holds : Calmly (Hosts participants) host) :
    ((ExecutionCall.remove participantId).through socket).Ensures
      ((ExecutionCall.remove participantId).post participants) host := by
  have asks := socket.asking_served (socket.serves_remove participantId) (fun _ => ⟨rfl, rfl⟩)
    (socket.reads_remove participantId)
  apply ensures_map.mpr
  unfold AgentSocket.remove LocalRuntimeAgentProvider.removeThrough
  rw [asks]
  have removed : (socket.service.removeRuntime participantId).Ensures
      (removalPost participants participantId) host :=
    RuntimeAgent.RuntimeService.ensures_removeRuntime_hosts holds
  apply ensures_through removed fun calm => Or.inl (holds calm)
  · intro _ after hosts
    exact ⟨fun calm => ⟨trivial, hosts calm⟩, fun calm => Or.inr (hosts calm)⟩
  · exact fun error after left calm => (left calm).1
  · intro error result after left accepted calm
    exact ⟨trivial, (left calm).2 (refusedRemoval_ok accepted)⟩
  · exact fun _ => id

/-- The agent behind its socket ends every call as the provider may. -/
theorem ensures_turn {turn : Turn} (proper : turn.Proper)
    (holds : Calmly (Hosts participants) host) :
    turn.run.Ensures (turn.call.post participants) host := by
  have before := turn.agent.execute_hosts proper.meanwhile holds
  unfold Program.Ensures Turn.run
  cases turn.call with
  | create request => exact ensures_create proper.config proper.lower before
  | inspect participantId => exact ensures_inspect participantId before
  | list => exact ensures_list before
  | remove participantId => exact ensures_remove participantId before

end Agent

/-! ## The model's side -/

/-- How one call to the assumed provider goes. -/
structure Behaviour where
  fault : Option Fault
  created : RuntimeHandle
  inspected : RuntimeHandle
  listed : UUID → RuntimeHandle

namespace Behaviour

/-- The call returns these handles. -/
def answering (handle : RuntimeHandle) (handles : List RuntimeHandle) : Behaviour where
  fault := none
  created := handle
  inspected := handle
  listed id := (handles.find? fun other => other.runtimeId = id).getD handle

/-- The call raises, with or without its effect. -/
def failing (error : Error) (applied : Bool) : Behaviour where
  fault := some ⟨error, applied⟩
  created := ⟨0, "", .none⟩
  inspected := ⟨0, "", .none⟩
  listed id := ⟨id, "", .none⟩

/-- The dependencies behave so at this moment. -/
structure Plays (dependencies : Dependencies) (moment : ℕ) (behaviour : Behaviour) : Prop where
  goesOn : dependencies.stops moment = false
  fault : ∀ call, dependencies.fault moment call = behaviour.fault
  created : ∀ request, dependencies.runtimeCreated moment request = behaviour.created
  inspected : ∀ participantId,
    dependencies.runtimeInspected moment participantId = .ok behaviour.inspected
  listed : ∀ participantId,
    dependencies.runtimeListed moment participantId = behaviour.listed participantId

/-- The script from this moment on; before and afterwards as it was. -/
def following (dependencies : Dependencies) (start : ℕ) (script : List Behaviour) :
    Dependencies where
  stops moment :=
    match script[moment - start]? with
    | some _ => false
    | none => dependencies.stops moment
  fault moment call :=
    match script[moment - start]? with
    | some behaviour => behaviour.fault
    | none => dependencies.fault moment call
  clock := dependencies.clock
  monotonic := dependencies.monotonic
  uuid4 := dependencies.uuid4
  resolveGame := dependencies.resolveGame
  resolveCore := dependencies.resolveCore
  runtimeCreated moment request :=
    match script[moment - start]? with
    | some behaviour => behaviour.created
    | none => dependencies.runtimeCreated moment request
  runtimeInspected moment participantId :=
    match script[moment - start]? with
    | some behaviour => .ok behaviour.inspected
    | none => dependencies.runtimeInspected moment participantId
  runtimeListed moment participantId :=
    match script[moment - start]? with
    | some behaviour => behaviour.listed participantId
    | none => dependencies.runtimeListed moment participantId
  controllerToken := dependencies.controllerToken
  pollRounds := dependencies.pollRounds

theorem following_plays (dependencies : Dependencies) (start : ℕ) (script : List Behaviour) :
    PlaysScript Plays (following dependencies start script) start script := by
  intro round behaviour member
  constructor <;> simp [following, member]

end Behaviour

section Model

variable {service : SessionService} {world : World} {participants : List UUID} {α : Type}
  {call : Call} {behaviour : Behaviour}

/-- A call of a provider that works. -/
theorem invoke_answers {works : World → Except Error (α × World)} {value : α} {after : World}
    (plays : Behaviour.Plays service.dependencies world.history.length behaviour)
    (works' : works world = .ok (value, after)) (plain : behaviour.fault = none) :
    service.invoke call works world = (.returned value, after.record ⟨call, true, true⟩) := by
  unfold SessionService.invoke
  dsimp only
  rw [plays.goesOn, plays.fault, plain, works']
  rfl

/-- A call of a provider that fails. -/
theorem invoke_fails {works : World → Except Error (α × World)} {value : α} {after : World}
    {error : Error} {applied : Bool}
    (plays : Behaviour.Plays service.dependencies world.history.length
      (Behaviour.failing error applied)) (works' : works world = .ok (value, after)) :
    service.invoke call works world =
      (.raised error, (if applied then after else world).record ⟨call, applied, false⟩) := by
  unfold SessionService.invoke
  dsimp only
  rw [plays.goesOn, plays.fault, works']
  cases applied <;> rfl

/-- Handles with distinct identifiers are found by them. -/
theorem listed_handles {handle : RuntimeHandle} {handles : List RuntimeHandle}
    (distinct : (handles.map fun other => other.runtimeId).Nodup) :
    (handles.map fun other => other.runtimeId).map (fun id =>
      { (Behaviour.answering handle handles).listed id with runtimeId := id }) = handles := by
  rw [List.map_map]
  apply (List.map_congr_left ?_).trans (List.map_id handles)
  intro other member
  have found := find_key distinct member
  simp [Behaviour.answering, found]

/-- From these participants, where the behaviour is played, the call ends so and leaves these. -/
def Goes (asked : ExecutionCall) (behaviour : Behaviour) (participants later : List UUID)
    (outcome : Outcome Error ExecutionReply) : Prop :=
  ∀ (service : SessionService) (world : World), world.runtimes = participants →
    Behaviour.Plays service.dependencies world.history.length behaviour →
    (asked.program service world).1 = outcome ∧
      (asked.program service world).2.runtimes = later ∧
      (asked.program service world).2.history.length = world.history.length + 1

/-- A call that ends so goes so. -/
theorem goes_of_run {asked : ExecutionCall} {later : List UUID}
    {outcome : Outcome Error ExecutionReply}
    (runs : ∀ (service : SessionService) (world : World), world.runtimes = participants →
      Behaviour.Plays service.dependencies world.history.length behaviour →
      ∃ (after : World) (event : Event),
        asked.program service world = (outcome, after.record event) ∧
        after.runtimes = later ∧ after.history = world.history) :
    Goes asked behaviour participants later outcome := by
  intro service world same plays
  obtain ⟨after, event, run, left, history⟩ := runs service world same plays
  rw [run]
  exact ⟨rfl, left, congrArg (fun events : List Event => events.length + 1) history⟩

/-- Any answer of the provider can be played. -/
theorem program_answers {asked : ExecutionCall} {reply : ExecutionReply}
    (answers : asked.Answers participants reply) (distinct : participants.Nodup) :
    ∃ behaviour, Goes asked behaviour participants (asked.effect participants)
      (.returned reply) := by
  cases asked with
  | create request =>
      cases reply with
      | runtime handle =>
          refine ⟨.answering handle [], goes_of_run fun service world same plays => ?_⟩
          have ends : service.executionCreate request world = (.returned handle,
              (world.startRuntime request.participantId).record
                ⟨.executionCreate request, true, true⟩) := by
            apply invoke_answers plays _ rfl
            rw [plays.created]
            rfl
          subst same
          exact ⟨_, _, bind_returned ends, rfl, rfl⟩
      | runtimes | removed => exact answers.elim
  | inspect participantId =>
      cases reply with
      | runtime handle =>
          refine ⟨.answering handle [], goes_of_run fun service world same plays => ?_⟩
          have ends : service.executionInspect participantId world = (.returned handle,
              world.record ⟨.executionInspect participantId, true, true⟩) := by
            apply invoke_answers plays _ rfl
            rw [plays.inspected]
            rfl
          exact ⟨_, _, bind_returned ends, same, rfl⟩
      | runtimes | removed => exact answers.elim
  | list =>
      cases reply with
      | runtimes handles =>
          have named : handles.map (fun handle => handle.runtimeId) = participants := answers
          refine ⟨.answering ⟨0, "", .none⟩ handles,
            goes_of_run fun service world same plays => ?_⟩
          have ends : service.executionList world = (.returned handles,
              world.record ⟨.executionList, true, true⟩) := by
            apply invoke_answers plays _ rfl
            simp only [plays.listed, same, ← named]
            rw [listed_handles (named ▸ distinct)]
          exact ⟨_, _, bind_returned ends, same, rfl⟩
      | runtime | removed => exact answers.elim
  | remove participantId =>
      cases reply with
      | removed =>
          refine ⟨.answering ⟨0, "", .none⟩ [],
            goes_of_run fun service world same plays => ?_⟩
          have ends : service.executionRemove participantId world = (.returned (),
              (world.discardRuntime participantId).record
                ⟨.executionRemove participantId, true, true⟩) := invoke_answers plays rfl rfl
          subst same
          exact ⟨_, _, bind_returned ends, rfl, rfl⟩
      | runtime | runtimes => exact answers.elim

/-- So can any failure. -/
theorem program_fails (asked : ExecutionCall) (participants : List UUID) (error : Error)
    (applied : Bool) : ∃ behaviour, Goes asked behaviour participants
      (if applied then asked.effect participants else participants) (.raised error) := by
  refine ⟨.failing error applied, goes_of_run fun service world same plays => ?_⟩
  subst same
  cases asked with
  | create request =>
      have ends : service.executionCreate request world = (.raised error,
          (if applied then world.startRuntime request.participantId else world).record
            ⟨.executionCreate request, applied, false⟩) := by
        apply invoke_fails plays
        rfl
      refine ⟨_, _, bind_raised ends, ?_, ?_⟩ <;> cases applied <;> rfl
  | inspect participantId =>
      have ends : service.executionInspect participantId world = (.raised error,
          (if applied then world else world).record
            ⟨.executionInspect participantId, applied, false⟩) := by
        apply invoke_fails plays
        rw [plays.inspected]
        rfl
      refine ⟨_, _, bind_raised ends, ?_, ?_⟩ <;> cases applied <;> rfl
  | list =>
      have ends : service.executionList world = (.raised error,
          (if applied then world else world).record ⟨.executionList, applied, false⟩) := by
        apply invoke_fails plays
        rfl
      refine ⟨_, _, bind_raised ends, ?_, ?_⟩ <;> cases applied <;> rfl
  | remove participantId =>
      have ends : service.executionRemove participantId world = (.raised error,
          (if applied then world.discardRuntime participantId else world).record
            ⟨.executionRemove participantId, applied, false⟩) := invoke_fails plays rfl
      refine ⟨_, _, bind_raised ends, ?_, ?_⟩ <;> cases applied <;> rfl

end Model

/-! ## Runs -/

section Runs

variable {turn : Turn} {host : Host}

theorem seen_after {α β : Type} {program : AgentProgram α}
    {document : α → Json} {value : α → β}
    {refusal : RuntimeAgent.Error → Except Error β} :
    (AgentSocket.seen program document value refusal host).2 = (program host).2 := by
  unfold AgentSocket.seen
  rcases program host with ⟨outcome, after⟩
  cases outcome with
  | returned result =>
      simp only [AgentSocket.unlessTooLarge]
      split <;> rfl
  | raised error =>
      simp only [AgentSocket.unlessTooLarge]
      split
      · rfl
      · cases refusal error <;> rfl
  | stopped => rfl

theorem through_works {socket : AgentSocket} {β : Type} {program : Program Host Error β}
    (works : socket.link = .works) : socket.through program = program := by
  funext host
  unfold AgentSocket.through
  rw [works]

/-- What is seen through the socket has happened at the agent. -/
theorem grows_through {socket : AgentSocket} {α β : Type} {program : AgentProgram α}
    {document : α → Json} {value : α → β} {refusal : RuntimeAgent.Error → Except Error β}
    {onValue : α → Prop} (grows : growing.Holds program onValue) :
    growing.Keeps host
      (socket.through (AgentSocket.seen program document value refusal) host).2 := by
  have kept : growing.Keeps host (AgentSocket.seen program document value refusal host).2 := by
    rw [seen_after]
    exact (grows host).1
  unfold AgentSocket.through
  cases socket.link with
  | works => exact kept
  | unreachable => exact growing.refl host
  | silent | late => exact kept

theorem run_grows (proper : turn.Proper) : growing.Keeps host (turn.run host).2 := by
  apply growing.trans (turn.agent.execute_grows turn.meanwhile)
  unfold Turn.run
  cases turn.call with
  | create request =>
      show growing.Keeps _ ((ExecutionReply.runtime <$> turn.socket.create request) _).2
      rw [map_after]
      by_cases suits : Suits request
      · by_cases takes : turn.socket.Takes request
        · rw [AgentSocket.create_asks suits, turn.socket.asking_served
            (AgentSocket.serves_create proper.config proper.lower takes) AgentSocket.dump_sound
            (AgentSocket.reads_create suits)]
          exact grows_through (turn.socket.service.growing_createRuntime _)
        · obtain ⟨message, refused⟩ :=
            AgentSocket.create_refused proper.config suits proper.lower takes
              (turn.agent.execute host turn.meanwhile)
          rw [refused]
          exact growing.refl _
      · obtain ⟨message, refused⟩ := turn.socket.create_unsuited suits
          (turn.agent.execute host turn.meanwhile)
        rw [refused]
        exact growing.refl _
  | inspect participantId =>
      show growing.Keeps _ ((ExecutionReply.runtime <$> turn.socket.inspect participantId) _).2
      rw [map_after, AgentSocket.inspect, LocalRuntimeAgentProvider.inspectThrough,
        turn.socket.asking_served (turn.socket.serves_inspect participantId) AgentSocket.dump_sound
        (turn.socket.reads_inspect participantId)]
      exact grows_through (RuntimeAgent.growing_quiet
        (turn.socket.service.quiet_inspectRuntime participantId))
  | list =>
      show growing.Keeps _ ((ExecutionReply.runtimes <$> turn.socket.list) _).2
      rw [map_after, AgentSocket.list, LocalRuntimeAgentProvider.listThrough,
        turn.socket.asking_served turn.socket.serves_list AgentSocket.items_sound
          turn.socket.reads_list]
      exact grows_through (RuntimeAgent.growing_quiet turn.socket.service.quiet_listManagedRuntimes)
  | remove participantId =>
      show growing.Keeps _ (((fun _ => ExecutionReply.removed) <$>
        turn.socket.remove participantId) _).2
      rw [map_after, AgentSocket.remove, LocalRuntimeAgentProvider.removeThrough,
        turn.socket.asking_served (turn.socket.serves_remove participantId)
          (fun _ => ⟨rfl, rfl⟩) (turn.socket.reads_remove participantId)]
      exact grows_through (RuntimeAgent.growing_limited
        (turn.socket.service.limited_removeRuntime participantId))

/-- The model's world knows the runtimes that the engine hosts. -/
def Represents (host : Host) (world : World) : Prop := world.runtimes = host.engine.hosted

/-- While no container disappears, some behaviour of the assumed provider answers a turn. -/
theorem turn_answered (proper : turn.Proper) (sound : Calmly RuntimeAgent.Engine.Tended host)
    (calm : (turn.run host).2.Calm) :
    ∃ behaviour, Answered Represents (fun world => world.history.length)
      (fun service => Behaviour.Plays service.dependencies) turn.run
      (fun service => turn.call.program service) host behaviour := by
  have before : host.Calm := calm.earlier (run_grows proper)
  have hosts : Calmly (Hosts host.engine.hosted) host := fun calm => ⟨sound calm, rfl⟩
  have ends := ensures_turn proper hosts
  unfold Program.Ensures at ends
  rcases run : turn.run host with ⟨outcome, after⟩
  rw [run] at ends calm
  have answered : ∀ {behaviour : Behaviour},
      Goes turn.call behaviour host.engine.hosted after.engine.hosted outcome →
      Answered Represents (fun world => world.history.length)
        (fun service => Behaviour.Plays service.dependencies) turn.run
        (fun service => turn.call.program service) host behaviour := by
    intro behaviour goes service world represents plays
    rw [run]
    exact goes service world represents plays
  cases outcome with
  | returned reply =>
      obtain ⟨answers, later⟩ := ends calm
      obtain ⟨behaviour, goes⟩ := program_answers answers (sound before).hosted_nodup
      rw [← later.2] at goes
      exact ⟨behaviour, answered goes⟩
  | raised error =>
      cases ends calm with
      | inl same =>
          obtain ⟨behaviour, goes⟩ := program_fails turn.call host.engine.hosted error false
          refine ⟨behaviour, answered ?_⟩
          rw [same.2]
          exact goes
      | inr changed =>
          obtain ⟨behaviour, goes⟩ := program_fails turn.call host.engine.hosted error true
          refine ⟨behaviour, answered ?_⟩
          rw [changed.2]
          exact goes
  | stopped => exact ends.elim

/-- A turn leaves the managed containers tended. -/
theorem run_tended (proper : turn.Proper) (sound : Calmly RuntimeAgent.Engine.Tended host) :
    Calmly RuntimeAgent.Engine.Tended (turn.run host).2 := by
  have hosts : Calmly (Hosts host.engine.hosted) host := fun calm => ⟨sound calm, rfl⟩
  have ends := ensures_turn proper hosts
  unfold Program.Ensures at ends
  rcases run : turn.run host with ⟨outcome, after⟩
  rw [run] at ends
  cases outcome with
  | returned reply => exact fun calm => (ends calm).2.1
  | raised error => exact fun calm => (ends calm).elim And.left And.left
  | stopped => exact ends.elim

end Runs

/-- Whatever the service asks and in which order, however connections and calls fail: an agent that
starts without containers, and serves one request at a time, answers as the provider of the
service's model does when its failures follow some script, and in the end it hosts the runtimes
that the model lists. -/
theorem agent_provides_execution (turns : List Turn) (start : Host)
    (unmanaged : start.engine.managed = []) (proper : ∀ turn ∈ turns, turn.Proper)
    (calm : (inTurn (turns.map Turn.run) start).2.Calm) :
    ∃ script, ∀ (configuration : Configuration) (plan : Dependencies) (world : World),
      world.runtimes = [] →
      let service : SessionService :=
        ⟨configuration, Behaviour.following plan world.history.length script⟩
      let assumed := inTurn (turns.map fun turn => turn.call.program service) world
      assumed.1 = (inTurn (turns.map Turn.run) start).1 ∧
        assumed.2.runtimes = (inTurn (turns.map Turn.run) start).2.engine.hosted := by
  have round : ∀ turn ∈ turns, ∀ host, Calmly RuntimeAgent.Engine.Tended host →
      (turn.run host).2.Calm → ∃ behaviour, Answered Represents
        (fun world => world.history.length) (fun service => Behaviour.Plays service.dependencies)
        turn.run (fun service => turn.call.program service) host behaviour :=
    fun turn member host sound calm => turn_answered (proper turn member) sound calm
  obtain ⟨script, scripted⟩ := inTurn_scripted round
    (fun turn member host sound => run_tended (proper turn member) sound)
    (fun turn member host calm => calm.earlier (run_grows (proper turn member)))
    (fun _ => RuntimeAgent.Engine.tended_of_unmanaged unmanaged) calm
  refine ⟨script, fun configuration plan world empty => ?_⟩
  have represents : Represents start world := by
    rw [Represents, empty, RuntimeAgent.Engine.hosted, unmanaged]
    rfl
  exact scripted ⟨configuration, Behaviour.following plan world.history.length script⟩ world
    represents (Behaviour.following_plays plan world.history.length script)

section Example

/-- A creation and a list, through a connection that works. -/
def exampleTurns : List Turn := [
  ⟨exampleSocket, [], .create exampleHostRequest⟩,
  ⟨exampleSocket, [], .list⟩]

theorem exampleSocket_config : exampleSocket.provider.config.valid = true :=
  exampleHostRequest_askable.config

theorem exampleSocket_lower : exampleSocket.service.library.tables.lower
    "application/json".toList = "application/json".toList := by decide

theorem exampleTurns_proper : ∀ turn ∈ exampleTurns, turn.Proper := by
  have each : ∀ call, Turn.Proper ⟨exampleSocket, [], call⟩ := fun call =>
    ⟨exampleSocket_config, exampleSocket_lower, nofun, by simp⟩
  intro turn member
  simp only [exampleTurns, List.mem_cons, List.not_mem_nil, or_false] at member
  exact member.elim (fun same => same ▸ each _) fun same => same ▸ each _

/-- The host that the turns leave, without the socket. -/
theorem exampleTurns_after : (inTurn (exampleTurns.map Turn.run) Host.empty).2 =
    (exampleSocket.service.listManagedRuntimes (exampleSocket.service.createRuntime
      (exampleSocket.provider.asked exampleHostRequest) Host.empty).2).2 := by
  have suits := suits_of_askable exampleHostRequest_askable
  have takes : exampleSocket.Takes exampleHostRequest :=
    (AgentSocket.takes_iff exampleHostRequest_askable exampleTables_agrees).mpr
      exampleHostRequest_fits
  have serves := AgentSocket.serves_create exampleSocket_config exampleSocket_lower takes
  have alone : ∀ call host,
      Turn.run ⟨exampleSocket, [], call⟩ host = call.through exampleSocket host :=
    fun _ _ => rfl
  have create : ∀ host,
      (((ExecutionCall.create exampleHostRequest).through exampleSocket) host).2 =
        (exampleSocket.service.createRuntime (exampleSocket.provider.asked exampleHostRequest)
          host).2 := by
    intro host
    rw [ExecutionCall.through, map_after, AgentSocket.create_asks suits,
      exampleSocket.asking_served serves AgentSocket.dump_sound (AgentSocket.reads_create suits),
      through_works rfl, seen_after]
  have list : ∀ host, ((ExecutionCall.list.through exampleSocket) host).2 =
      (exampleSocket.service.listManagedRuntimes host).2 := by
    intro host
    rw [ExecutionCall.through, map_after, AgentSocket.list, LocalRuntimeAgentProvider.listThrough,
      exampleSocket.asking_served exampleSocket.serves_list AgentSocket.items_sound
        exampleSocket.reads_list, through_works rfl, seen_after]
  rw [exampleTurns, List.map_cons, List.map_cons, List.map_nil, inTurn_cons, inTurn_cons, alone,
    alone, list, create, inTurn]

theorem exampleTurns_calm : (inTurn (exampleTurns.map Turn.run) Host.empty).2.Calm := by
  rw [exampleTurns_after]
  decide +kernel

end Example

/-- The second turn lists the runtime of the first. -/
theorem example_agent_provides_execution : ∃ script, ∀ (configuration : Configuration)
    (plan : Dependencies) (world : World), world.runtimes = [] →
    let service : SessionService :=
      ⟨configuration, Behaviour.following plan world.history.length script⟩
    let assumed := inTurn (exampleTurns.map fun turn => turn.call.program service) world
    assumed.1 = (inTurn (exampleTurns.map Turn.run) Host.empty).1 ∧
      assumed.2.runtimes = (inTurn (exampleTurns.map Turn.run) Host.empty).2.engine.hosted :=
  agent_provides_execution exampleTurns Host.empty rfl exampleTurns_proper exampleTurns_calm

end RetroBrowser.SessionManager
