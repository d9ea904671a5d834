import RetroBrowser.RuntimeAgent.Service

/-!
Owns runs of the agent: the operations it serves, each with its own behaviour of
the outside, executed one after the other. A process that stops inside an
operation leaves the host as it is at that moment; what is served next comes
from the restarted agent.
-/

namespace RetroBrowser.RuntimeAgent

open RetroBrowser.Foundation

/-- What the agent is asked to do. -/
inductive Operation where
  | create (request : CreateRuntimeRequest)
  | inspect (participantId : UUID)
  | stop (participantId : UUID)
  | remove (participantId : UUID)
  | list
  | reconcile
  | capacity
deriving DecidableEq, Repr

inductive Reply where
  | runtime (record : RuntimeRecord)
  | runtimes (records : List RuntimeRecord)
  | removed
  | reconciled (count : Nat)
  | capacity (capacity : RuntimeCapacity)
deriving DecidableEq, Repr

namespace Operation

/-- The participant the operation is about. -/
def participant : Operation → Option UUID
  | .create request => some request.participantId
  | .inspect participantId | .stop participantId | .remove participantId => some participantId
  | .list | .reconcile | .capacity => none

def program (service : RuntimeService) : Operation → AgentProgram Reply
  | .create request => Reply.runtime <$> service.createRuntime request
  | .inspect participantId => Reply.runtime <$> service.inspectRuntime participantId
  | .stop participantId => Reply.runtime <$> service.stopRuntime participantId
  | .remove participantId => (fun _ => Reply.removed) <$> service.removeRuntime participantId
  | .list => Reply.runtimes <$> service.listManagedRuntimes
  | .reconcile => Reply.reconciled <$> service.reconcileRoutes
  | .capacity => Reply.capacity <$> service.capacity

end Operation

/-- One operation and how the outside behaves meanwhile. -/
structure Step where
  operation : Operation
  dependencies : Dependencies

/-- An agent with its configuration. -/
structure Agent where
  config : AgentConfig
  library : Library

namespace Agent

variable (agent : Agent)

def service (dependencies : Dependencies) : RuntimeService :=
  ⟨agent.config, agent.library, dependencies⟩

def run (step : Step) : AgentProgram Reply :=
  step.operation.program (agent.service step.dependencies)

/-- The host after some operations. -/
def execute (host : Host) (steps : List Step) : Host :=
  steps.foldl (fun host step => (agent.run step host).2) host

theorem execute_append (host : Host) (first second : List Step) :
    agent.execute host (first ++ second) = agent.execute (agent.execute host first) second :=
  List.foldl_append

/-- A fact that every operation leaves behind holds after every run. -/
theorem execute_keeps {fact : Host → Prop} {host : Host} {steps : List Step}
    (start : fact host)
    (round : ∀ host, ∀ step ∈ steps, fact host → fact (agent.run step host).2) :
    fact (agent.execute host steps) := by
  induction steps generalizing host with
  | nil => exact start
  | cons step rest inductionHypothesis =>
      refine inductionHypothesis (round host step List.mem_cons_self start) ?_
      exact fun other others member => round other others (List.mem_cons_of_mem step member)

end Agent

section Example

/-- The tables on ASCII. -/
def exampleTables : PythonText.CharacterTables :=
  ⟨Char.isAlphanum, fun text => text.map Char.toLower⟩

/-- A configuration with saves. -/
def exampleConfig : AgentConfig where
  approvedImage :=
    "retrobrowser/retro-session@sha256:aaaaaaaaaaaaaaaaaaaaaaaaaaaaaaaaaaaaaaaaaaaaaaaaaaaaaaaaaaaaaaaa"
  approvedNetworks := ["retro-stream", "retro-netplay"]
  romRoot := "/data/roms"
  userDataRoot := "/data/sessions"
  saveDataRoot := some "/data/saves"
  allowedOrigins := "https://play.example"
  accepted := by decide +kernel

def exampleAgent : Agent := ⟨exampleConfig, .standard exampleTables⟩

def exampleRequest : CreateRuntimeRequest where
  sessionId := 1
  participantId := 2
  userId := "user-1"
  playerName := "Player One"
  image := exampleConfig.approvedImage
  romPath := "/data/roms/game.nes"
  romSha256 := "103c79a6e3968b817a3e24d63e53cc02f8eaab3f41a05cf73ac4c544df0e887a"
  coreProfile := "nes"
  netplay := ⟨.host, none, 55435⟩
  streamSubfolder := "/stream/0a"
  streamNetwork := "retro-stream"
  netplayNetwork := "retro-netplay"
  gpuProfile := .cpu
  selkiesMasterToken := "0123456789abcdef0123456789abcdef"

def exampleGame : List UInt8 := [0x4E, 0x45, 0x53, 0x1A]

/-- A file system without links and with one game. -/
def exampleFileSystem : FileSystem where
  resolve path :=
    let parts := PurePath.names '/' path
    if proper : ∀ part ∈ parts, PurePath.Proper '/' part then some ⟨parts, proper⟩ else none
  isFile path := path = "/data/roms/game.nes".toList
  isDirectory _ := true
  read path := if path = "/data/roms/game.nes".toList then some exampleGame else none

/-- Every call works, and containers do nothing on their own. -/
def Dependencies.working : Dependencies where
  stops _ _ := false
  drifts _ := []
  fault _ _ := none
  containerId index := String.ofList (hexText 64 index)
  fileSystem _ := exampleFileSystem
  lawful := by simp

/-- The record of the first creation. -/
def exampleRecord : RuntimeRecord where
  participantId := 2
  containerId := "000000000000000000000000000000000000000000000000000000000000001b"
  containerName := "retrobrowser-runtime-00000000000000000000000000000002"
  state := .running
  healthStatus := .none
  streamSubfolder := "/stream/0a"
  orphaned := false

/-- The ROM of the request. -/
def exampleRomPath : PurePath.Resolved where
  parts := ["data".toList, "roms".toList, "game.nes".toList]
  proper := by decide

/-- The first creation. -/
def exampleSteps : List Step := [⟨.create exampleRequest, .working⟩]

end Example

end RetroBrowser.RuntimeAgent
