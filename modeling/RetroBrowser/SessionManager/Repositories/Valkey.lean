import RetroBrowser.Foundation.Clients
import RetroBrowser.SessionManager.Repositories.Memory

/-!
Owns the Valkey session repository: its operations as programs of store commands,
the store with its expiring keys, and the service in which the commands of any
number of callers come to the store in any order.

Contract: a record is stored as its JSON text, which writes every field; decoding
rebuilds the record and validates it anew. `MULTI` and the commands after it stay
in the client until `EXEC`, which runs them at once unless the record of the
watched key was written or has expired since `WATCH`.
-/

namespace RetroBrowser.SessionManager

open RetroBrowser.Foundation RetroBrowser.Foundation.Concurrent

namespace ValkeySessionRepository

/-- `Session.model_validate_json` on what `_encode` wrote for the record. -/
def decode (record : Session) : Except Error Session := do
  record.validate
  pure record

theorem decode_ok {record : Session} (valid : record.validate = .ok ()) :
    decode record = .ok record := by
  rw [decode, valid]
  rfl

end ValkeySessionRepository

/-- What is under a key, and when it expires. -/
structure Entry where
  value : Session
  deadline : Time
deriving DecidableEq, Repr

/-- The store: records, sets of texts, and how often the record of a key has changed. -/
structure ValkeyStore where
  entries : String → Option Entry
  members : String → List String
  versions : String → Nat
  clock : Time

/-- A command that waits for `EXEC`. -/
inductive Queued where
  | set (key : String) (value : Session) (seconds : Int)
  | sadd (key member : String)
deriving DecidableEq, Repr

/-- The commands of the client and of its pipeline; `now` reads the caller's clock. -/
inductive Command where
  | now
  | setNew (key : String) (value : Session) (seconds : Int)
  | get (key : String)
  | smembers (key : String)
  | sadd (key member : String)
  | srem (key member : String)
  | watch (key : String)
  | execute (queued : List Queued)
  | reset
deriving DecidableEq, Repr

def Command.Reply : Command → Type
  | .now => Time
  | .setNew .. | .execute _ => Bool
  | .get _ => Option Session
  | .smembers _ => List String
  | .sadd .. | .srem .. | .watch _ | .reset => Unit

/-- The watched key, with its version at `WATCH`. -/
abbrev Connection := Option (String × Nat)

namespace ValkeyStore

variable (store : ValkeyStore)

def set (key : String) (value : Session) (seconds : Int) : ValkeyStore where
  entries := Function.update store.entries key (some ⟨value, store.clock + seconds * 1000000⟩)
  members := store.members
  versions := Function.update store.versions key (store.versions key + 1)
  clock := store.clock

def expire (key : String) : ValkeyStore where
  entries := Function.update store.entries key none
  members := store.members
  versions := Function.update store.versions key (store.versions key + 1)
  clock := store.clock

def sadd (key member : String) : ValkeyStore :=
  { store with members := Function.update store.members key ((store.members key).insert member) }

def srem (key member : String) : ValkeyStore :=
  { store with members := Function.update store.members key ((store.members key).erase member) }

def run : Queued → ValkeyStore
  | .set key value seconds => store.set key value seconds
  | .sadd key member => store.sadd key member

/-- Nothing watched has changed. -/
def intact (connection : Connection) : Bool :=
  connection.all fun watched => store.versions watched.1 = watched.2

/-- The reply to a command, and what it does to the connection and the store. -/
def perform : (command : Command) → Connection → ValkeyStore →
    command.Reply × Connection × ValkeyStore
  | .now, connection, store => (store.clock, connection, store)
  | .setNew key value seconds, connection, store =>
      if (store.entries key).isSome then (false, connection, store)
      else (true, connection, store.set key value seconds)
  | .get key, connection, store => ((store.entries key).map Entry.value, connection, store)
  | .smembers key, connection, store => (store.members key, connection, store)
  | .sadd key member, connection, store => ((), connection, store.sadd key member)
  | .srem key member, connection, store => ((), connection, store.srem key member)
  | .watch key, _, store => ((), some (key, store.versions key), store)
  | .execute queued, connection, store =>
      if store.intact connection then (true, none, queued.foldl run store)
      else (false, none, store)
  | .reset, _, store => ((), none, store)

variable {store}

theorem set_entries (key other : String) (value : Session) (seconds : Int) :
    (store.set key value seconds).entries other =
      if other = key then some ⟨value, store.clock + seconds * 1000000⟩
      else store.entries other :=
  Function.update_apply ..

theorem expire_entries (key other : String) :
    (store.expire key).entries other = if other = key then none else store.entries other :=
  Function.update_apply ..

@[simp] theorem sadd_members (key member : String) :
    (store.sadd key member).members key = (store.members key).insert member :=
  Function.update_self ..

@[simp] theorem srem_members (key member : String) :
    (store.srem key member).members key = (store.members key).erase member :=
  Function.update_self ..

end ValkeyStore

/-- A repository operation: commands that may end with an exception. -/
abbrev ValkeyProgram := ExceptT Error (Client Command Command.Reply)

namespace ValkeyProgram

def send (command : Command) : ValkeyProgram command.Reply := ExceptT.lift (.ask command)

def now : ValkeyProgram Time := send .now

def setNew (key : String) (value : Session) (seconds : Int) : ValkeyProgram Bool :=
  send (.setNew key value seconds)

def getValue (key : String) : ValkeyProgram (Option Session) := send (.get key)

def smembers (key : String) : ValkeyProgram (List String) := send (.smembers key)

def sadd (key member : String) : ValkeyProgram Unit := send (.sadd key member)

def srem (key member : String) : ValkeyProgram Unit := send (.srem key member)

def watch (key : String) : ValkeyProgram Unit := send (.watch key)

def execute (queued : List Queued) : ValkeyProgram Bool := send (.execute queued)

/-- `try: body finally: pipeline.reset()`. -/
def resetting {α : Type} (body : ValkeyProgram α) : ValkeyProgram α := ExceptT.mk do
  let result ← body.run
  let _ ← Client.ask Command.reset
  pure result

end ValkeyProgram

structure ValkeySessionRepository where
  keyNamespace : String
  closedRetentionSeconds : Nat
deriving DecidableEq, Repr

namespace ValkeySessionRepository

open ValkeyProgram

variable (self : ValkeySessionRepository)

def indexKey : String := self.keyNamespace ++ ":index"

def key (sessionId : UUID) : String := self.keyNamespace ++ ":" ++ sessionId.str

/-- `ceil` of a duration in seconds. -/
def ceilSeconds (duration : Duration) : Int := -(-duration / 1000000)

def ttl (session : Session) : ValkeyProgram Int := do
  if session.state = .closed then
    return self.closedRetentionSeconds
  else
    let remaining := session.expiresAt - (← now)
    return max self.closedRetentionSeconds (ceilSeconds remaining + self.closedRetentionSeconds)

def add (session : Session) : ValkeyProgram Unit := do
  let key := self.key session.sessionId
  let created ← setNew key session (← self.ttl session)
  if created then
    sadd self.indexKey key
  else
    throw (.conflict "session already exists")

def get (sessionId : UUID) : ValkeyProgram (Option Session) := do
  match ← getValue (self.key sessionId) with
  | none => return none
  | some value => return some (← ofExcept (decode value))

/-- The loop of `list` over the keys of the index. -/
def collect : List String → List Session → ValkeyProgram (List Session)
  | [], sessions => return sessions
  | key :: keys, sessions => do
      match ← getValue key with
      | none =>
          srem self.indexKey key
          collect keys sessions
      | some value => collect keys (sessions ++ [← ofExcept (decode value)])

def list : ValkeyProgram (List Session) := do
  let keys ← smembers self.indexKey
  let sessions ← self.collect keys []
  return sessions.insertionSort fun left right => left.createdAt ≤ right.createdAt

/-- From the reading on, under the watch. -/
def update (session : Session) (expectedRevision : Nat) : ValkeyProgram Unit := do
  let key := self.key session.sessionId
  match ← getValue key with
  | none => throw (.repositoryConflict "session disappeared during update")
  | some raw =>
      let current ← ofExcept (decode raw)
      if current.revision ≠ expectedRevision ∨ session.revision ≠ expectedRevision + 1 then
        throw (.repositoryConflict "session revision changed during update")
      let executed ← execute [.set key session (← self.ttl session), .sadd self.indexKey key]
      if executed then
        return ()
      else
        -- A `WatchError`.
        throw (.repositoryConflict "session revision changed during update")

def save (session : Session) (expectedRevision : Nat) : ValkeyProgram Unit := resetting do
  watch (self.key session.sessionId)
  self.update session expectedRevision

end ValkeySessionRepository

/-- The name of the exception class. -/
def Error.className : Error → String
  | .notFound _ => "NotFoundError"
  | .authorization _ => "AuthorizationError"
  | .conflict _ => "ConflictError"
  | .capacity _ => "CapacityError"
  | .repositoryConflict _ => "RepositoryConflict"
  | .orchestration _ => "OrchestrationError"
  | .key => "KeyError"
  | .value _ => "ValueError"
  | .stopIteration => "StopIteration"
  | .other name => name

/-- What is done to one session: by callers, or by the store when a key expires. -/
inductive SessionOperation where
  | add (session : Session)
  | get (sessionId : UUID)
  | save (session : Session) (expectedRevision : Nat)
  | expire (sessionId : UUID)
deriving DecidableEq, Repr

/-- What a caller gets; of an exception, its class. -/
inductive Answer where
  | stored
  | found (session : Option Session)
  | raised (className : String)
  | expired
deriving DecidableEq, Repr

namespace Answer

def ofStored : Except Error Unit → Answer
  | .ok () => .stored
  | .error error => .raised error.className

def ofFound : Except Error (Option Session) → Answer
  | .ok session => .found session
  | .error error => .raised error.className

end Answer

namespace ValkeySessionRepository

/-- What callers ask for. -/
inductive Request where
  | add (session : Session)
  | get (sessionId : UUID)
  | save (session : Session) (expectedRevision : Nat)
  | list
deriving DecidableEq, Repr

/-- What can be seen of the service. -/
inductive Label (κ : Type) where
  | called (token : κ) (operation : SessionOperation)
  | answered (token : κ) (operation : SessionOperation) (answer : Answer)
  | listing (token : κ)
  | listed (token : κ) (result : Except Error (List Session))

/-- What happens to the store by itself: a key expires once its time has come, time goes by,
and the members of a set come in another order. -/
inductive Incident where
  | expire (sessionId : UUID)
  | wait (duration : Nat)
  | arrange (members : List String)
deriving DecidableEq, Repr

variable {κ : Type}

/-- The record that a request hands over satisfies the validators. -/
def Request.Validates : Request → Prop
  | .add session | .save session _ => session.validate = .ok ()
  | .get _ | .list => True

instance (request : Request) : Decidable request.Validates :=
  match request with
  | .add session | .save session _ => inferInstanceAs (Decidable (session.validate = .ok ()))
  | .get _ | .list => inferInstanceAs (Decidable True)

/-- No caller hands over a record that the validators refuse. -/
def Validated : Move κ Request Incident → Prop
  | .request _ request => request.Validates
  | .advance _ | .event _ _ => True

instance (move : Move κ Request Incident) : Decidable (Validated move) :=
  match move with
  | .request _ request => inferInstanceAs (Decidable request.Validates)
  | .advance _ | .event _ _ => inferInstanceAs (Decidable True)

def Request.label (token : κ) : Request → Label κ
  | .add session => .called token (.add session)
  | .get sessionId => .called token (.get sessionId)
  | .save session expectedRevision => .called token (.save session expectedRevision)
  | .list => .listing token

variable (self : ValkeySessionRepository)

def program (token : κ) : Request → Client Command Command.Reply (Label κ)
  | .add session => do
      let result ← (self.add session).run
      return .answered token (.add session) (.ofStored result)
  | .get sessionId => do
      let result ← (self.get sessionId).run
      return .answered token (.get sessionId) (.ofFound result)
  | .save session expectedRevision => do
      let result ← (self.save session expectedRevision).run
      return .answered token (.save session expectedRevision) (.ofStored result)
  | .list => do
      let result ← self.list.run
      return .listed token result

def befall (store : ValkeyStore) : Incident → Option ValkeyStore
  | .expire sessionId =>
      if (store.entries (self.key sessionId)).any fun entry => entry.deadline ≤ store.clock then
        some (store.expire (self.key sessionId))
      else none
  | .wait duration => some { store with clock := store.clock + duration }
  | .arrange members =>
      if members.Perm (store.members self.indexKey) then
        some { store with members := Function.update store.members self.indexKey members }
      else none

/-- An empty store, and any number of callers. -/
def service (κ : Type) :
    Service κ Request Incident Command Command.Reply Connection ValkeyStore (Label κ) where
  store := ⟨fun _ => none, fun _ => [], fun _ => 0, 0⟩
  connection := none
  perform := ValkeyStore.perform
  start token request := some (request.label token, self.program token request)
  befall incident store := self.befall store incident
  reports token incident :=
    match incident with
    | .expire sessionId =>
        [.called token (.expire sessionId), .answered token (.expire sessionId) .expired]
    | .wait _ | .arrange _ => []

/-- What is seen of the operations on one session. -/
def Label.visible : Label κ → Option (Event κ SessionOperation Answer)
  | .called token operation => some (.called token operation)
  | .answered token _ answer => some (.answered token answer)
  | .listing _ | .listed _ _ => none

end ValkeySessionRepository

end RetroBrowser.SessionManager
