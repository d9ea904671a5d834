import RetroBrowser.SessionManager.Repositories.Valkey

/-!
Owns the programs of the callers written out, command by command, with what each
reply leads to. The operations of the repository are these programs.
-/

namespace RetroBrowser.SessionManager.ValkeySessionRepository

open RetroBrowser.Foundation RetroBrowser.Foundation.Concurrent

variable {κ : Type}

/-- What a caller still has to do. -/
abbrev Caller (κ : Type) := Client Command Command.Reply (Label κ)

variable (self : ValkeySessionRepository) (token : κ) (session : Session) (expectedRevision : Nat)

/-- The seconds that a record read at the given time is kept. -/
def secondsAt (now : Time) : Int :=
  max self.closedRetentionSeconds
    (ceilSeconds (session.expiresAt - now) + self.closedRetentionSeconds)

/-- The clock is read for a record that is not closed. -/
def timed (next : Int → Caller κ) : Caller κ :=
  if session.state = .closed then next self.closedRetentionSeconds
  else .send .now fun now => next (self.secondsAt session now)

def adding (seconds : Int) : Caller κ :=
  .send (.setNew (self.key session.sessionId) session seconds) fun created =>
    match created with
    | true => .send (.sadd self.indexKey (self.key session.sessionId)) fun _ =>
        .done (.answered token (.add session) .stored)
    | false => .done (.answered token (.add session) (.raised "ConflictError"))

def getting (sessionId : UUID) : Caller κ :=
  .send (.get (self.key sessionId)) fun value =>
    .done (.answered token (.get sessionId) (.ofFound
      (match value with
      | none => .ok none
      | some value => (decode value).map some)))

/-- The answer to a save, after the watch is gone. -/
def saved (answer : Answer) : Caller κ :=
  .send .reset fun _ => .done (.answered token (.save session expectedRevision) answer)

def executing (seconds : Int) : Caller κ :=
  .send (.execute [.set (self.key session.sessionId) session seconds,
    .sadd self.indexKey (self.key session.sessionId)]) fun executed =>
    match executed with
    | true => saved token session expectedRevision .stored
    | false => saved token session expectedRevision (.raised "RepositoryConflict")

/-- What a save does with the record it has read. -/
def checking : Option Session → Caller κ
  | none => saved token session expectedRevision (.raised "RepositoryConflict")
  | some raw =>
      match decode raw with
      | .error error => saved token session expectedRevision (.raised error.className)
      | .ok current =>
          if current.revision ≠ expectedRevision ∨
              session.revision ≠ expectedRevision + 1 then
            saved token session expectedRevision (.raised "RepositoryConflict")
          else self.timed session (self.executing token session expectedRevision)

def updating : Caller κ :=
  .send (.get (self.key session.sessionId)) fun value =>
    self.checking token session expectedRevision value

def saving : Caller κ :=
  .send (.watch (self.key session.sessionId)) fun _ => self.updating token session expectedRevision

def collecting : List String → List Session → Caller κ
  | [], sessions => .done (.listed token (.ok (sessions.insertionSort fun left right =>
      left.createdAt ≤ right.createdAt)))
  | key :: keys, sessions => .send (.get key) fun value =>
      match value with
      | none => .send (.srem self.indexKey key) fun _ => collecting keys sessions
      | some value =>
          match decode value with
          | .error error => .done (.listed token (.error error))
          | .ok session => collecting keys (sessions ++ [session])

variable {self token session expectedRevision}

/-- What follows the reading of the clock. -/
theorem bind_ttl {α : Type} (next : Except Error Int → Client Command Command.Reply α) :
    Client.bind (self.ttl session) next =
      if session.state = .closed then next (.ok self.closedRetentionSeconds)
      else .send .now fun now => next (.ok (self.secondsAt session now)) := by
  unfold ttl
  split <;> rfl

theorem program_add :
    self.program token (.add session) = self.timed session (self.adding token session) := by
  have rest : ∀ seconds, Client.bind (ExceptT.run do
        let created ← ValkeyProgram.setNew (self.key session.sessionId) session seconds
        if created then
          ValkeyProgram.sadd self.indexKey (self.key session.sessionId)
        else
          throw (.conflict "session already exists"))
      (fun result => .done (.answered token (.add session) (.ofStored result))) =
        self.adding token session seconds := by
    intro seconds
    exact congrArg (Client.send _) (funext fun (created : Bool) => by cases created <;> rfl)
  show Client.bind (Client.bind (self.ttl session) _) _ = _
  rw [Client.bind_assoc, bind_ttl, timed]
  split
  · exact rest _
  · exact congrArg (Client.send _) (funext fun now => rest _)

/-- An exception ends the program. -/
theorem run_ofExcept_bind {α β : Type} (result : Except Error α)
    (next : α → ValkeyProgram β) : ExceptT.run (ofExcept result >>= next) =
      match result with
      | .ok value => (next value).run
      | .error error => .done (.error error) := by
  cases result <;> rfl

theorem program_get (sessionId : UUID) :
    self.program token (.get sessionId) = self.getting token sessionId := by
  refine congrArg (Client.send _) (funext fun (value : Option Session) => ?_)
  cases value with
  | none => rfl
  | some value =>
      show Client.bind (ExceptT.run (ofExcept (decode value) >>= _)) _ = _
      rw [run_ofExcept_bind]
      dsimp only
      cases decode value <;> rfl

/-- What follows the answer to the transaction. -/
theorem bind_execute (seconds : Int) :
    Client.bind (ExceptT.run do
        let executed ← ValkeyProgram.execute [.set (self.key session.sessionId) session seconds,
          .sadd self.indexKey (self.key session.sessionId)]
        if executed then
          return ()
        else
          throw (.repositoryConflict "session revision changed during update"))
      (fun result => Client.send .reset fun _ => .done (Label.answered token
        (.save session expectedRevision) (.ofStored result))) =
        self.executing token session expectedRevision seconds :=
  congrArg (Client.send _) (funext fun (executed : Bool) => by cases executed <;> rfl)

/-- What follows the reading of the record. -/
theorem bind_read (value : Option Session) :
    Client.bind (ExceptT.run (match value with
        | none => throw (.repositoryConflict "session disappeared during update")
        | some raw => do
            let current ← ofExcept (decode raw)
            if current.revision ≠ expectedRevision ∨
                session.revision ≠ expectedRevision + 1 then
              throw (.repositoryConflict "session revision changed during update")
            let executed ← ValkeyProgram.execute [.set (self.key session.sessionId) session
              (← self.ttl session), .sadd self.indexKey (self.key session.sessionId)]
            if executed then
              return ()
            else
              throw (.repositoryConflict "session revision changed during update") :
          ValkeyProgram Unit))
      (fun result => Client.send .reset fun _ => .done (Label.answered token
        (.save session expectedRevision) (.ofStored result))) =
        self.checking token session expectedRevision value := by
  cases value with
  | none => rfl
  | some raw =>
      dsimp only
      rw [run_ofExcept_bind]
      unfold checking
      dsimp only
      cases decode raw with
      | error error => rfl
      | ok current =>
          dsimp only
          split
          · rfl
          · refine (Client.bind_assoc (self.ttl session) _ _).trans ((bind_ttl _).trans ?_)
            unfold timed
            split
            · exact bind_execute _
            · exact congrArg (Client.send _) (funext fun now => bind_execute _)

theorem program_save :
    self.program token (.save session expectedRevision) =
      self.saving token session expectedRevision := by
  refine congrArg (Client.send _) (funext fun _ => ?_)
  show Client.bind (Client.bind (self.update session expectedRevision) _) _ = _
  rw [Client.bind_assoc]
  exact congrArg (Client.send _) (funext bind_read)

theorem bind_collect (keys : List String) (sessions : List Session) :
    Client.bind (self.collect keys sessions) (fun result =>
      .done (.listed token (result.map fun sessions =>
        sessions.insertionSort fun left right => left.createdAt ≤ right.createdAt))) =
      self.collecting token keys sessions := by
  induction keys generalizing sessions with
  | nil => rfl
  | cons key keys inductionHypothesis =>
      refine congrArg (Client.send _) (funext fun (value : Option Session) => ?_)
      cases value with
      | none => exact congrArg (Client.send _) (funext fun _ => inductionHypothesis sessions)
      | some value =>
          show Client.bind (ExceptT.run (ofExcept (decode value) >>= _)) _ = _
          rw [run_ofExcept_bind]
          dsimp only
          cases decode value with
          | error error => rfl
          | ok session => exact inductionHypothesis (sessions ++ [session])

theorem program_list :
    self.program token .list =
      .send (.smembers self.indexKey) fun keys => self.collecting token keys [] := by
  refine congrArg (Client.send _) (funext fun (keys : List String) => ?_)
  show Client.bind (Client.bind (self.collect keys []) _) _ = _
  rw [← bind_collect]
  rw [Client.bind_assoc]
  apply congrArg (Client.bind _)
  funext result
  cases result <;> rfl

end RetroBrowser.SessionManager.ValkeySessionRepository
