import RetroBrowser.SessionManager.Repositories.Simulation

/-!
Owns what the callers of the Valkey repository can rely on: its answers are those
of the in-memory repository called once at a time, and so no two writes store the
same version of a session, and what has been stored is read.

Contract: the callers hand over records that the validators accept; the repository itself
checks a record only when it reads one. Whether a key expires is up to the schedule. What is
said of one session supposes only that the key of that session does not.
-/

namespace RetroBrowser.SessionManager

open RetroBrowser.Foundation RetroBrowser.Foundation.Concurrent

section Example

/-- The versions of a session. -/
def exampleVersion (revision : Nat) : Session where
  sessionId := 5
  displayName := "Saturday Night NES"
  ownerUserId := "user-1"
  rommRomId := 42
  platform := "nes"
  romSha256 := "0000000000000000000000000000000000000000000000000000000000000000"
  coreProfileId := "nes"
  maxPlayers := 2
  state := .open
  participants := []
  createdAt := 0
  updatedAt := 0
  expiresAt := 3600000000
  closedReason := none
  revision := revision

def exampleRepository : ValkeySessionRepository := ⟨"retro:sessions", 86400⟩

/-- A session is added, two callers save its next version at the same time, and it is read. -/
def exampleSchedule : List (Move Nat ValkeySessionRepository.Request
    ValkeySessionRepository.Incident) :=
  .request 0 (.add (exampleVersion 0)) :: List.replicate 4 (.advance 0) ++
    [.request 1 (.save (exampleVersion 1) 0), .request 2 (.save (exampleVersion 1) 0)] ++
    (List.replicate 6 [.advance 1, .advance 2]).flatten ++
    [.request 3 (.get 5), .advance 3, .advance 3]

def exampleSaved : List (ValkeySessionRepository.Label Nat) :=
  [.called 0 (.add (exampleVersion 0)), .answered 0 (.add (exampleVersion 0)) .stored,
    .called 1 (.save (exampleVersion 1) 0), .called 2 (.save (exampleVersion 1) 0),
    .answered 1 (.save (exampleVersion 1) 0) .stored,
    .answered 2 (.save (exampleVersion 1) 0) (.raised "RepositoryConflict")]

def exampleRead : List (ValkeySessionRepository.Label Nat) :=
  [.called 3 (.get 5), .answered 3 (.get 5) (.found (some (exampleVersion 1)))]

end Example

theorem exampleSchedule_validated :
    ∀ move ∈ exampleSchedule, ValkeySessionRepository.Validated move := by
  decide +kernel

/-- Whatever the order of the commands and whenever keys expire, there is one order of the
operations, which keeps to real time, in which the in-memory repository gives the same answers,
as long as the records that are handed over validate. Of an error, the class is compared. -/
theorem valkey_refines_memory {κ : Type} [DecidableEq κ] (repository : ValkeySessionRepository)
    (schedule : List (Move κ ValkeySessionRepository.Request ValkeySessionRepository.Incident))
    (shown : List (ValkeySessionRepository.Label κ)) (after : ValkeySessionRepository.State κ)
    (validated : ∀ move ∈ schedule, ValkeySessionRepository.Validated move)
    (ran : (repository.service κ).moves (repository.service κ).initial schedule =
      some (shown, after)) :
    ∃ calls, Linearizes InMemorySessionRepository.object
      (shown.filterMap ValkeySessionRepository.Label.visible) calls :=
  (repository.simulates κ).linearizes (Service.run_of_moves validated ran)

theorem two_saves_linearized :
    ∃ calls, Linearizes InMemorySessionRepository.object
      ((exampleSaved ++ exampleRead).filterMap ValkeySessionRepository.Label.visible) calls :=
  valkey_refines_memory exampleRepository exampleSchedule (exampleSaved ++ exampleRead) _
    exampleSchedule_validated rfl

namespace SessionOperation

/-- The version that an operation stores. -/
def written : SessionOperation → Option Session
  | .add session | .save session _ => some session
  | .get _ | .expire _ => none

/-- The revision that it replaces. -/
def replaced : SessionOperation → Option Nat
  | .save _ expectedRevision => some expectedRevision
  | .add _ | .get _ | .expire _ => none

end SessionOperation

namespace InMemorySessionRepository

/-- The version is stored, or a later one. -/
def Keeps (session : Session) (sessions : InMemorySessionRepository) : Prop :=
  ∃ record, get sessions session.sessionId = some record ∧
    (record = session ∨ session.revision < record.revision)

variable {sessions : InMemorySessionRepository} {session : Session} {operation : SessionOperation}

theorem perform_get (sessionId : UUID) :
    object.perform (.get sessionId) sessions = (.found (get sessions sessionId), sessions) :=
  rfl

/-- What an answered write says of the records before and after it. -/
structure Wrote (operation : SessionOperation) (session : Session)
    (before after : InMemorySessionRepository) : Prop where
  found : (get before session.sessionId).map Session.revision = operation.replaced
  next : ∀ revision, operation.replaced = some revision → session.revision = revision + 1
  stored : get after session.sessionId = some session

theorem wrote (written : operation.written = some session)
    (stored : (object.perform operation sessions).1 = .stored) :
    Wrote operation session sessions (object.perform operation sessions).2 := by
  cases operation with
  | get | expire => cases written
  | add added =>
      cases written
      cases found : get sessions session.sessionId with
      | some record =>
          have performed : object.perform (.add session) sessions = _ := perform_add_present found
          rw [performed] at stored
          cases stored
      | none =>
          have performed : object.perform (.add session) sessions = _ := perform_add found
          rw [performed]
          exact {
            found := congrArg (Option.map Session.revision) found
            next := fun revision same => by cases same
            stored := (get_append found _).trans (if_pos rfl) }
  | save saved expectedRevision =>
      cases written
      by_cases fits : Fits (get sessions session.sessionId) session expectedRevision
      · have performed : object.perform (.save session expectedRevision) sessions = _ :=
          perform_save fits
        have ⟨record, found, revision, next⟩ := fits
        rw [performed]
        exact {
          found := by
            rw [found, ← revision]
            rfl
          next := by
            intro other same
            cases same
            exact next
          stored := by
            dsimp only
            rw [get_overwrite, if_pos rfl, found]
            rfl }
      · have performed : object.perform (.save session expectedRevision) sessions = _ :=
          perform_save_refused fits
        rw [performed] at stored
        cases stored

/-- Where there is a record, a write stores the next version. -/
theorem Wrote.advances {before after : InMemorySessionRepository}
    (wrote : Wrote operation session before after) {record : Session}
    (found : get before session.sessionId = some record) :
    operation.replaced = some record.revision ∧ session.revision = record.revision + 1 := by
  have replaces := wrote.found
  rw [found] at replaces
  exact ⟨replaces.symm, wrote.next _ replaces.symm⟩

/-- A write leaves the other sessions alone, and one that is refused leaves them all alone. -/
theorem perform_other {sessionId : UUID} (lasting : operation ≠ .expire sessionId)
    (unwritten : ∀ session, operation.written = some session → session.sessionId = sessionId →
      (object.perform operation sessions).1 ≠ .stored) :
    get (object.perform operation sessions).2 sessionId = get sessions sessionId := by
  cases operation with
  | get => rfl
  | expire removed =>
      refine (get_filter removed sessionId).trans (if_neg ?_)
      intro same
      exact lasting (by rw [same])
  | add session =>
      cases found : get sessions session.sessionId with
      | some record =>
          have performed : object.perform (.add session) sessions = _ := perform_add_present found
          rw [performed]
      | none =>
          have performed : object.perform (.add session) sessions = _ := perform_add found
          rw [performed] at unwritten ⊢
          refine (get_append found sessionId).trans (if_neg ?_)
          intro same
          exact unwritten session rfl same.symm rfl
  | save session expectedRevision =>
      by_cases fits : Fits (get sessions session.sessionId) session expectedRevision
      · have performed : object.perform (.save session expectedRevision) sessions = _ :=
          perform_save fits
        rw [performed] at unwritten ⊢
        refine (get_overwrite sessionId).trans (if_neg ?_)
        intro same
        exact unwritten session rfl same.symm rfl
      · have performed : object.perform (.save session expectedRevision) sessions = _ :=
          perform_save_refused fits
        rw [performed]

/-- While the key of the session does not expire, it is kept. -/
theorem Keeps.perform (keeps : Keeps session sessions)
    (lasting : operation ≠ .expire session.sessionId) :
    Keeps session (object.perform operation sessions).2 := by
  have ⟨record, found, newer⟩ := keeps
  by_cases writes : ∃ next, operation.written = some next ∧
    next.sessionId = session.sessionId ∧
      (object.perform operation sessions).1 = .stored
  · have ⟨next, written, same, stored⟩ := writes
    have wrote := wrote written stored
    have now := wrote.stored
    rw [← same] at found
    have advances := (wrote.advances found).2
    rw [same] at now
    refine ⟨next, now, Or.inr ?_⟩
    cases newer with
    | inl equal =>
        rw [← equal]
        omega
    | inr later => omega
  · refine ⟨record, ?_, newer⟩
    rw [perform_other lasting, found]
    intro next written same stored
    exact writes ⟨next, written, same, stored⟩

end InMemorySessionRepository

namespace ValkeySessionRepository

open InMemorySessionRepository (Keeps)

variable {κ : Type}

/-- What a label says of the operation of its token. -/
def Label.Agrees (asked : κ → Option SessionOperation) : Label κ → Prop
  | .called token operation | .answered token operation _ => asked token = some operation
  | .listing _ | .listed _ _ => True

variable [DecidableEq κ]

/-- Every token stands for one operation. -/
structure Accounted (schedule : List (Move κ Request Incident))
    (asked : κ → Option SessionOperation)
    (shown : List (Label κ)) (state : State κ) : Prop where
  fresh : ∀ token, state.processes token = .idle → asked token = none
  shown : ∀ label ∈ shown, label.Agrees asked
  running : ∀ token program, state.processes token = .running program →
    program.All (fun _ => True) (Label.Agrees asked)
  expired : ∀ token sessionId, asked token = some (.expire sessionId) →
    ∃ token', .event token' (.expire sessionId) ∈ schedule

variable {repository : ValkeySessionRepository}
  {schedule : List (Move κ Request Incident)} {asked : κ → Option SessionOperation}
  {shown : List (Label κ)} {state : State κ} {token : κ}

/-- What is asked with a new token changes nothing for the others. -/
theorem Label.Agrees.update {label : Label κ} (agrees : label.Agrees asked)
    (fresh : asked token = none) (operation : Option SessionOperation) :
    label.Agrees (Function.update asked token operation) := by
  have other : ∀ {own operation'}, asked own = some operation' → own ≠ token := by
    intro own operation' known same
    rw [same, fresh] at known
    cases known
  cases label with
  | called own operation' => exact (Function.update_of_ne (other agrees) _ _).trans agrees
  | answered own operation' answer =>
      exact (Function.update_of_ne (other agrees) _ _).trans agrees
  | listing | listed => trivial

/-- What a request asks for one session. -/
def Request.operation : Request → Option SessionOperation
  | .add session => some (.add session)
  | .get sessionId => some (.get sessionId)
  | .save session expectedRevision => some (.save session expectedRevision)
  | .list => none

omit [DecidableEq κ] in
theorem Request.label_agrees {request : Request} (known : asked token = request.operation) :
    (request.label token).Agrees asked := by
  cases request with
  | add | get | save => exact known
  | list => trivial

omit [DecidableEq κ] in
theorem program_agrees {request : Request} (known : asked token = request.operation) :
    (repository.program token request).All (fun _ => True) (Label.Agrees asked) := by
  cases request with
  | add | get | save => exact (Client.All.any _).bind fun _ _ => known
  | list => exact (Client.All.any _).bind fun _ _ => trivial

/-- A new token stands for what it asks, whatever it does next. -/
theorem Accounted.begin (accounted : Accounted schedule asked shown state)
    (idle : state.processes token = .idle) {operation : Option SessionOperation}
    (expired : ∀ sessionId, operation = some (.expire sessionId) →
      ∃ token', .event token' (.expire sessionId) ∈ schedule)
    {labels : List (Label κ)}
    (begins : ∀ label ∈ labels, label.Agrees (Function.update asked token operation))
    {process : Process Command Command.Reply (Label κ)} (busy : process ≠ .idle)
    (runs : ∀ program, process = .running program →
      program.All (fun _ => True) (Label.Agrees (Function.update asked token operation)))
    (store : ValkeyStore) :
    Accounted schedule (Function.update asked token operation) (shown ++ labels)
      { state with store, processes := Function.update state.processes token process } := by
  have fresh := accounted.fresh token idle
  refine ⟨?_, ?_, Service.running_update runs ?_, ?_⟩
  · intro other waits
    by_cases same : other = token
    · rw [same] at waits
      exact absurd ((Function.update_self ..).symm.trans waits) busy
    · rw [Function.update_of_ne same]
      exact accounted.fresh other ((Function.update_of_ne same _ _).symm.trans waits)
  · intro label member
    cases List.mem_append.mp member with
    | inl earlier => exact (accounted.shown label earlier).update fresh operation
    | inr now => exact begins label now
  · intro other program _ running
    exact (accounted.running other program running).weaken fun _ agrees =>
      agrees.update fresh operation
  · intro other sessionId asks
    by_cases same : other = token
    · rw [same, Function.update_self] at asks
      exact expired sessionId asks
    · rw [Function.update_of_ne same] at asks
      exact accounted.expired other sessionId asks

/-- A running program goes on. -/
theorem Accounted.proceed (accounted : Accounted schedule asked shown state)
    {labels : List (Label κ)} (shows : ∀ label ∈ labels, label.Agrees asked)
    {process : Process Command Command.Reply (Label κ)} (busy : process ≠ .idle)
    (runs : ∀ program, process = .running program →
      program.All (fun _ => True) (Label.Agrees asked))
    (store : ValkeyStore) (connections : κ → Connection) :
    Accounted schedule asked (shown ++ labels)
      ⟨store, connections, Function.update state.processes token process⟩ := by
  refine ⟨?_, ?_, Service.running_update runs fun other program _ =>
    accounted.running other program,
    accounted.expired⟩
  · intro other waits
    by_cases same : other = token
    · rw [same] at waits
      exact absurd ((Function.update_self ..).symm.trans waits) busy
    · exact accounted.fresh other ((Function.update_of_ne same _ _).symm.trans waits)
  · intro label member
    cases List.mem_append.mp member with
    | inl earlier => exact accounted.shown label earlier
    | inr now => exact shows label now

theorem accounted_move {move : Move κ Request Incident} (planned : move ∈ schedule)
    {labels : List (Label κ)} {after : State κ} (accounted : Accounted schedule asked shown state)
    (moved : (repository.service κ).move state move = some (labels, after)) :
    ∃ asked', Accounted schedule asked' (shown ++ labels) after := by
  cases Service.move_cases moved with
  | inl begins =>
      obtain ⟨token, request, label, program, rfl, idle, started, rfl, rfl⟩ := begins
      cases started
      refine ⟨Function.update asked token request.operation,
        accounted.begin idle ?_ ?_ (by simp) ?_ _⟩
      · intro sessionId asks
        cases request <;> cases asks
      · intro label member
        rw [List.mem_singleton.mp member]
        exact Request.label_agrees (Function.update_self ..)
      · intro program same
        cases same
        exact program_agrees (Function.update_self ..)
  | inr more =>
  cases more with
  | inl ended =>
      obtain ⟨token, label, rfl, running, rfl, rfl⟩ := ended
      refine ⟨asked, accounted.proceed ?_ (by simp) (fun _ same => by cases same) _ _⟩
      intro shown member
      rw [List.mem_singleton.mp member]
      exact accounted.running token _ running
  | inr more =>
  cases more with
  | inl sends =>
      obtain ⟨token, command, next, rfl, running, rfl, rfl⟩ := sends
      refine ⟨asked, accounted.proceed (by simp) (by simp) ?_ _ _⟩
      intro program same
      cases same
      exact (accounted.running token _ running).2 _
  | inr befallen =>
      obtain ⟨token, event, store, rfl, idle, happens, rfl, rfl⟩ := befallen
      cases event with
      | expire sessionId =>
          refine ⟨Function.update asked token (some (.expire sessionId)),
            accounted.begin idle ?_ ?_ (by simp) (fun _ same => by cases same) _⟩
          · intro other same
            cases same
            exact ⟨token, planned⟩
          · intro label member
            have own : label.Agrees (Function.update asked token (some (.expire sessionId))) := by
              cases List.mem_cons.mp member with
              | inl first =>
                  rw [first]
                  exact Function.update_self ..
              | inr second =>
                  rw [List.mem_singleton.mp second]
                  exact Function.update_self ..
            exact own
      | wait | arrange =>
          refine ⟨Function.update asked token none, accounted.begin idle
            (fun _ same => by cases same)
            (by simp [service]) (by simp) (fun _ same => by cases same) _⟩

/-- In every run, each token stands for one operation, and only planned keys expire. -/
theorem accounted_moves
    (ran : (repository.service κ).moves (repository.service κ).initial schedule =
      some (shown, state)) : ∃ asked, Accounted schedule asked shown state := by
  have start : ∃ asked, Accounted schedule asked [] (repository.service κ).initial := by
    refine ⟨fun _ => none, fun _ _ => rfl, by simp, ?_, ?_⟩
    · intro token program same
      cases same
    · intro token sessionId same
      cases same
  refine Service.moves_keep (fun shown state => ∃ asked, Accounted schedule asked shown state) ?_
    start ran
  intro move planned labels shown before after ⟨asked, accounted⟩ moved
  exact accounted_move planned accounted moved

omit [DecidableEq κ] in
/-- What is visible of a label. -/
theorem mem_visible {label : Label κ} {event : Event κ SessionOperation Answer}
    (seen : label.visible = some event) (member : label ∈ shown) :
    event ∈ shown.filterMap Label.visible :=
  List.mem_filterMap.mpr ⟨label, member, seen⟩

/-- The order of the operations, with every answered one in it, and with the expiries of the
schedule only. -/
theorem explained (validated : ∀ move ∈ schedule, Validated move)
    (ran : (repository.service κ).moves (repository.service κ).initial schedule =
      some (shown, state)) :
    ∃ calls, Linearizes InMemorySessionRepository.object (shown.filterMap Label.visible) calls ∧
      (∀ token operation answer, .answered token operation answer ∈ shown →
        ⟨token, operation, answer⟩ ∈ calls) ∧
      ∀ call ∈ calls, ∀ sessionId, call.operation = .expire sessionId →
        ∃ token, .event token (.expire sessionId) ∈ schedule := by
  have ⟨calls, linearizes⟩ := (repository.simulates κ).linearizes
    (Service.run_of_moves validated ran)
  have ⟨asked, accounted⟩ := accounted_moves ran
  -- The operation with which a call begins is the one that its token stands for.
  have asks : ∀ call ∈ calls, asked call.token = some call.operation := by
    intro call performed
    have ⟨label, member, seen⟩ := List.mem_filterMap.mp (linearizes.called call performed)
    have agrees := accounted.shown label member
    cases label with
    | called token operation =>
        cases seen
        exact agrees
    | answered | listing | listed => cases seen
  refine ⟨calls, linearizes, ?_, ?_⟩
  · intro token operation answer member
    have ⟨operation', performed⟩ := linearizes.answered token answer (mem_visible rfl member)
    have known : asked token = some operation := accounted.shown _ member
    have same := (asks _ performed).symm.trans known
    cases same
    exact performed
  · intro call performed sessionId same
    apply accounted.expired call.token sessionId
    rw [asks call performed, same]

omit [DecidableEq κ] in
/-- A later write replaces another revision. -/
theorem replaced_ne {calls : List (Call κ SessionOperation Answer)}
    {history : List (Event κ SessionOperation Answer)}
    (linearizes : Linearizes InMemorySessionRepository.object history calls)
    {first second : Call κ SessionOperation Answer} (performed : first ∈ calls)
    (performed' : second ∈ calls) (before : Before calls first.token second.token)
    {left right : Session} (written : first.operation.written = some left)
    (written' : second.operation.written = some right) (stored : first.answer = .stored)
    (stored' : second.answer = .stored) (same : left.sessionId = right.sessionId)
    (lasting : ∀ call ∈ calls, call.operation ≠ .expire left.sessionId) :
    first.operation.replaced ≠ second.operation.replaced := by
  -- The first write leaves its version and what it says of the revision that it replaced.
  have ⟨sessions, ⟨keeps, next⟩, answers⟩ := linearizes.sees performed performed' before
    (fun sessions => Keeps left sessions ∧
      ∀ revision, first.operation.replaced = some revision → left.revision = revision + 1)
    (fun sessions answers =>
      have wrote := InMemorySessionRepository.wrote written (answers.trans stored)
      ⟨⟨left, wrote.stored, Or.inl rfl⟩, wrote.next⟩)
    (fun call member sessions known => ⟨known.1.perform (lasting call member), known.2⟩)
  have ⟨record, found, newer⟩ := keeps
  rw [same] at found
  have advances := (InMemorySessionRepository.wrote written' (answers.trans stored')).advances found
  intro equal
  have revision := next record.revision (equal.trans advances.1)
  cases newer with
  | inl version =>
      rw [version] at revision
      omega
  | inr later => omega

end ValkeySessionRepository

section

variable {κ : Type} [DecidableEq κ] (repository : ValkeySessionRepository)
  (schedule : List (Move κ ValkeySessionRepository.Request ValkeySessionRepository.Incident))
  (after : ValkeySessionRepository.State κ)

/-- Of all the writes that replace the same version of a session, or that are to be its first, only
one succeeds, while the key does not expire and the records that are handed over validate. -/
theorem writes_exclusive (validated : ∀ move ∈ schedule, ValkeySessionRepository.Validated move)
    (shown : List (ValkeySessionRepository.Label κ))
    (ran : (repository.service κ).moves (repository.service κ).initial schedule =
      some (shown, after))
    (first second : κ) (operation operation' : SessionOperation) (left right : Session)
    (answer : Answer)
    (stored : .answered first operation .stored ∈ shown)
    (answered : .answered second operation' answer ∈ shown) (different : first ≠ second)
    (written : operation.written = some left) (written' : operation'.written = some right)
    (same : left.sessionId = right.sessionId) (version : operation.replaced = operation'.replaced)
    (lasting : ∀ token, .event token (.expire left.sessionId) ∉ schedule) :
    answer ≠ .stored := by
  have ⟨calls, linearizes, performs, expired⟩ := ValkeySessionRepository.explained validated ran
  have unexpired : ∀ call ∈ calls, call.operation ≠ .expire left.sessionId := by
    intro call performed expires
    have ⟨token, planned⟩ := expired call performed left.sessionId expires
    exact lasting token planned
  have performed := performs _ _ _ stored
  have performed' := performs _ _ _ answered
  intro stored'
  cases Before.total performed performed' different with
  | inl before =>
      exact ValkeySessionRepository.replaced_ne linearizes performed performed' before written
        written' rfl stored' same unexpired version
  | inr before =>
      rw [same] at unexpired
      exact ValkeySessionRepository.replaced_ne linearizes performed' performed before written'
        written stored' rfl same.symm unexpired version.symm

theorem second_save_refused : Answer.raised "RepositoryConflict" ≠ .stored :=
  writes_exclusive exampleRepository exampleSchedule _ exampleSchedule_validated
    (exampleSaved ++ exampleRead) rfl 1 2
    (.save (exampleVersion 1) 0) (.save (exampleVersion 1) 0) (exampleVersion 1) (exampleVersion 1)
    (.raised "RepositoryConflict") (by simp [exampleSaved]) (by simp [exampleSaved]) (by decide)
    rfl rfl rfl rfl (by simp [exampleSchedule])

/-- What has been stored is read by every `get` that begins afterwards, or a later version is,
while the key does not expire and the records that are handed over validate. -/
theorem stored_versions_read
    (validated : ∀ move ∈ schedule, ValkeySessionRepository.Validated move)
    (early late : List (ValkeySessionRepository.Label κ))
    (ran : (repository.service κ).moves (repository.service κ).initial schedule =
      some (early ++ late, after))
    (writer reader : κ) (operation : SessionOperation) (session : Session) (answer : Answer)
    (stored : .answered writer operation .stored ∈ early)
    (written : operation.written = some session)
    (asked : .called reader (.get session.sessionId) ∈ late)
    (answered : .answered reader (.get session.sessionId) answer ∈ late)
    (lasting : ∀ token, .event token (.expire session.sessionId) ∉ schedule) :
    ∃ record, answer = .found (some record) ∧
      (record = session ∨ session.revision < record.revision) := by
  have ⟨calls, linearizes, performed, expired⟩ :=
    ValkeySessionRepository.explained validated ran
  have wrote := performed _ _ _ (List.mem_append_left late stored)
  have read := performed _ _ _ (List.mem_append_right early answered)
  have before : Before calls writer reader := by
    apply linearizes.realTime writer reader _ (List.mem_map_of_mem (f := Call.token) read)
    exact ⟨_, _, .stored, _, List.filterMap_append,
      ValkeySessionRepository.mem_visible rfl stored,
      ValkeySessionRepository.mem_visible rfl asked⟩
  have ⟨sessions, keeps, answers⟩ := linearizes.sees wrote read before
    (InMemorySessionRepository.Keeps session)
    (fun sessions answers => ⟨session, (InMemorySessionRepository.wrote written answers).stored,
      Or.inl rfl⟩)
    (fun call member sessions keeps => keeps.perform fun expires =>
      have ⟨token, planned⟩ := expired call member session.sessionId expires
      lasting token planned)
  have ⟨record, found, newer⟩ := keeps
  rw [InMemorySessionRepository.perform_get, found] at answers
  exact ⟨record, answers.symm, newer⟩

end

theorem saved_version_read :
    ∃ record, Answer.found (some (exampleVersion 1)) = .found (some record) ∧
      (record = exampleVersion 1 ∨ (exampleVersion 1).revision < record.revision) :=
  stored_versions_read exampleRepository exampleSchedule _ exampleSchedule_validated
    exampleSaved exampleRead rfl 1 3
    (.save (exampleVersion 1) 0) (exampleVersion 1) (.found (some (exampleVersion 1)))
    (by simp [exampleSaved]) rfl (by simp [exampleRead]; rfl) (by simp [exampleRead]; rfl)
    (by simp [exampleSchedule])

end RetroBrowser.SessionManager
