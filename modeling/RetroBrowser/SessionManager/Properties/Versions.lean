import Mathlib.Data.List.Chain
import RetroBrowser.Foundation.Trace
import RetroBrowser.SessionManager.Services.Working

/-!
Owns the stored versions of sessions, read off the history. Contract: every
save that is attempted, whether it takes effect or not, conforms to the two
state machines with respect to the latest stored version, which is never
`CLOSED`; so consecutive stored versions conform, and terminal entries and
closed sessions never change again.
-/

namespace RetroBrowser.SessionManager

open RetroBrowser.Foundation

/-- The record a call hands to the repository. -/
def Call.record : Call → Option Session
  | .repositoryAdd session | .repositorySave session _ => some session
  | _ => none

/-- The record an event stores, if it stores one. -/
def Event.stored (event : Event) : Option Session :=
  if event.applied then event.call.record else none

theorem Call.record_of_readOnly {call : Call} (reads : call.readOnly = true) :
    call.record = none := by
  cases call <;> first | rfl | cases reads

/-- All records stored so far, latest first. -/
def storedRecords (history : List Event) : List Session := history.filterMap Event.stored

/-- The stored versions of one session, latest first. -/
def versions (history : List Event) (sessionId : UUID) : List Session :=
  (storedRecords history).filter fun session => session.sessionId = sessionId

/-- A save conforms to the latest version stored before it. -/
def SaveConforms (event : Event) (earlier : List Event) : Prop :=
  ∀ updated revision, event.call = .repositorySave updated revision →
    ∃ before, (versions earlier updated.sessionId).head? = some before ∧ before.Conforms updated

/-- Conformance of a whole history. -/
structure HistoryConforms (history : List Event) : Prop where
  /-- Consecutive stored versions of a session conform. -/
  versions : ∀ sessionId, (versions history sessionId).IsChain fun after before =>
    before.Conforms after
  /-- So does every attempted save, and no closed session is saved again. -/
  saves : Throughout SaveConforms history
  /-- A stored `CLOSED` or `ERROR` session has terminal entries only. -/
  ended : ∀ session ∈ storedRecords history, session.state = .closed ∨
    session.state = .error →
    ∀ item ∈ session.participants, item.state.terminal = true

section Records

variable {event : Event} {history : List Event} {session : Session}

theorem storedRecords_none (storesNothing : event.stored = none) :
    storedRecords (event :: history) = storedRecords history :=
  List.filterMap_cons_none storesNothing

theorem storedRecords_some (stores : event.stored = some session) :
    storedRecords (event :: history) = session :: storedRecords history :=
  List.filterMap_cons_some stores

theorem versions_none (storesNothing : event.stored = none) (sessionId : UUID) :
    versions (event :: history) sessionId = versions history sessionId := by
  rw [versions, storedRecords_none storesNothing, versions]

theorem versions_same (stores : event.stored = some session) :
    versions (event :: history) session.sessionId =
      session :: versions history session.sessionId := by
  rw [versions, storedRecords_some stores, List.filter_cons_of_pos (by simp), versions]

theorem versions_other (stores : event.stored = some session) {sessionId : UUID}
    (other : session.sessionId ≠ sessionId) :
    versions (event :: history) sessionId = versions history sessionId := by
  rw [versions, storedRecords_some stores, List.filter_cons_of_neg (by simpa using other), versions]

/-- A relation between consecutive versions is kept by every event that stores
nothing, and by one whose record stands in it to the latest version. -/
theorem versions_chain {relation : Session → Session → Prop}
    (chain : ∀ sessionId, (versions history sessionId).IsChain relation)
    (next : ∀ session, event.stored = some session → ∀ before,
      (versions history session.sessionId).head? = some before → relation session before)
    (sessionId : UUID) : (versions (event :: history) sessionId).IsChain relation := by
  cases stores : event.stored with
  | none =>
      rw [versions_none stores]
      exact chain sessionId
  | some session =>
      by_cases same : session.sessionId = sessionId
      · subst same
        have latest := next session stores
        have older := chain session.sessionId
        rw [versions_same stores]
        cases earlier : versions history session.sessionId with
        | nil => exact .singleton session
        | cons before rest =>
            rw [earlier] at latest older
            exact .cons_cons (latest before rfl) older
      · rw [versions_other stores same]
        exact chain sessionId

end Records

/-- The history conforms and its latest versions are the stored records. -/
structure World.Versioned (world : World) : Prop extends HistoryConforms world.history where
  latest : ∀ sessionId, (SessionManager.versions world.history sessionId).head? =
    world.get sessionId

namespace World

variable {configuration : Configuration} {world after : World} {event : Event}
variable {session : Session}

theorem Versioned.empty : World.empty.Versioned where
  versions _ := .nil
  saves := throughout_nil
  ended := by simp [World.empty, storedRecords]
  latest _ := rfl

/-- An event that stores nothing. -/
theorem Versioned.unstored (versioned : world.Versioned) (storesNothing : event.stored = none)
    (history : after.history = event :: world.history)
    (sessions : after.sessions = world.sessions) (save : SaveConforms event world.history) :
    after.Versioned where
  versions sessionId := by
    rw [history, versions_none storesNothing]
    exact versioned.versions sessionId
  saves := by
    rw [history]
    exact throughout_cons.mpr ⟨save, versioned.saves⟩
  ended := by
    rw [history, storedRecords_none storesNothing]
    exact versioned.ended
  latest sessionId := by
    rw [history, versions_none storesNothing, versioned.latest, World.get, World.get, sessions]

/-- An event that stores a record. -/
theorem Versioned.stored (versioned : world.Versioned) (stores : event.stored = some session)
    (history : after.history = event :: world.history) (save : SaveConforms event world.history)
    (next : ∀ before, world.get session.sessionId = some before → before.Conforms session)
    (shape : session.Shape) (found : after.get session.sessionId = some session)
    (others : ∀ sessionId, sessionId ≠ session.sessionId →
      after.get sessionId = world.get sessionId) : after.Versioned where
  versions sessionId := by
    rw [history]
    refine versions_chain versioned.versions (fun other stores' before latest => ?_) sessionId
    rw [stores] at stores'
    cases stores'
    rw [versioned.latest] at latest
    exact next before latest
  saves := by
    rw [history]
    exact throughout_cons.mpr ⟨save, versioned.saves⟩
  ended := by
    rw [history, storedRecords_some stores]
    intro current member ended
    rcases List.mem_cons.mp member with rfl | earlier
    · exact fun item itemMember => shape.terminal ended itemMember
    · exact versioned.ended current earlier ended
  latest sessionId := by
    rw [history]
    by_cases same : session.sessionId = sessionId
    · subst same
      rw [versions_same stores, found]
      rfl
    · rw [versions_other stores same, versioned.latest, others sessionId (Ne.symm same)]

end World

/-- No change is made to a closed session. -/
theorem Update.Enabled.notClosed {configuration : Configuration} {world : World}
    {session : Session} {update : Update} (enabled : update.Enabled configuration world session)
    (shape : session.Shape) : session.state ≠ .closed := by
  cases update with
  | joined _ => rw [enabled.1]; decide
  | starting _ => rcases enabled.2.2 with state | state <;> rw [state] <;> decide
  | running _ _ => rcases enabled.2.2 with state | state <;> rw [state] <;> decide
  | active _ _ _ => rcases enabled.2.2.1 with state | state <;> rw [state] <;> decide
  | failed _ _ => rcases enabled.2.2 with ⟨-, state⟩ | ⟨-, state⟩ <;> rw [state] <;> decide
  | renewed _ _ _ | left _ _ | faulted _ _ =>
      rw [shape.open_of_active enabled.1 enabled.2.1]
      decide
  | closed _ => exact enabled.1

namespace World

variable {configuration : Configuration} {world : World}

theorem Versioned.apply (versioned : world.Versioned) (coherent : Coherent world) {action : Action}
    (enabled : action.Enabled configuration world) : (action.apply world).Versioned := by
  cases action with
  | observed event =>
      have reads : event.call.readOnly = true := enabled
      refine versioned.unstored ?_ rfl rfl ?_
      · rw [Event.stored, Call.record_of_readOnly reads, ite_self]
      · intro updated revision call
        rw [call] at reads
        cases reads
  | drew id => exact versioned.unstored rfl rfl rfl (by rintro _ _ ⟨⟩)
  | added session owner applied returned =>
      cases applied with
      | false => exact versioned.unstored rfl rfl rfl (by rintro _ _ ⟨⟩)
      | true =>
          refine versioned.stored rfl rfl (by rintro _ _ ⟨⟩) ?_ ?_
            (get_insert enabled.unusedSession) ?_
          · intro before found
            rw [enabled.unusedSession] at found
            cases found
          · unfold Session.Shape
            rw [enabled.state]
            exact ⟨owner, enabled.participants, enabled.ownerState⟩
          · exact fun sessionId other => get_insert_other (Ne.symm other)
  | saved session update updatedAt applied returned =>
      obtain ⟨found, changes⟩ := enabled
      have sessionCoherent := coherent.sessions session (InMemorySessionRepository.get_mem found).1
      have conforms := changes.conforms sessionCoherent.ids
        (changes.notClosed sessionCoherent.shape) updatedAt
      have save : ∀ event : Event, event.call =
          .repositorySave (update.result session updatedAt) session.revision →
          SaveConforms event world.history := by
        intro event call updated revision same
        rw [call] at same
        cases same
        exact ⟨session, by rw [Update.result_sessionId, versioned.latest, found], conforms⟩
      cases applied with
      | false => exact versioned.unstored rfl rfl rfl (save _ rfl)
      | true =>
          have replaces : world.Replaces
              (world.save (update.result session updatedAt) session.revision) _ :=
            save_replaces found (Update.result_sessionId session updatedAt update)
          refine versioned.stored rfl rfl (save _ rfl) ?_ ?_ replaces.1 replaces.2
          · intro before latest
            rw [Update.result_sessionId, found] at latest
            cases latest
            exact conforms
          · exact changes.shape sessionCoherent.ids sessionCoherent.shape updatedAt
  | created session participant request applied returned =>
      cases applied <;> exact versioned.unstored rfl rfl rfl (by rintro _ _ ⟨⟩)
  | removed participantId applied returned =>
      cases applied <;> exact versioned.unstored rfl rfl rfl (by rintro _ _ ⟨⟩)
  | provisioned session participant applied returned =>
      cases applied <;> exact versioned.unstored rfl rfl rfl (by rintro _ _ ⟨⟩)
  | revoked participantId applied returned =>
      cases applied <;> exact versioned.unstored rfl rfl rfl (by rintro _ _ ⟨⟩)

end World

/-- The history of every run conforms to both state machines, save by save. -/
theorem stored_versions_conform (configuration : Configuration) (world : World)
    (reached : Reachable configuration world) : HistoryConforms world.history :=
  (reached.keeps_enabled _ .empty fun _ _ coherent enabled versioned =>
    World.Versioned.apply versioned coherent enabled).toHistoryConforms

/-- The creation stores four versions: allocated, starting, with its runtime, active. -/
theorem created_lobby_versions_conform :
    (storedRecords createdLobby.history).map Session.revision = [3, 2, 1, 0] ∧
      HistoryConforms createdLobby.history :=
  ⟨by decide, stored_versions_conform .default createdLobby createdLobby_reachable⟩

end RetroBrowser.SessionManager
