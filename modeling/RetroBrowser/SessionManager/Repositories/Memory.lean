import RetroBrowser.Foundation.Lookup
import RetroBrowser.SessionManager.Models.Domain

/-!
Owns the in-memory session repository: a dictionary from session identifiers to
records, kept as the list of its values in insertion order.
-/

namespace RetroBrowser.SessionManager

open RetroBrowser.Foundation

abbrev InMemorySessionRepository := List Session

namespace InMemorySessionRepository

variable (sessions : InMemorySessionRepository)

def get (sessionId : UUID) : Option Session :=
  sessions.find? fun session => session.sessionId = sessionId

/-- Overwrite the record under an identifier the dictionary already has. -/
def overwrite (session : Session) : InMemorySessionRepository :=
  sessions.map fun current => if current.sessionId = session.sessionId then session else current

def add (session : Session) : Except Error InMemorySessionRepository :=
  if (get sessions session.sessionId).isSome then .error (.conflict "session already exists")
  else .ok (sessions ++ [session])

/-- `sorted(..., key=created_at)`, which is stable. -/
def list : List Session :=
  List.insertionSort (fun left right => left.createdAt ≤ right.createdAt) sessions

def save (session : Session) (expectedRevision : Nat) : Except Error InMemorySessionRepository :=
  match get sessions session.sessionId with
  | none => .error (.repositoryConflict "session disappeared during update")
  | some current =>
      if current.revision ≠ expectedRevision then
        .error (.repositoryConflict "session revision changed during update")
      else if session.revision ≠ expectedRevision + 1 then
        .error (.repositoryConflict "new session revision is invalid")
      else .ok (overwrite sessions session)

variable {sessions}

theorem get_mem {sessionId : UUID} {session : Session}
    (found : get sessions sessionId = some session) :
    session ∈ sessions ∧ session.sessionId = sessionId :=
  ⟨List.mem_of_find?_eq_some found, by simpa using List.find?_some found⟩

@[simp] theorem mem_list {session : Session} : session ∈ list sessions ↔ session ∈ sessions :=
  List.mem_insertionSort _

theorem get_isNone {sessionId : UUID} :
    get sessions sessionId = none ↔
      ∀ session ∈ sessions, session.sessionId ≠ sessionId := by
  simp [get]

/-- With distinct identifiers, lookup finds every stored record. -/
theorem get_eq_of_mem {session : Session} (distinct : (sessions.map Session.sessionId).Nodup)
    (member : session ∈ sessions) : get sessions session.sessionId = some session :=
  find_key distinct member

theorem get_overwrite {session : Session} (sessionId : UUID) :
    get (overwrite sessions session) sessionId =
      if sessionId = session.sessionId then (get sessions sessionId).map fun _ => session
      else get sessions sessionId := by
  induction sessions with
  | nil => simp [get, overwrite]
  | cons head tail inductionHypothesis =>
      simp only [get, overwrite, List.map_cons, List.find?_cons] at inductionHypothesis ⊢
      by_cases headMatches : head.sessionId = session.sessionId <;>
        by_cases wanted : sessionId = session.sessionId <;>
        by_cases headWanted : head.sessionId = sessionId <;>
        simp_all

theorem map_sessionId_overwrite (session : Session) :
    (overwrite sessions session).map Session.sessionId = sessions.map Session.sessionId := by
  induction sessions with
  | nil => rfl
  | cons head tail inductionHypothesis =>
      simp only [overwrite, List.map_cons] at inductionHypothesis ⊢
      rw [inductionHypothesis]
      split <;> simp_all

theorem mem_overwrite {session other : Session} (member : other ∈ overwrite sessions session) :
    other = session ∨ (other ∈ sessions ∧ other.sessionId ≠ session.sessionId) := by
  obtain ⟨current, stored, rfl⟩ := List.mem_map.mp member
  by_cases same : current.sessionId = session.sessionId
  · exact Or.inl (if_pos same)
  · rw [if_neg same]
    exact Or.inr ⟨stored, same⟩

/-- An overwrite changes a total by the difference of the two records. -/
theorem sum_overwrite (measure : Session → Nat) {before after : Session}
    (distinct : (sessions.map Session.sessionId).Nodup) (member : before ∈ sessions)
    (same : after.sessionId = before.sessionId) :
    ((overwrite sessions after).map measure).sum + measure before =
      (sessions.map measure).sum + measure after := by
  induction sessions with
  | nil => simp at member
  | cons head tail inductionHypothesis =>
      rw [List.map_cons, List.nodup_cons] at distinct
      simp only [overwrite, List.map_cons, List.sum_cons, same] at inductionHypothesis ⊢
      rcases List.mem_cons.mp member with rfl | later
      · -- No other record has the identifier, so the tail is unchanged.
        have untouched : tail.map (fun current =>
            if current.sessionId = before.sessionId then after else current) = tail := by
          refine (List.map_congr_left fun current stored => ?_).trans (List.map_id tail)
          exact if_neg fun sameId => distinct.1 (List.mem_map.mpr ⟨current, stored, sameId⟩)
        rw [untouched, if_pos rfl]
        omega
      · have other : head.sessionId ≠ before.sessionId :=
          fun sameId => distinct.1 (List.mem_map.mpr ⟨before, later, sameId.symm⟩)
        rw [if_neg other]
        have rest := inductionHypothesis distinct.2 later
        omega

theorem save_ok {session current : Session} (found : get sessions session.sessionId = some current)
    (next : session.revision = current.revision + 1) :
    save sessions session current.revision = .ok (overwrite sessions session) := by
  simp [save, found, next]

/-- A save that works overwrites. -/
theorem eq_overwrite_of_save {session : Session} {revision : Nat}
    {updated : InMemorySessionRepository} (saved : save sessions session revision = .ok updated) :
    updated = overwrite sessions session := by
  unfold save at saved
  split at saved
  · cases saved
  · split_ifs at saved
    exact (Except.ok.inj saved).symm

/-- A save that works has replaced a stored record. -/
theorem get_of_save {session : Session} {revision : Nat} {updated : InMemorySessionRepository}
    (saved : save sessions session revision = .ok updated) :
    get updated session.sessionId = some session := by
  rw [eq_overwrite_of_save saved, get_overwrite, if_pos rfl]
  unfold save at saved
  split at saved
  · cases saved
  · rename_i current found
    rw [found]
    rfl

theorem add_ok {session : Session} (unused : get sessions session.sessionId = none) :
    add sessions session = .ok (sessions ++ [session]) := by
  simp [add, unused]

end InMemorySessionRepository

end RetroBrowser.SessionManager
