import RetroBrowser.SessionManager.Services.Working

/-!
Owns the link from runtimes back to participants. Every path that retires an
active participant waits for the acknowledged removal of its runtime, but a
failed startup stores `ERROR` even where the removal in its clean-up failed, and
nothing looks at the runtime of an `ERROR` entry again. Contract: as long as no
clean-up leaves a created runtime behind, every runtime belongs to a live
participant of a session that is not closed, at every moment.
-/

namespace RetroBrowser.SessionManager

open RetroBrowser.Foundation ActionSystem

/-- A stored session that is not closed has a live participant with this identifier. -/
def World.HasLive (world : World) (id : UUID) : Prop :=
  ∃ session, world.get session.sessionId = some session ∧ session.state ≠ .closed ∧
    ∃ item ∈ session.participants, item.participantId = id ∧ item.live = true

/-- Every runtime belongs to a live participant. -/
def World.Accounted (world : World) : Prop := ∀ id ∈ world.runtimes, world.HasLive id

/-- A new participant's runtime, if its creation takes effect, can be removed. -/
def Request.CleansUp (world : World) (request : Request) : Prop :=
  ∀ id, id ∉ world.issued → request.dependencies.Creates id →
    ¬ request.dependencies.RefusesRemoval id

section Runs

variable {configuration : Configuration} {world after start : World} {request : Request}

theorem World.HasLive.of_get {id : UUID} (live : world.HasLive id)
    (same : ∀ sessionId, after.get sessionId = world.get sessionId) : after.HasLive id := by
  obtain ⟨session, stored, rest⟩ := live
  exact ⟨session, (same _).trans stored, rest⟩

/-- A save keeps a participant live, retires it or fails its startup. -/
theorem World.HasLive.saved {id : UUID} (live : world.HasLive id) (coherent : Coherent world)
    {session : Session} {update : Update} (stored : world.get session.sessionId = some session)
    (enabled : update.Enabled configuration world session) {updatedAt : Time}
    (replaces : world.Replaces after (update.result session updatedAt)) :
    after.HasLive id ∨ world.Retired id ∨
      ∃ participant role, update = .failed participant role ∧
        participant.participantId = id := by
  obtain ⟨current, found, notClosed, item, member, rfl, alive⟩ := live
  by_cases same : current.sessionId = session.sessionId
  · rw [same, stored] at found
    obtain rfl := Option.some.inj found
    have sessionCoherent := coherent.sessions session (InMemorySessionRepository.get_mem stored).1
    have sameId := (enabled.revise_conforms sessionCoherent.ids updatedAt member).participantId
    have revised := Update.revised_mem update updatedAt member
    cases final : (update.revise updatedAt item).state.terminal with
    | false =>
        refine Or.inl ⟨_, replaces.1, fun closed => ?_, _, revised, sameId, by
          simp [Participant.live, final]⟩
        have shape := enabled.shape sessionCoherent.ids sessionCoherent.shape updatedAt
        rw [shape.terminal (Or.inl closed) revised] at final
        cases final
    | true =>
        rcases enabled.ended revised final with before | retired |
          ⟨participant, role, rfl, failed⟩
        · obtain unchanged := eq_of_key sessionCoherent.ids before member sameId
          rw [unchanged] at final
          simp [Participant.live, final] at alive
        · exact Or.inr (Or.inl (sameId ▸ retired))
        · refine Or.inr (Or.inr ⟨participant, role, rfl, ?_⟩)
          rw [← sameId, failed]
  · refine Or.inl ⟨current, ?_, notClosed, item, member, rfl, alive⟩
    rw [replaces.2 _ (by rwa [Update.result_sessionId])]
    exact found

theorem World.Accounted.apply (accounted : world.Accounted) (coherent : Coherent world)
    (cleansUp : request.CleansUp start) {action : Action}
    (permitted : request.Permits configuration start world action)
    (enabled : action.Enabled configuration world) : (action.apply world).Accounted := by
  cases action with
  | observed _ | drew _ | provisioned _ _ _ _ | revoked _ _ _ =>
      exact fun id exists' => (accounted id exists').of_get fun _ => rfl
  | added session owner applied returned =>
      cases applied with
      | false => exact fun id exists' => (accounted id exists').of_get fun _ => rfl
      | true =>
          intro id exists'
          obtain ⟨current, stored, rest⟩ := accounted id exists'
          refine ⟨current, (get_insert_other fun same => ?_).trans stored, rest⟩
          rw [← same, enabled.unusedSession] at stored
          cases stored
  | saved session update updatedAt applied returned =>
      cases applied with
      | false => exact fun id exists' => (accounted id exists').of_get fun _ => rfl
      | true =>
          intro id exists'
          have replaces : world.Replaces
              (world.save (update.result session updatedAt) session.revision) _ :=
            World.save_replaces enabled.1 (Update.result_sessionId session updatedAt update)
          rcases (accounted id exists').saved coherent enabled.1 enabled.2 replaces with
            live | retired | ⟨participant, role, rfl, rfl⟩
          · exact live.of_get fun _ => rfl
          · exact absurd exists' retired.2
          · cases permitted.2 with
            | failed _ _ _ fresh leftover =>
                obtain ⟨creates, refuses⟩ := leftover exists'
                exact absurd refuses (cleansUp _ fresh creates)
  | created session participant runtimeRequest applied returned =>
      cases applied with
      | false => exact fun id exists' => (accounted id exists').of_get fun _ => rfl
      | true =>
          intro id exists'
          rcases World.mem_startRuntime.mp exists' with earlier | rfl
          · exact (accounted id earlier).of_get fun _ => rfl
          · refine ⟨session, enabled.stored, ?_, participant, enabled.member,
              enabled.requested.symm, by rw [Participant.live, enabled.state]; rfl⟩
            rcases enabled.role with ⟨-, state, -⟩ | ⟨-, state, -⟩ <;> rw [state] <;> decide
  | removed participantId applied returned =>
      cases applied with
      | false => exact fun id exists' => (accounted id exists').of_get fun _ => rfl
      | true =>
          intro id exists'
          exact (accounted id (World.mem_discardRuntime.mp exists').1).of_get fun _ => rfl

/-- In runs whose clean-ups work, every runtime belongs to a live participant at
every moment, and so after every sweep. -/
theorem runtimes_accounted (configuration : Configuration) (world : World)
    (reached : ReachableBy configuration (fun world request => request.CleansUp world) world) :
    world.Accounted :=
  reached.keeps World.Accounted (fun _ exists' => by cases exists')
    fun _ _ _ _ cleansUp _ _ coherent permitted enabled accounted =>
      accounted.apply coherent cleansUp permitted enabled

theorem Dependencies.Healthy.cleansUp {dependencies : Dependencies}
    (healthy : dependencies.Healthy) {operation : Operation} :
    (Request.mk operation dependencies).CleansUp world := by
  rintro id - - ⟨index, error, refused⟩
  rw [healthy.noFault] at refused
  cases refused

end Runs

theorem created_lobby_accounted : createdLobby.runtimes = [9] ∧ createdLobby.Accounted :=
  ⟨by decide, runtimes_accounted .default createdLobby
    (.request .empty ⟨lobbyCreation, Dependencies.fakes fun _ => 0⟩
      (Dependencies.fakes_healthy _).cleansUp)⟩

/-- A creation whose stream cannot be provisioned and whose runtime cannot be removed. -/
def orphaningCreation : Request where
  operation := lobbyCreation
  dependencies := { Dependencies.fakes fun _ => 0 with
    fault := fun _ call =>
      match call with
      | .streamProvision _ _ => some ⟨.orchestration "stream provider is unavailable", false⟩
      | .executionRemove _ => some ⟨.orchestration "runtime agent is unavailable", false⟩
      | _ => none }

/-- A sweep with working providers after it. -/
def laterSweep : Outcome Error Reply × World :=
  (Request.mk .sweep (Dependencies.fakes fun _ => 0)).run .default
    (orphaningCreation.after .default World.empty)

/-- The sweep returns, and the runtime is still there: its participant is
stored as `ERROR`, in a session that the sweep closed. -/
theorem sweep_leaves_orphan :
    Reachable .default laterSweep.2 ∧ laterSweep.1 = .returned (.count 1) ∧
      laterSweep.2.runtimes = [9] ∧ ¬ laterSweep.2.Accounted ∧
      laterSweep.2.sessions.map (fun session =>
        (session.state, session.participants.map fun item => (item.participantId, item.state))) =
          [(.closed, [(9, .error)])] := by
  refine ⟨.request (.request .empty orphaningCreation trivial) _ trivial, by decide +kernel,
    by decide +kernel, fun accounted => ?_, by decide +kernel⟩
  obtain ⟨session, stored, notClosed, -⟩ := accounted 9 (by decide +kernel)
  have closed : ∀ session ∈ laterSweep.2.sessions, session.state = .closed := by decide +kernel
  exact notClosed (closed session (InMemorySessionRepository.get_mem stored).1)

end RetroBrowser.SessionManager
