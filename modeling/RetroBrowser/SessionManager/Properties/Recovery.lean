import RetroBrowser.SessionManager.Services.Working

/-!
Owns recovery after faults. A process that stops, or a repository that fails,
in the middle of a startup leaves an entry in `ALLOCATING` or `STARTING`.
Closing puts every live entry through `LEAVING`, which the participant table
allows only from `ACTIVE`, so such a leftover blocks its session, and through
it the reconciliation and the sweep. Contract: recovery works exactly from the
worlds without such a leftover.
-/

namespace RetroBrowser.SessionManager

open RetroBrowser.Foundation ActionSystem

/-- With these dependencies the reconciliation returns and leaves only closed
sessions, terminal participants and no runtime, and the sweep returns. -/
structure World.Recovers (world : World) (configuration : Configuration)
    (dependencies : Dependencies) : Prop where
  reconciles : ∃ count after,
    (Request.mk .reconcileStartup dependencies).run configuration world =
      (.returned (.count count), after) ∧
    after.runtimes = [] ∧
    ∀ session ∈ after.sessions, session.state = .closed ∧
      ∀ item ∈ session.participants, item.state.terminal = true
  sweeps : ∃ count after,
    (Request.mk .sweep dependencies).run configuration world = (.returned (.count count), after)

/-- No session that is not closed has an entry whose startup was interrupted. -/
def World.Settled (world : World) : Prop :=
  ∀ session ∈ world.sessions, session.state ≠ .closed →
    ∀ item ∈ session.participants, item.state.halfStarted = false

variable {configuration : Configuration} {dependencies : Dependencies} {world : World}

theorem Coherent.settled_iff (coherent : Coherent world) :
    world.Settled ↔ ∀ session ∈ world.sessions, session.Closable := by
  constructor
  · intro settled session member
    by_cases closed : session.state = .closed
    · exact Or.inl closed
    · refine Or.inr fun item itemMember live => ?_
      have finished := settled session member closed item itemMember
      rcases (coherent.sessions session member).shape.classify itemMember with half | active | final
      · rw [half] at finished
        cases finished
      · exact active
      · simp [Participant.live, final] at live
  · intro closable session member notClosed item itemMember
    by_contra half
    have active := (closable session member).resolve_left notClosed item itemMember
    cases state : item.state <;> simp_all [ParticipantState.halfStarted, Participant.live,
      ParticipantState.terminal]

/-- Where every session is closable, recovery works. -/
theorem Coherent.recovers (coherent : Coherent world) (healthy : dependencies.Healthy)
    (closable : ∀ session ∈ world.sessions, session.Closable) :
    world.Recovers configuration dependencies where
  reconciles := by
    let request : Request := ⟨.reconcileStartup, dependencies⟩
    have returns : (request.service configuration).reconcileStartup.Returns world :=
      Request.reconcileStartup_returns healthy rfl coherent closable
    have follows : request.Follows configuration world world
        (request.service configuration).reconcileStartup _ fun _ _ => True :=
      Request.follows_reconcileStartup rfl fun _ _ => trivial
    obtain ⟨count, after, run⟩ := returns
    obtain ⟨reached, noRuntime, closed, -⟩ := follows.returned coherent run
    refine ⟨count, after, Program.bind_returned run, noRuntime, fun session member => ?_⟩
    have shape := (Coherent.sessions reached session member).shape
    exact ⟨closed session member, fun item itemMember =>
      shape.terminal (Or.inl (closed session member)) itemMember⟩
  sweeps := by
    let request : Request := ⟨.sweep, dependencies⟩
    have returns : (request.service configuration).sweep.Returns world :=
      Request.sweep_returns healthy rfl coherent closable
    obtain ⟨count, after, run⟩ := returns
    exact ⟨count, after, Program.bind_returned run⟩

/-- A reconciliation that returns found every session closable. -/
theorem Coherent.closable_of_recovers (coherent : Coherent world)
    (recovers : world.Recovers configuration dependencies) :
    ∀ session ∈ world.sessions, session.Closable := by
  let request : Request := ⟨.reconcileStartup, dependencies⟩
  have follows : request.Follows configuration world world
      (Operation.program (request.service configuration) .reconcileStartup)
      (fun _ _ => ∀ session ∈ world.sessions, session.Closable) fun _ _ => True :=
    follows_map ((Request.follows_reconcileStartup rfl fun _ _ => trivial).weakenValue
      fun _ _ reached => reached.2.2)
  obtain ⟨count, after, run, -⟩ := recovers.reconciles
  exact (follows.returned coherent run).2

/-- Recovery with working dependencies is the same as having no interrupted
startup left. -/
theorem recovers_iff_settled (configuration : Configuration) (world : World)
    (reached : Reachable configuration world) :
    (∀ dependencies : Dependencies, dependencies.Healthy →
      world.Recovers configuration dependencies) ↔ world.Settled := by
  rw [reached.coherent.settled_iff]
  constructor
  · intro recovers
    exact reached.coherent.closable_of_recovers (recovers _ (Dependencies.fakes_healthy fun _ => 0))
  · intro closable dependencies healthy
    exact reached.coherent.recovers healthy closable

theorem created_lobby_recovers :
    createdLobby.Recovers .default (Dependencies.fakes fun _ => 0) :=
  (recovers_iff_settled .default createdLobby createdLobby_reachable).mpr
    (by unfold World.Settled; decide) _ (Dependencies.fakes_healthy _)

/-- A creation whose process stops right after `repository.add`. -/
def crashedCreation : Request where
  operation := lobbyCreation
  dependencies := { Dependencies.fakes fun _ => 0 with stops := fun index => index == 10 }

/-- After it the reconciliation and the sweep raise at the owner's entry, which
is stored as `ALLOCATING`. -/
theorem crashed_creation_blocks_recovery :
    ¬ ∀ (configuration : Configuration) (world : World), Reachable configuration world →
      ∀ dependencies : Dependencies, dependencies.Healthy →
        world.Recovers configuration dependencies := by
  intro recovers
  have reached : Reachable .default (crashedCreation.after .default World.empty) :=
    .request .empty crashedCreation trivial
  have closable := reached.coherent.closable_of_recovers
    (recovers _ _ reached _ (Dependencies.fakes_healthy fun _ => 0))
  have settled := reached.coherent.settled_iff.mpr closable
  exact absurd settled (by unfold World.Settled; decide)

end RetroBrowser.SessionManager
