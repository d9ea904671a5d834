import RetroBrowser.RuntimeAgent.Properties.Saves

/-!
Owns what the identifier of a container stands for through a run: no operation
gives it to another container, and the container keeps its name and its labels.
A container disappears only where it is removed or vanishes on its own.
-/

namespace RetroBrowser.RuntimeAgent

open RetroBrowser.Foundation
open RetroBrowser.Foundation.Program
open RetroBrowser.Foundation.Frame

theorem Engine.Same.trans {first second third : Container} (left : Same first second)
    (right : Same second third) : Same first third :=
  ⟨left.containerId.trans right.containerId, left.name.trans right.name,
    left.labels.trans right.labels, left.mounts.trans right.mounts⟩

/-! ## New identifiers -/

/-- A container with an identifier that was issued before was there before, with
the same name and labels. -/
structure Engine.Inherits (before after : Engine) : Prop where
  issued : before.issued ⊆ after.issued
  containers : ∀ container ∈ after.containers, container.containerId ∈ before.issued →
    ∃ earlier ∈ before.containers, Same earlier container

def inheriting : Frame Host where
  Keeps before after := before.engine.Inherits after.engine
  refl host :=
    ⟨List.Subset.refl _, fun container member _ => ⟨container, member, rfl, rfl, rfl, rfl⟩⟩
  trans := by
    intro before between after first second
    refine ⟨fun _ issued => second.issued (first.issued issued),
      fun container member issued => ?_⟩
    have ⟨middle, middleMember, same⟩ :=
      second.containers container member (first.issued issued)
    rw [← same.containerId] at issued
    have ⟨earlier, earlierMember, same'⟩ := first.containers middle middleMember issued
    exact ⟨earlier, earlierMember, same'.trans same⟩

theorem Engine.Within.inherits {before after : Engine} (within : before.Within after) :
    before.Inherits after :=
  ⟨within.issued, fun container member _ => within.containers container member⟩

/-- Every call gives containers new identifiers only. -/
theorem inheriting_invoke {dependencies : Dependencies} (call : Call) :
    inheriting.Holds (dependencies.invoke call) fun _ => True := by
  intro host
  have drifted : ∀ drifts : List Drift, host.engine.Inherits (host.drifted drifts).engine :=
    fun drifts => (Engine.within_drifted host.engine drifts).inherits
  have worked : ∀ drifts : List Drift, host.engine.Inherits
      (call.effect dependencies host.history.length (host.drifted drifts)).engine := by
    intro drifts
    by_cases creates : ∃ name payload, call = .createContainer name payload
    · have ⟨name, payload, equal⟩ := creates
      rw [equal, Call.effect]
      split
      · next fresh =>
        refine ⟨fun _ issued => List.mem_cons_of_mem _ ((drifted drifts).issued issued), ?_⟩
        intro container member issued
        rcases List.mem_append.mp member with before | new
        · exact (drifted drifts).containers container before issued
        · rw [List.mem_singleton.mp new] at issued
          exact absurd ((drifted drifts).issued issued) fresh.1
      · exact drifted drifts
    · have kept : (host.drifted drifts).engine.Within
          (call.effect dependencies host.history.length (host.drifted drifts)).engine :=
        Call.within_effect fun name payload equal => creates ⟨name, payload, equal⟩
      exact ((Engine.within_drifted host.engine drifts).trans kept).inherits
  have happens := invoke_happens dependencies call host
  revert happens
  generalize (dependencies.invoke call host).1 = outcome
  generalize (dependencies.invoke call host).2 = after
  intro happens
  cases happens with
  | stopped => exact ⟨inheriting.refl host, trivial⟩
  | returned drifts => exact ⟨worked drifts, trivial⟩
  | lost drifts => exact ⟨worked drifts, trivial⟩
  | refused drifts => exact ⟨drifted drifts, trivial⟩
  | failed drifts => exact ⟨drifted drifts, trivial⟩

theorem inherits_of_quiet {before after : Host} (moved : Quiet before after) :
    before.engine.Inherits after.engine := by
  have ⟨events, _, engine, _⟩ := moved
  have within := Engine.within_drifted before.engine (driftsOf events)
  rw [← engine] at within
  exact within.inherits

theorem inheriting_quiet {α : Type} {program : AgentProgram α} {onValue : α → Prop}
    (holds : quiet.Holds program onValue) : inheriting.Holds program onValue :=
  holds.imply fun _ _ => inherits_of_quiet

/-- A limited program gives containers new identifiers only. -/
theorem inheriting_limited {α : Type} {dependencies : Dependencies} {allowed : Call → Prop}
    {program : AgentProgram α} (limited : Limited dependencies allowed program) :
    inheriting.Holds program fun _ => True :=
  limited.holds (fun _ _ => inherits_of_quiet) fun call _ => inheriting_invoke call

namespace RuntimeService

variable (self : RuntimeService)

theorem inheriting_createRuntime (request : CreateRuntimeRequest) :
    inheriting.Holds (self.createRuntime request) fun _ => True :=
  holds_createRuntime (fun _ _ => inherits_of_quiet) (fun _ _ => inheriting_invoke _)
    fun _ containerId => inheriting_limited
      (self.limited_launch (List.mem_singleton_self containerId))

end RuntimeService

namespace Agent

/-- Every operation gives containers new identifiers only. -/
theorem run_inherits (agent : Agent) (step : Step) (host : Host) :
    host.engine.Inherits (agent.run step host).2.engine := by
  have each : inheriting.Holds (agent.run step) fun _ => True := by
    have ⟨operation, dependencies⟩ := step
    cases operation with
    | create request =>
        exact holds_map ((agent.service dependencies).inheriting_createRuntime request)
          fun _ _ => trivial
    | inspect participantId =>
        exact holds_map (inheriting_quiet ((agent.service dependencies).quiet_inspectRuntime _))
          fun _ _ => trivial
    | stop participantId =>
        exact holds_map (inheriting_limited ((agent.service dependencies).limited_stopRuntime _))
          fun _ _ => trivial
    | remove participantId =>
        exact holds_map (inheriting_limited ((agent.service dependencies).limited_removeRuntime _))
          fun _ _ => trivial
    | list =>
        exact holds_map (inheriting_quiet (agent.service dependencies).quiet_listManagedRuntimes)
          fun _ _ => trivial
    | reconcile =>
        exact holds_map (inheriting_limited (agent.service dependencies).limited_reconcileRoutes)
          fun _ _ => trivial
    | capacity =>
        exact holds_map (inheriting_quiet (agent.service dependencies).quiet_capacity)
          fun _ _ => trivial
  exact (each host).1

theorem execute_inherits (agent : Agent) (host : Host) (steps : List Step) :
    host.engine.Inherits (agent.execute host steps).engine := by
  refine agent.execute_keeps (inheriting.refl host) fun between step _ inherits => ?_
  exact inheriting.trans inherits (agent.run_inherits step between)

end Agent

/-! ## Containers that stay -/

/-- Containers that do not vanish are still there. -/
theorem Engine.drifted_keeps {engine : Engine} {drifts : List Drift} {container : Container}
    (member : container ∈ engine.containers)
    (stays : .vanishes container.containerId ∉ drifts) :
    ∃ later ∈ (engine.drifted drifts).containers, Same container later := by
  induction drifts generalizing engine container with
  | nil => exact ⟨container, member, rfl, rfl, rfl, rfl⟩
  | cons drift rest inductionHypothesis =>
      have ⟨next, nextMember, same⟩ : ∃ next ∈ (engine.drift drift).containers,
          Same container next := by
        cases drift with
        | drifts containerId state healthStatus =>
            exact ⟨_, List.mem_map_of_mem member, same_change ..⟩
        | vanishes containerId =>
            have other : container.containerId ≠ containerId := fun gone =>
              stays (gone ▸ List.mem_cons_self)
            exact ⟨container, mem_discard.mpr ⟨member, other⟩, rfl, rfl, rfl, rfl⟩
      have stays' : .vanishes next.containerId ∉ rest := fun vanishes =>
        stays (List.mem_cons_of_mem drift (same.containerId ▸ vanishes))
      have ⟨later, laterMember, same'⟩ := inductionHypothesis nextMember stays'
      exact ⟨later, laterMember, same.trans same'⟩

/-- The plan lets the container be: it does not disappear on its own. -/
def Dependencies.Spares (dependencies : Dependencies) (containerId : String) : Prop :=
  ∀ index, .vanishes containerId ∉ dependencies.drifts index

/-- The engine has the container. -/
def Present (containerId : String) (engine : Engine) : Prop :=
  ∃ container ∈ engine.containers, container.containerId = containerId

instance (containerId : String) (engine : Engine) : Decidable (Present containerId engine) :=
  inferInstanceAs
    (Decidable (∃ container ∈ engine.containers, container.containerId = containerId))

/-- The container was there and is there no longer. -/
structure Lost (containerId : String) (engine : Engine) : Prop where
  issued : containerId ∈ engine.issued
  absent : ¬Present containerId engine

/-- It never comes back. -/
theorem Lost.later {containerId : String} {before after : Engine} (lost : Lost containerId before)
    (inherits : before.Inherits after) : Lost containerId after := by
  refine ⟨inherits.issued lost.issued, fun present => ?_⟩
  have ⟨container, member, identity⟩ := present
  have ⟨earlier, earlierMember, same⟩ := inherits.containers container member
    (identity ▸ lost.issued)
  exact lost.absent ⟨earlier, earlierMember, same.containerId.trans identity⟩

theorem absent_of_missing {containerId : String} {engine : Engine}
    (missing : engine.find? (.byId containerId) = none) : ¬Present containerId engine := by
  intro ⟨container, member, identity⟩
  have found := List.find?_eq_none.mp missing container member
  simp [Reference.matches, identity] at found

theorem absent_of_discard (containerId : String) (engine : Engine) :
    ¬Present containerId (engine.discard containerId) := by
  intro ⟨container, member, identity⟩
  exact (Engine.mem_discard.mp member).2 identity

/-- Every call but its removal leaves a container in the engine. -/
theorem Call.present_effect {dependencies : Dependencies} {index : Nat} {host : Host} {call : Call}
    {containerId : String} (removes : call ≠ .removeContainer containerId)
    (present : Present containerId host.engine) :
    Present containerId (call.effect dependencies index host).engine := by
  have ⟨container, member, identity⟩ := present
  by_cases harmless : call.harmless = true
  · rw [(effect_harmless harmless).1]
    exact present
  cases call with
  | createContainer name payload =>
      simp only [effect]
      split
      · exact ⟨container, List.mem_append_left _ member, identity⟩
      · exact present
  | startContainer other | stopContainer other =>
      exact ⟨_, List.mem_map_of_mem member, (Engine.change_containerId ..).trans identity⟩
  | removeContainer other =>
      have differs : container.containerId ≠ other := fun same =>
        removes (by rw [← same, identity])
      exact ⟨container, Engine.mem_discard.mpr ⟨member, differs⟩, identity⟩
  | write | unlink => exact present
  | replace registry participantId =>
      simp only [effect]
      split <;> exact present
  | _ => exact absurd rfl harmless

/-- The container stays. -/
def keeping (containerId : String) : Frame Host where
  Keeps before after := Present containerId before.engine → Present containerId after.engine
  refl _ := id
  trans first second := second ∘ first

/-- A call that does not remove the container keeps it, unless it vanishes on its own. -/
theorem keeping_invoke {dependencies : Dependencies} {containerId : String}
    (spares : dependencies.Spares containerId) {call : Call}
    (removes : call ≠ .removeContainer containerId) :
    (keeping containerId).Holds (dependencies.invoke call) fun _ => True := by
  intro host
  have drifted : Present containerId host.engine →
      Present containerId (host.drifted (dependencies.drifts host.history.length)).engine := by
    intro ⟨container, member, identity⟩
    have ⟨later, laterMember, same⟩ := Engine.drifted_keeps member
      (identity ▸ spares host.history.length)
    exact ⟨later, laterMember, same.containerId.symm.trans identity⟩
  unfold Dependencies.invoke
  dsimp only
  split
  · exact ⟨id, trivial⟩
  · split
    · exact ⟨fun present => Call.present_effect removes (drifted present), trivial⟩
    · exact ⟨drifted, trivial⟩
    · exact ⟨fun present => Call.present_effect removes (drifted present), trivial⟩
    · exact ⟨drifted, trivial⟩

end RetroBrowser.RuntimeAgent
