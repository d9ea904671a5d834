import Mathlib
import RetroBrowser.RuntimeAgent.Quiet

/-!
Owns the limits of the agent's programs: besides quiet programs they make only
calls of a given kind. A limit is stated once for each program, and every fact
that quiet programs and the allowed calls maintain is then maintained by the
program.
-/

namespace RetroBrowser.RuntimeAgent

open RetroBrowser.Foundation
open RetroBrowser.Foundation.Program

/-- Harmless steps keep the fact. -/
def Undisturbed (fact : Host → Prop) : Prop :=
  ∀ before after, Quiet before after → fact before → fact after

/-- Besides quiet steps the program makes only allowed calls. -/
def Limited {α : Type} (dependencies : Dependencies) (allowed : Call → Prop)
    (program : AgentProgram α) : Prop :=
  ∀ fact : Host → Prop, Undisturbed fact →
    (∀ call, allowed call → (dependencies.invoke call).Maintains fact) →
      program.Maintains fact

/-! ## Rules -/

section Rules

variable {α β ι : Type} {dependencies : Dependencies} {allowed allowed' : Call → Prop}

theorem limited_pure (value : α) : Limited dependencies allowed (pure value : AgentProgram α) :=
  fun _ _ _ => maintains_pure value

theorem limited_throw (error : Error) :
    Limited dependencies allowed (throw error : AgentProgram α) :=
  fun _ _ _ => maintains_throw error

theorem limited_invoke {call : Call} (inside : allowed call) :
    Limited dependencies allowed (dependencies.invoke call) :=
  fun _ _ each => each call inside

theorem limited_quiet {program : AgentProgram α} {onValue : α → Prop}
    (holds : quiet.Holds program onValue) : Limited dependencies allowed program :=
  fun _ undisturbed _ => holds.maintains undisturbed

theorem limited_bind {program : AgentProgram β} {next : β → AgentProgram α}
    (first : Limited dependencies allowed program)
    (rest : ∀ value, Limited dependencies allowed (next value)) :
    Limited dependencies allowed (program >>= next) := fun fact undisturbed each =>
  maintains_bind (first fact undisturbed each) fun value => rest value fact undisturbed each

theorem limited_ite {condition : Prop} [Decidable condition] {yes no : AgentProgram α}
    (holds : condition → Limited dependencies allowed yes)
    (fails : ¬condition → Limited dependencies allowed no) :
    Limited dependencies allowed (if condition then yes else no) := fun fact undisturbed each =>
  maintains_ite (fun yes => holds yes fact undisturbed each) fun no =>
    fails no fact undisturbed each

theorem limited_runIf {condition : Prop} [Decidable condition] {program : AgentProgram PUnit}
    (holds : condition → Limited dependencies allowed program) :
    Limited dependencies allowed (runIf condition program) :=
  limited_ite holds fun _ => limited_pure _

theorem limited_tryCatch {program : AgentProgram α} {handler : Error → AgentProgram α}
    (body : Limited dependencies allowed program)
    (handled : ∀ error, Limited dependencies allowed (handler error)) :
    Limited dependencies allowed (tryCatch program handler) := fun fact undisturbed each =>
  maintains_tryCatch (body fact undisturbed each) fun error => handled error fact undisturbed each

theorem limited_forM {items : List ι} {body : ι → AgentProgram PUnit}
    (round : ∀ item ∈ items, Limited dependencies allowed (body item)) :
    Limited dependencies allowed (items.forM body) := fun fact undisturbed each =>
  maintains_forM fun item member => round item member fact undisturbed each

/-- A handler that ignores some errors and raises the others again makes no call. -/
theorem limited_ignore {program : AgentProgram PUnit} {ignored : Error → Bool}
    (body : Limited dependencies allowed program) :
    Limited dependencies allowed (tryCatch program fun error =>
      if ignored error then pure ⟨⟩ else throw error) :=
  limited_tryCatch body fun error =>
    limited_ite (fun _ => limited_pure _) fun _ => limited_throw error

theorem Limited.mono {program : AgentProgram α} (limited : Limited dependencies allowed program)
    (covers : ∀ call, allowed call → allowed' call) : Limited dependencies allowed' program :=
  fun fact undisturbed each => limited fact undisturbed fun call inside =>
    each call (covers call inside)

/-- A frame that quiet steps and the allowed calls keep is kept by the program. -/
theorem Limited.holds {program : AgentProgram α} {frame : Frame Host}
    (limited : Limited dependencies allowed program)
    (quietly : ∀ before after, Quiet before after → frame.Keeps before after)
    (each : ∀ call, allowed call → frame.Holds (dependencies.invoke call) fun _ => True) :
    frame.Holds program fun _ => True := by
  intro host
  have undisturbed : Undisturbed fun after => frame.Keeps host after :=
    fun before after moved keeps => frame.trans keeps (quietly before after moved)
  have kept := limited _ undisturbed fun call inside before keeps =>
    ((each call inside).ensures before).mono (fun _ _ both => frame.trans keeps both.1)
      (fun _ _ keeps' => frame.trans keeps keeps') fun _ keeps' => frame.trans keeps keeps'
  refine ⟨(kept host (frame.refl host)).after, ?_⟩
  rcases program host with ⟨outcome, after⟩
  cases outcome <;> trivial

end Rules

/-! ## Programs about one participant -/

/-- The call is about the `known` containers, or about the participant's files. -/
def Call.Tends (participantId : UUID) (known : List String) : Call → Prop
  | .startContainer containerId | .stopContainer containerId | .removeContainer containerId =>
    containerId ∈ known
  | .write _ owner _ | .replace _ owner | .unlink _ owner => owner = participantId
  | _ => False

namespace RuntimeService

variable (self : RuntimeService) {participantId : UUID} {known : List String}

theorem limited_publish (registry : Registry) (document : Document) :
    Limited self.dependencies (Call.Tends participantId known)
      (self.publish registry participantId document) :=
  limited_bind (limited_invoke rfl) fun _ => limited_invoke rfl

theorem limited_metricsPublish (sessionId : UUID) (coreProfile name token : String) :
    Limited self.dependencies (Call.Tends participantId known)
      (self.metricsPublish participantId sessionId coreProfile name token) :=
  limited_ite (fun _ => limited_pure _) fun _ => self.limited_publish _ _

theorem limited_metricsRemove :
    Limited self.dependencies (Call.Tends participantId known) (self.metricsRemove participantId) :=
  limited_ite (fun _ => limited_pure _) fun _ => limited_invoke rfl

theorem limited_unpublish :
    Limited self.dependencies (Call.Tends participantId known) (self.unpublish participantId) :=
  limited_bind (limited_invoke rfl) fun _ => self.limited_metricsRemove

theorem limited_cleanUp {containerId : String} (announced : containerId ∈ known) :
    Limited self.dependencies (Call.Tends participantId known)
      (self.cleanUp participantId containerId) := by
  refine limited_bind self.limited_metricsRemove fun _ => ?_
  refine limited_bind (limited_ignore (limited_invoke rfl)) fun _ => ?_
  refine limited_bind (limited_ignore (limited_invoke announced)) fun _ => ?_
  exact limited_ignore (limited_invoke announced)

theorem limited_launch {request : CreateRuntimeRequest} {name containerId : String}
    (announced : containerId ∈ known) :
    Limited self.dependencies (Call.Tends request.participantId known)
      (self.launch request name containerId) := by
  refine limited_bind (limited_tryCatch ?_ fun error => ?_) fun _ => ?_
  · refine limited_bind (limited_invoke announced) fun _ => ?_
    exact limited_bind (self.limited_publish _ _) fun _ => self.limited_metricsPublish _ _ _ _
  · exact limited_bind (self.limited_cleanUp announced) fun _ => limited_throw error
  · refine limited_bind (limited_quiet (self.quiet_inspectContainer _)) fun container => ?_
    exact limited_quiet (self.quiet_runtimeRecord container _)

/-- What `stop_runtime` does after its checks. -/
theorem limited_stopOwned {container : ContainerRecord}
    (announced : container.containerId ∈ known) :
    Limited self.dependencies (Call.Tends participantId known) (do
      self.stopContainer container.containerId
      let stopped ← self.inspectContainer (.byId container.containerId)
      self.runtimeRecord stopped participantId) := by
  refine limited_bind (limited_invoke announced) fun _ => ?_
  refine limited_bind (limited_quiet (self.quiet_inspectContainer _)) fun stopped => ?_
  exact limited_quiet (self.quiet_runtimeRecord stopped participantId)

/-- What `_remove_runtime` does after its checks. -/
theorem limited_removeOwned {container : ContainerRecord}
    (announced : container.containerId ∈ known) :
    Limited self.dependencies (Call.Tends participantId known) (do
      Program.runIf (container.state = .running) (self.stopContainer container.containerId)
      self.removeContainer container.containerId
      self.unpublish participantId) := by
  refine limited_bind (limited_runIf fun _ => limited_invoke announced) fun _ => ?_
  exact limited_bind (limited_invoke announced) fun _ => self.limited_unpublish

theorem limited_stopRuntime (participantId : UUID) :
    Limited self.dependencies (fun call => ∃ known, call.Tends participantId known)
      (self.stopRuntime participantId) := by
  refine limited_bind (limited_quiet (self.quiet_inspectContainer _)) fun container => ?_
  refine limited_bind (limited_quiet (quiet_requireOwned container participantId)) fun _ => ?_
  exact (self.limited_stopOwned (List.mem_singleton_self _)).mono fun _ tends => ⟨_, tends⟩

theorem limited_removeRuntime (participantId : UUID) :
    Limited self.dependencies (fun call => ∃ known, call.Tends participantId known)
      (self.removeRuntime participantId) := by
  refine limited_bind (limited_tryCatch (limited_quiet (self.quiet_inspectContainer _))
    fun error => ?_) fun container => ?_
  · have unpublishes : Limited self.dependencies (Call.Tends participantId [])
        (self.unpublish participantId) := self.limited_unpublish
    refine limited_bind (limited_runIf fun _ => ?_) fun _ => limited_throw error
    exact unpublishes.mono fun _ tends => ⟨_, tends⟩
  · refine limited_bind (limited_quiet (quiet_requireOwned container participantId)) fun _ => ?_
    exact (self.limited_removeOwned (List.mem_singleton_self _)).mono fun _ tends => ⟨_, tends⟩

/-- A reconciliation only removes files. -/
theorem limited_reconcileRoutes :
    Limited self.dependencies (fun call => ∃ registry owner, call = .unlink registry owner)
      self.reconcileRoutes := by
  refine limited_bind (limited_quiet self.quiet_listManagedRuntimes) fun records => ?_
  refine limited_bind (limited_quiet (self.quiet_listParticipants .routes)) fun routed => ?_
  refine limited_bind (limited_forM fun owner _ => limited_invoke ⟨.routes, owner, rfl⟩)
    fun _ => ?_
  refine limited_bind (limited_quiet self.quiet_metricsListParticipants) fun targeted => ?_
  refine limited_bind (limited_forM fun owner _ => ?_) fun _ => limited_pure _
  exact limited_ite (fun _ => limited_pure _) fun _ => limited_invoke ⟨.targets, owner, rfl⟩

end RuntimeService

end RetroBrowser.RuntimeAgent
