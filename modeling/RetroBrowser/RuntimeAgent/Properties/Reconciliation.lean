import Mathlib.Data.List.Dedup
import RetroBrowser.RuntimeAgent.Properties.Listing

/-!
Owns what a reconciliation leaves of the routes and the metrics targets: the
identifiers that file names stand for, the files that runs leave in the two
directories, and the removals.

Contract: a temporary file that a stopped agent left behind is no participant's
file, so it neither hides nor names an orphan.
-/

namespace RetroBrowser.RuntimeAgent

open RetroBrowser.Foundation
open RetroBrowser.Foundation.Program
open RetroBrowser.Foundation.Frame

/-! ## File names -/

namespace Registry

variable (registry : Registry) (participantId : UUID)

/-- A published file is found, and its stem is the participant's identifier. -/
theorem globbed_fileName :
    registry.globbed (registry.fileName participantId) = some (UUID.str participantId) := by
  have parts : (registry.fileName participantId).toList =
      "runtime-".toList ++ ((UUID.str participantId).toList ++ registry.suffix.toList) := by
    rw [fileName, String.toList_append, String.toList_append, List.append_assoc]
  have rest : (registry.fileName participantId).toList.drop "runtime-".toList.length =
      (UUID.str participantId).toList ++ registry.suffix.toList := by
    rw [parts, List.drop_left]
  unfold globbed
  simp only [rest]
  rw [if_pos]
  · rw [List.length_append, Nat.add_sub_cancel, List.take_left, String.ofList_toList]
  · exact ⟨List.isPrefixOf_iff_prefix.mpr (parts ▸ List.prefix_append _ _),
      List.isSuffixOf_iff_suffix.mpr (List.suffix_append _ _)⟩

/-- A temporary file is not found. -/
theorem globbed_temporaryName : registry.globbed (temporaryName participantId) = none := by
  have parts : (temporaryName participantId).toList =
      "runtime-".toList ++ ((UUID.str participantId).toList ++ ".tmp".toList) := by
    rw [temporaryName, String.toList_append, String.toList_append, List.append_assoc]
  have rest : (temporaryName participantId).toList.drop "runtime-".toList.length =
      (UUID.str participantId).toList ++ ".tmp".toList := by
    rw [parts, List.drop_left]
  unfold globbed
  simp only [rest]
  refine if_neg fun both => ?_
  obtain ⟨start, same⟩ := List.isSuffixOf_iff_suffix.mp both.2
  have last := congrArg List.getLast? same
  cases registry <;> simp [suffix] at last

end Registry

/-! ## The files of a run -/

/-- Every file of a registry has the name that `publish` gives it, or the temporary one. -/
def Tidy (host : Host) : Prop :=
  ∀ registry name, (host.files registry).lookup name ≠ none →
    ∃ participantId, name = registry.fileName participantId ∨
      name = Registry.temporaryName participantId

theorem Operation.mayWrite_named {operation : Operation} {after : Host} {registry : Registry}
    {name : String} (writes : operation.mayWrite after registry name) :
    ∃ participantId, name = registry.fileName participantId ∨
      name = Registry.temporaryName participantId := by
  cases operation with
  | create request => exact ⟨request.participantId, writes⟩
  | stop participantId | remove participantId => exact ⟨participantId, writes⟩
  | reconcile =>
      have ⟨participantId, named, _⟩ := writes
      exact ⟨participantId, Or.inl named⟩
  | inspect participantId | list | capacity => exact writes.elim

/-- Each operation keeps the files tidy, wherever it stops. -/
theorem Agent.run_tidy (agent : Agent) (step : Step) {host : Host} (tidy : Tidy host) :
    Tidy (agent.run step host).2 := by
  intro registry name there
  by_cases writes : step.operation.mayWrite (agent.run step host).2 registry name
  · exact Operation.mayWrite_named writes
  · rw [(agent.run_touchesOwn step host).files registry name writes] at there
    exact tidy registry name there

theorem Agent.execute_tidy (agent : Agent) {start : Host} (tidy : Tidy start) (steps : List Step) :
    Tidy (agent.execute start steps) :=
  agent.execute_keeps tidy fun _ step _ held => agent.run_tidy step held

/-- The participants that the files of a tidy registry stand for are those with a
published file. -/
theorem Tidy.mem_participants {host : Host} (tidy : Tidy host) (registry : Registry)
    (participantId : UUID) :
    participantId ∈ (((host.files registry).keys.filterMap registry.globbed).filterMap
      UUID.parse).dedup ↔ host.published registry participantId ≠ none := by
  have present : ∀ name, name ∈ (host.files registry).keys ↔
      (host.files registry).lookup name ≠ none := by
    intro name
    rw [← AList.mem_keys, ← AList.lookup_isSome, Option.isSome_iff_ne_none]
  rw [List.mem_dedup, List.mem_filterMap]
  constructor
  · intro ⟨stem, found, parsed⟩
    have ⟨name, member, globbed⟩ := List.mem_filterMap.mp found
    have there := (present name).mp member
    have ⟨owner, named⟩ := tidy registry name there
    cases named with
    | inl published =>
        rw [published, registry.globbed_fileName] at globbed
        rw [← Option.some.inj globbed, UUID.parse_str] at parsed
        rw [← Option.some.inj parsed]
        rw [published] at there
        exact there
    | inr temporary =>
        rw [temporary, registry.globbed_temporaryName] at globbed
        simp at globbed
  · intro there
    refine ⟨UUID.str participantId, List.mem_filterMap.mpr ⟨registry.fileName participantId,
      (present _).mpr there, registry.globbed_fileName participantId⟩,
      UUID.parse_str participantId⟩

/-! ## Without a directory of targets -/

/-- The targets stay as they are. -/
def untargeting : Frame Host where
  Keeps before after := after.files .targets = before.files .targets
  refl _ := rfl
  trans first second := second.trans first

/-- The call writes or removes a target. -/
def Call.aims : Call → Prop
  | .write registry _ _ | .replace registry _ | .unlink registry _ => registry = .targets
  | _ => False

theorem untargeting_of_quiet (before after : Host) (moved : Quiet before after) :
    untargeting.Keeps before after := by
  have ⟨_, _, _, files, _⟩ := moved
  exact congrFun files .targets

theorem untargeting_quiet {α : Type} {program : AgentProgram α} {onValue : α → Prop}
    (holds : quiet.Holds program onValue) : untargeting.Holds program onValue :=
  holds.imply untargeting_of_quiet

theorem Call.effect_untargeted {dependencies : Dependencies} {index : Nat} {host : Host}
    {call : Call} (elsewhere : ¬call.aims) :
    (call.effect dependencies index host).files .targets = host.files .targets := by
  cases call with
  | write registry | unlink registry =>
      exact Host.withFiles_files_other _ _ _ (Ne.symm elsewhere)
  | replace registry =>
      simp only [effect]
      split
      · rfl
      · exact Host.withFiles_files_other _ _ _ (Ne.symm elsewhere)
  | createContainer =>
      simp only [effect]
      split <;> rfl
  | replaceText =>
      simp only [effect]
      split <;> rfl
  | _ => rfl

theorem untargeting_invoke {dependencies : Dependencies} {call : Call} (elsewhere : ¬call.aims) :
    untargeting.Holds (dependencies.invoke call) fun _ => True := by
  intro host
  have happens := invoke_happens dependencies call host
  revert happens
  generalize (dependencies.invoke call host).1 = outcome
  generalize (dependencies.invoke call host).2 = after
  intro happens
  have worked : ∀ drifts : List Drift, (call.effect dependencies host.history.length
      (host.drifted drifts)).files .targets = host.files .targets :=
    fun _ => Call.effect_untargeted elsewhere
  cases happens with
  | stopped => exact ⟨rfl, trivial⟩
  | returned drifts => exact ⟨worked drifts, trivial⟩
  | lost drifts => exact ⟨worked drifts, trivial⟩
  | refused => exact ⟨rfl, trivial⟩
  | failed => exact ⟨rfl, trivial⟩

/-- A program that only makes calls elsewhere, or that holds it in its handlers. -/
theorem untargeting_ignore {program : AgentProgram Unit} {ignored : Error → Bool}
    (body : untargeting.Holds program fun _ => True) :
    untargeting.Holds (tryCatch program fun error =>
      if ignored error then pure () else throw error) fun _ => True :=
  holds_tryCatch body fun error =>
    holds_ite (fun _ => holds_pure trivial) fun _ => holds_throw error

namespace RuntimeService

variable {self : RuntimeService} (none : self.config.metricsTargetRoot.isNone = true)

theorem untargeting_stopRuntime (participantId : UUID) :
    untargeting.Holds (self.stopRuntime participantId) fun _ => True := by
  refine holds_bind (untargeting_quiet (self.quiet_inspectContainer _)) fun container _ => ?_
  refine holds_bind (untargeting_quiet (quiet_requireOwned container participantId)) fun _ _ => ?_
  refine holds_bind (untargeting_invoke (by simp [Call.aims])) fun _ _ => ?_
  refine holds_bind (untargeting_quiet (self.quiet_inspectContainer _)) fun stopped _ => ?_
  exact (untargeting_quiet (self.quiet_runtimeRecord stopped participantId)).weaken
    fun _ _ => trivial

include none

theorem untargeting_metricsRemove (participantId : UUID) :
    untargeting.Holds (self.metricsRemove participantId) fun _ => True := by
  rw [metricsRemove, if_pos none]
  exact holds_pure trivial

theorem untargeting_unpublish (participantId : UUID) :
    untargeting.Holds (self.unpublish participantId) fun _ => True :=
  holds_bind (untargeting_invoke (by simp [Call.aims])) fun _ _ =>
    untargeting_metricsRemove none participantId

theorem untargeting_startAndPublish (request : CreateRuntimeRequest) (name containerId : String) :
    untargeting.Holds (self.startAndPublish request name containerId) fun _ => True := by
  refine holds_bind (untargeting_invoke (by simp [Call.aims])) fun _ _ => ?_
  refine holds_bind (holds_bind (untargeting_invoke (by simp [Call.aims])) fun _ _ =>
    untargeting_invoke (by simp [Call.aims])) fun _ _ => ?_
  rw [metricsPublish, if_pos none]
  exact holds_pure trivial

theorem untargeting_cleanUp (participantId : UUID) (containerId : String) :
    untargeting.Holds (self.cleanUp participantId containerId) fun _ => True := by
  refine holds_bind (untargeting_metricsRemove none participantId) fun _ _ => ?_
  refine holds_bind (untargeting_ignore (untargeting_invoke (by simp [Call.aims]))) fun _ _ => ?_
  refine holds_bind (untargeting_ignore (untargeting_invoke (by simp [Call.aims]))) fun _ _ => ?_
  exact untargeting_ignore (untargeting_invoke (by simp [Call.aims]))

theorem untargeting_launch (request : CreateRuntimeRequest) (name containerId : String) :
    untargeting.Holds (self.launch request name containerId) fun _ => True := by
  refine holds_bind (holds_tryCatch (untargeting_startAndPublish none request name containerId)
    fun error => ?_) fun _ _ => ?_
  · exact holds_bind (untargeting_cleanUp none _ containerId) fun _ _ => holds_throw error
  · refine holds_bind (untargeting_quiet (self.quiet_inspectContainer _)) fun container _ => ?_
    exact (untargeting_quiet (self.quiet_runtimeRecord container _)).weaken fun _ _ => trivial

theorem untargeting_createRuntime (request : CreateRuntimeRequest) :
    untargeting.Holds (self.createRuntime request) fun _ => True :=
  holds_createRuntime untargeting_of_quiet (fun _ _ => untargeting_invoke (by simp [Call.aims]))
    fun name containerId => untargeting_launch none request name containerId

theorem untargeting_removeRuntime (participantId : UUID) :
    untargeting.Holds (self.removeRuntime participantId) fun _ => True := by
  refine holds_bind (holds_tryCatch (untargeting_quiet (self.quiet_inspectContainer _))
    fun error => ?_) fun container _ => ?_
  · exact holds_bind (holds_runIf fun _ => untargeting_unpublish none participantId)
      fun _ _ => holds_throw error
  · refine holds_bind (untargeting_quiet (quiet_requireOwned container participantId))
      fun _ _ => ?_
    refine holds_bind (holds_runIf fun _ => untargeting_invoke (by simp [Call.aims])) fun _ _ => ?_
    refine holds_bind (untargeting_invoke (by simp [Call.aims])) fun _ _ => ?_
    exact untargeting_unpublish none participantId

theorem untargeting_reconcileRoutes : untargeting.Holds self.reconcileRoutes fun _ => True := by
  refine holds_bind (untargeting_quiet self.quiet_listManagedRuntimes) fun records _ => ?_
  refine holds_bind (untargeting_quiet (self.quiet_listParticipants .routes)) fun routed _ => ?_
  refine holds_bind (holds_forM fun owner _ => untargeting_invoke (by simp [Call.aims]))
    fun _ _ => ?_
  refine holds_bind (untargeting_quiet self.quiet_metricsListParticipants) fun targeted _ => ?_
  exact holds_bind (holds_forM fun owner _ => untargeting_metricsRemove none owner)
    fun _ _ => holds_pure trivial

end RuntimeService

/-- Without a directory of targets no operation writes one. -/
theorem Agent.run_untargeted (agent : Agent) (none : agent.config.metricsTargetRoot.isNone = true)
    (step : Step) (host : Host) :
    (agent.run step host).2.files .targets = host.files .targets := by
  have each : untargeting.Holds (agent.run step) fun _ => True := by
    have ⟨operation, dependencies⟩ := step
    let service := agent.service dependencies
    have without : service.config.metricsTargetRoot.isNone = true := none
    cases operation with
    | create request =>
        exact holds_map (RuntimeService.untargeting_createRuntime without request)
          fun _ _ => trivial
    | inspect participantId =>
        exact holds_map (untargeting_quiet (service.quiet_inspectRuntime _)) fun _ _ => trivial
    | stop participantId =>
        exact holds_map (service.untargeting_stopRuntime participantId) fun _ _ => trivial
    | remove participantId =>
        exact holds_map (RuntimeService.untargeting_removeRuntime without participantId)
          fun _ _ => trivial
    | list =>
        exact holds_map (untargeting_quiet service.quiet_listManagedRuntimes) fun _ _ => trivial
    | reconcile =>
        exact holds_map (RuntimeService.untargeting_reconcileRoutes without) fun _ _ => trivial
    | capacity => exact holds_map (untargeting_quiet service.quiet_capacity) fun _ _ => trivial
  exact (each host).1

theorem Agent.execute_untargeted (agent : Agent)
    (none : agent.config.metricsTargetRoot.isNone = true) {start : Host} (steps : List Step) :
    (agent.execute start steps).files .targets = start.files .targets := by
  have start' : (fun host : Host => host.files .targets = start.files .targets) start := rfl
  exact agent.execute_keeps start' fun host step _ same =>
    (agent.run_untargeted none step host).trans same

/-! ## Removals -/

/-- What a program leaves where it returns. -/
def returning {α : Type} (fact : α → Host → Prop) : Post Host Error α :=
  ⟨fact, fun _ _ => True, fun _ => True⟩

/-- What a call leaves where it returns, after what containers did on their own. -/
theorem ensures_returning {dependencies : Dependencies} {call : Call} {host : Host}
    {fact : call.Answer → Host → Prop}
    (answered : ∀ value, call.answer dependencies host.history.length
        (host.drifted (dependencies.drifts host.history.length)) = .ok value →
      fact value ((call.effect dependencies host.history.length
        (host.drifted (dependencies.drifts host.history.length))).record
          ⟨call, dependencies.drifts host.history.length, true, some value⟩)) :
    (dependencies.invoke call).Ensures (returning fact) host := by
  unfold Program.Ensures Dependencies.invoke
  dsimp only
  split
  · trivial
  · split
    · next value answers _ => exact answered value answers
    · trivial
    · trivial
    · trivial

/-- From `before` to `after` just the files of the unwanted participants went away. -/
structure Erased (registry : Registry) (unwanted : UUID → Prop) (before after : Host) : Prop where
  erased : ∀ participantId, unwanted participantId →
    after.published registry participantId = none
  kept : ∀ name, (∀ participantId, unwanted participantId →
    name ≠ registry.fileName participantId) →
    (after.files registry).lookup name = (before.files registry).lookup name
  others : ∀ other, other ≠ registry → after.files other = before.files other

namespace Erased

variable {registry : Registry} {before between after : Host}

theorem nothing {unwanted : UUID → Prop} (none : ∀ participantId, ¬unwanted participantId)
    (files : after.files = before.files) : Erased registry unwanted before after where
  erased participantId wanted := absurd wanted (none participantId)
  kept name _ := by rw [files]
  others other _ := by rw [files]

theorem tidy {unwanted : UUID → Prop} (erased : Erased registry unwanted before after)
    (tidy : Tidy before) : Tidy after := by
  intro other name there
  by_cases same : other = registry
  · subst same
    by_cases wanted : ∀ participantId, unwanted participantId →
      name ≠ other.fileName participantId
    · rw [erased.kept name wanted] at there
      exact tidy other name there
    · have ⟨participantId, named⟩ := not_forall.mp wanted
      exact ⟨participantId, Or.inl (not_not.mp (Classical.not_imp.mp named).2)⟩
  · rw [erased.others other same] at there
    exact tidy other name there

end Erased

namespace RuntimeService

variable {self : RuntimeService} {host : Host}

theorem ensures_unlinked (registry : Registry) (participantId : UUID) :
    (self.dependencies.invoke (.unlink registry participantId)).Ensures
      (returning fun _ after => Erased registry (· = participantId) host after) host := by
  refine ensures_returning fun _ _ => ?_
  constructor
  · intro other same
    subst same
    show Host.published _ registry other = none
    unfold Host.published
    rw [Host.record_files, Call.effect, Host.withFiles_files_self, AList.lookup_erase]
  · intro name differs
    rw [Host.record_files, Call.effect, Host.withFiles_files_self]
    exact AList.lookup_erase_ne (differs participantId rfl)
  · intro other differs
    exact Host.withFiles_files_other _ _ _ differs

/-- Removals one after the other. -/
theorem ensures_removals (registry : Registry) {remove : UUID → AgentProgram Unit}
    (removes : ∀ participantId host, (remove participantId).Ensures
      (returning fun _ after => Erased registry (· = participantId) host after) host)
    (unwanted : List UUID) :
    (unwanted.forM remove).Ensures
      (returning fun _ after => Erased registry (· ∈ unwanted) host after) host := by
  induction unwanted generalizing host with
  | nil => exact Erased.nothing (fun _ => List.not_mem_nil) rfl
  | cons participantId rest inductionHypothesis =>
      refine ensures_bind.mpr ((removes participantId host).mono (fun _ between first => ?_)
        (fun _ _ => id) fun _ => id)
      refine inductionHypothesis.mono (fun _ after others => ?_) (fun _ _ => id) fun _ => id
      constructor
      · intro other member
        by_cases later : other ∈ rest
        · exact others.erased other later
        · have same : other = participantId := (List.mem_cons.mp member).resolve_right later
          have kept := others.kept (registry.fileName other) fun third inside equal =>
            later (registry.fileName_injective equal ▸ inside)
          rw [Host.published, kept]
          exact first.erased other same
      · intro name differs
        rw [others.kept name fun other member => differs other (List.mem_cons_of_mem _ member)]
        exact first.kept name fun other same => differs other (same ▸ List.mem_cons_self)
      · intro other differs
        rw [others.others other differs, first.others other differs]

/-! ## The reconciliation -/

theorem ensures_listParticipants (registry : Registry) (tidy : Tidy host) :
    (self.listParticipants registry).Ensures
      (returning fun participants after => after.files = host.files ∧ participants.Nodup ∧
        ∀ participantId, participantId ∈ participants ↔
          host.published registry participantId ≠ none) host := by
  refine ensures_bind.mpr (ensures_returning fun names answers => ?_)
  have listed : names = (host.files registry).keys.filterMap registry.globbed :=
    (Except.ok.inj answers).symm
  rw [listed]
  exact ⟨rfl, List.nodup_dedup _, tidy.mem_participants registry⟩

theorem ensures_routesRemove (participantId : UUID) (host : Host) :
    (self.routesRemove participantId).Ensures
      (returning fun _ after => Erased .routes (· = participantId) host after) host :=
  ensures_unlinked .routes participantId

/-- What a reconciliation that returns has left of one registry. -/
structure Reconciled (registry : Registry) (managed : List UUID) (orphans : List UUID)
    (before after : Host) : Prop where
  orphaned : ∀ participantId, participantId ∈ orphans ↔
    before.published registry participantId ≠ none ∧ participantId ∉ managed
  distinct : orphans.Nodup
  erased : Erased registry (· ∈ orphans) before after

theorem Reconciled.from_files {registry : Registry} {managed orphans : List UUID}
    {before first after : Host} (reconciled : Reconciled registry managed orphans first after)
    (files : first.files = before.files) : Reconciled registry managed orphans before after where
  orphaned participantId := by
    rw [reconciled.orphaned, Host.published, Host.published, files]
  distinct := reconciled.distinct
  erased :=
    { erased := reconciled.erased.erased
      kept := files ▸ reconciled.erased.kept
      others := files ▸ reconciled.erased.others }

/-- One half of a reconciliation: the participants of a registry are listed, and the
files of those without a container are removed. -/
theorem ensures_reconciled {α : Type} (registry : Registry) (managed : List UUID)
    (remove : UUID → AgentProgram Unit) (next : List UUID → AgentProgram α)
    {fact : α → Host → Prop} (tidy : Tidy host)
    (removes : ∀ participantId host, (remove participantId).Ensures
      (returning fun _ after => Erased registry (· = participantId) host after) host)
    (rest : ∀ orphans after, Reconciled registry managed orphans host after →
      (next orphans).Ensures (returning fact) after) :
    (do
      let listed ← self.listParticipants registry
      let orphaned := listed.filter fun participantId => participantId ∉ managed
      orphaned.forM remove
      next orphaned).Ensures (returning fact) host := by
  refine ensures_bind.mpr ((ensures_listParticipants registry tidy).mono
    (fun listed between facts => ?_) (fun _ _ => id) fun _ => id)
  have ⟨files, distinct, published⟩ := facts
  refine ensures_bind.mpr ((ensures_removals registry removes _).mono
    (fun _ after erased => ?_) (fun _ _ => id) fun _ => id)
  refine rest _ after ⟨fun participantId => ?_, distinct.filter _, ?_, ?_, ?_⟩
  · rw [List.mem_filter, published]
    simp
  · exact erased.erased
  · intro name differs
    rw [erased.kept name differs, files]
  · intro other differs
    rw [erased.others other differs, files]

theorem ensures_metricsRemove_erased (some : ¬self.config.metricsTargetRoot.isNone = true)
    (participantId : UUID) (host : Host) :
    (self.metricsRemove participantId).Ensures
      (returning fun _ after => Erased .targets (· = participantId) host after) host := by
  rw [metricsRemove, if_neg some]
  exact ensures_unlinked .targets participantId

/-- The half about the targets; without a directory there are none. -/
theorem ensures_reconciledTargets {α : Type} (managed : List UUID)
    (next : List UUID → AgentProgram α) {fact : α → Host → Prop} (tidy : Tidy host)
    (untargeted : self.config.metricsTargetRoot.isNone = true → host.files .targets = ∅)
    (rest : ∀ orphans after, Reconciled .targets managed orphans host after →
      (next orphans).Ensures (returning fact) after) :
    (do
      let listed ← self.metricsListParticipants
      let orphaned := listed.filter fun participantId => participantId ∉ managed
      orphaned.forM self.metricsRemove
      next orphaned).Ensures (returning fact) host := by
  by_cases none : self.config.metricsTargetRoot.isNone = true
  · rw [metricsListParticipants, if_pos none]
    refine rest [] host ⟨fun participantId => ?_, List.nodup_nil,
      Erased.nothing (fun _ => List.not_mem_nil) rfl⟩
    simp [Host.published, untargeted none]
  · rw [metricsListParticipants, if_neg none]
    exact ensures_reconciled .targets managed self.metricsRemove next tidy
      (ensures_metricsRemove_erased none) rest

/-- What a reconciliation that returns has left. -/
theorem ensures_reconcileRoutes_exact (tidy : Tidy host)
    (untargeted : self.config.metricsTargetRoot.isNone = true → host.files .targets = ∅)
    {managed : List UUID}
    (listing : self.listManagedRuntimes.Ensures (returning fun records after =>
      (records.map fun record => record.participantId) = managed ∧
        after.files = host.files) host) :
    self.reconcileRoutes.Ensures (returning fun count after =>
      ∃ orphans orphanedTargets between, Reconciled .routes managed orphans host between ∧
        Reconciled .targets managed orphanedTargets between after ∧
        count = (orphans ∪ orphanedTargets).length) host := by
  refine ensures_bind.mpr (listing.mono (fun records first facts => ?_) (fun _ _ => id) fun _ => id)
  have ⟨owners, files⟩ := facts
  subst owners
  have tidyFirst : Tidy first := by
    unfold Tidy
    rw [files]
    exact tidy
  let managed := records.map fun record => record.participantId
  let targetHalf (orphaned : List UUID) : AgentProgram Nat := do
    let targeted ← self.metricsListParticipants
    let orphanedTargets := targeted.filter fun participantId => participantId ∉ managed
    orphanedTargets.forM self.metricsRemove
    pure (orphaned ∪ orphanedTargets).length
  refine ensures_reconciled .routes managed self.routesRemove targetHalf tidyFirst
    ensures_routesRemove fun orphans between routes => ?_
  have untargeted' : self.config.metricsTargetRoot.isNone = true →
      between.files .targets = ∅ := by
    intro none
    rw [routes.erased.others .targets (by simp), files]
    exact untargeted none
  refine ensures_reconciledTargets managed
    (fun orphanedTargets => pure (orphans ∪ orphanedTargets).length)
      (routes.erased.tidy tidyFirst)
    untargeted' fun orphanedTargets after targets => ?_
  exact ⟨orphans, orphanedTargets, between, routes.from_files files, targets, rfl⟩

/-- A listing that returns lists the participants of the engine's list. -/
theorem ensures_listedParticipants (host : Host) :
    self.listManagedRuntimes.Ensures (returning fun records after =>
      (records.map fun record => record.participantId) =
          (snapshot self.dependencies host).managed.filterMap
            (fun container => labelledParticipant container.labels) ∧
        after.files = host.files) host := by
  refine ensures_bind.mpr (ensures_returning fun summaries answers => ?_)
  have shown : summaries = (snapshot self.dependencies host).managed.map summaryOf :=
    (Except.ok.inj answers).symm
  refine ((self.quiet_managedRuntimes summaries).ensures _).mono (fun records after both => ?_)
    (fun _ _ _ => trivial) fun _ _ => trivial
  have ⟨⟨_, _, _, files, _⟩, owners⟩ := both
  refine ⟨?_, files⟩
  rw [owners, shown, List.filterMap_map]
  rfl

/-- Where calls work and the listed containers remain, a reconciliation returns. -/
theorem ensures_reconcileRoutes_returns (works : self.dependencies.Works)
    (listing : self.listManagedRuntimes.Ensures (listedExactly self.dependencies host) host) :
    self.reconcileRoutes.Ensures ⟨fun _ _ => True, fun _ _ => ¬Remaining self.dependencies host,
      fun _ => False⟩ host := by
  have lists : ∀ registry host, (self.listParticipants registry).Ensures
      ⟨fun _ _ => True, fun _ _ => False, fun _ => False⟩ host := fun registry host =>
    ensures_bind.mpr (works.ensures_invoke.mpr ⟨fun _ _ => trivial, fun _ answers => by
      simp [Call.answer] at answers⟩)
  have removes : ∀ registry participantId host,
      (self.dependencies.invoke (.unlink registry participantId)).Ensures
        ⟨fun _ _ => True, fun _ _ => False, fun _ => False⟩ host := fun _ _ _ =>
    works.ensures_invoke.mpr ⟨fun _ _ => trivial, fun _ answers => by
      simp [Call.answer] at answers⟩
  refine ensures_bind.mpr (listing.mono (fun records first _ => ?_)
    (fun _ _ facts => facts.2) fun _ => id)
  refine ensures_bind.mpr ((lists .routes first).mono (fun routed second _ => ?_)
    (fun _ _ => False.elim) fun _ => id)
  refine ensures_bind.mpr ((ensures_forM (fun _ _ => True) trivial fun _ _ after _ _ =>
    removes .routes _ after).mono (fun _ third _ => ?_) (fun _ _ => False.elim) fun _ => id)
  have targets : self.metricsListParticipants.Ensures
      ⟨fun _ _ => True, fun _ _ => False, fun _ => False⟩ third :=
    ensures_ite.mpr ⟨fun _ => trivial, fun _ => lists .targets third⟩
  have metrics : ∀ participantId host, (self.metricsRemove participantId).Ensures
      ⟨fun _ _ => True, fun _ _ => False, fun _ => False⟩ host := fun participantId host =>
    ensures_ite.mpr ⟨fun _ => trivial, fun _ => removes .targets participantId host⟩
  refine ensures_bind.mpr (targets.mono (fun targeted fourth _ => ?_) (fun _ _ => False.elim)
    fun _ => id)
  exact ensures_bind.mpr ((ensures_forM (fun _ _ => True) trivial fun _ _ after _ _ =>
    metrics _ after).mono (fun _ _ _ => trivial) (fun _ _ => False.elim) fun _ => id)

end RuntimeService

/-- The participant has a managed container. -/
def Hosted (participantId : UUID) (engine : Engine) : Prop :=
  ∃ container ∈ engine.managed, OwnedBy participantId container.labels

theorem mem_participants {engine : Engine}
    (owned : ∀ container ∈ engine.managed, ∃ participantId,
      OwnedBy participantId container.labels)
    (participantId : UUID) :
    participantId ∈ engine.managed.filterMap
        (fun container => RuntimeService.labelledParticipant container.labels) ↔
      Hosted participantId engine := by
  rw [List.mem_filterMap]
  constructor
  · intro ⟨container, member, labelled⟩
    have ⟨owner, owns⟩ := owned container member
    rw [labelledParticipant_of_ownedBy owns] at labelled
    exact ⟨container, member, Option.some.inj labelled ▸ owns⟩
  · intro ⟨container, member, owns⟩
    exact ⟨container, member, labelledParticipant_of_ownedBy owns⟩

/-- What the two halves of a reconciliation leave together. -/
structure ReconciledExactly (listed : Engine) (before after : Host) (count : Nat) : Prop where
  published : ∀ registry participantId,
    (Hosted participantId listed →
      after.published registry participantId = before.published registry participantId) ∧
    (¬Hosted participantId listed → after.published registry participantId = none)
  kept : ∀ registry name, (∀ participantId, name ≠ registry.fileName participantId) →
    (after.files registry).lookup name = (before.files registry).lookup name
  counted : ∃ removed : List UUID, removed.Nodup ∧ count = removed.length ∧
    ∀ participantId, participantId ∈ removed ↔ ∃ registry,
      before.published registry participantId ≠ none ∧
        after.published registry participantId = none

section Halves

open RuntimeService

variable {registry : Registry} {listed : Engine} {orphans : List UUID} {before between after : Host}

/-- One registry after its half of the reconciliation. -/
theorem reconciled_published
    (owned : ∀ container ∈ listed.managed, ∃ participantId,
      OwnedBy participantId container.labels)
    (half : Reconciled registry (listed.managed.filterMap
      fun container => labelledParticipant container.labels) orphans before after)
    (participantId : UUID) :
    (Hosted participantId listed →
      after.published registry participantId = before.published registry participantId) ∧
    (¬Hosted participantId listed → after.published registry participantId = none) := by
  have orphan : participantId ∈ orphans ↔
      before.published registry participantId ≠ none ∧ ¬Hosted participantId listed := by
    rw [half.orphaned, mem_participants owned]
  have kept : participantId ∉ orphans →
      after.published registry participantId = before.published registry participantId := by
    intro outside
    refine half.erased.kept _ fun other inside same => outside ?_
    exact registry.fileName_injective same ▸ inside
  refine ⟨fun hosted => kept fun inside => (orphan.mp inside).2 hosted, fun unhosted => ?_⟩
  by_cases inside : participantId ∈ orphans
  · exact half.erased.erased participantId inside
  · rw [kept inside]
    by_contra there
    exact inside (orphan.mpr ⟨there, unhosted⟩)

/-- A registry's orphans are the participants whose file went away. -/
theorem mem_orphans
    (half : Reconciled registry (listed.managed.filterMap
      fun container => labelledParticipant container.labels) orphans before after)
    (participantId : UUID) :
    participantId ∈ orphans ↔ before.published registry participantId ≠ none ∧
      after.published registry participantId = none := by
  constructor
  · intro inside
    exact ⟨((half.orphaned participantId).mp inside).1, half.erased.erased participantId inside⟩
  · intro ⟨there, gone⟩
    by_contra outside
    have kept : after.published registry participantId = before.published registry participantId :=
      half.erased.kept _ fun other inside same =>
        outside (registry.fileName_injective same ▸ inside)
    exact there (kept ▸ gone)

theorem reconciled_exactly {orphanedTargets : List UUID} {count : Nat}
    (owned : ∀ container ∈ listed.managed, ∃ participantId,
      OwnedBy participantId container.labels)
    (routes : Reconciled .routes (listed.managed.filterMap
      fun container => labelledParticipant container.labels) orphans before between)
    (targets : Reconciled .targets (listed.managed.filterMap
      fun container => labelledParticipant container.labels) orphanedTargets between after)
    (counted : count = (orphans ∪ orphanedTargets).length) :
    ReconciledExactly listed before after count := by
  have routed : after.files .routes = between.files .routes :=
    targets.erased.others .routes (by simp)
  have targeted : between.files .targets = before.files .targets :=
    routes.erased.others .targets (by simp)
  have route : ∀ participantId, after.published .routes participantId =
      between.published .routes participantId := fun participantId => by
    rw [Host.published, routed, Host.published]
  have target : ∀ participantId, between.published .targets participantId =
      before.published .targets participantId := fun participantId => by
    rw [Host.published, targeted, Host.published]
  refine ⟨fun registry participantId => ?_, fun registry name differs => ?_, ?_⟩
  · cases registry with
    | routes =>
        rw [route]
        exact reconciled_published owned routes participantId
    | targets =>
        rw [← target]
        exact reconciled_published owned targets participantId
  · cases registry with
    | routes =>
        rw [routed]
        exact routes.erased.kept name fun other _ => differs other
    | targets =>
        rw [← targeted]
        exact targets.erased.kept name fun other _ => differs other
  · refine ⟨orphans ∪ orphanedTargets, targets.distinct.union orphans, counted,
      fun participantId => ?_⟩
    rw [List.mem_union_iff, mem_orphans routes, mem_orphans targets, ← route, target]
    constructor
    · intro either
      exact either.elim (fun removed => ⟨.routes, removed⟩) fun removed =>
        ⟨.targets, removed⟩
    · rintro ⟨registry, removed⟩
      cases registry with
      | routes => exact Or.inl removed
      | targets => exact Or.inr removed

end Halves

/-- From directories that were empty, after any operations (the last one perhaps
stopped in the middle): a reconciliation that returns has kept just the routes and
the targets of participants with a managed container, and every other file that is
no route and no target, as they were, and has counted the participants of whom it
removed a file. Where the calls work and the listed containers stay, it returns. -/
theorem reconciliation_exact (agent : Agent) (start : Host)
    (unmanaged : start.engine.managed = []) (bare : ∀ registry, start.files registry = ∅)
    (steps : List Step) (dependencies : Dependencies) :
    let before := agent.execute start steps
    let outcome := (agent.service dependencies).reconcileRoutes before
    let listed := RuntimeService.snapshot dependencies before
    (∀ count, outcome.1 = .returned count → ReconciledExactly listed before outcome.2 count) ∧
    (dependencies.Works → RuntimeService.Remaining dependencies before →
      ∃ count, outcome.1 = .returned count) := by
  intro before outcome listed
  let service := agent.service dependencies
  have owned := agent.owned_of_managed unmanaged steps
    (Engine.within_drifted before.engine (dependencies.drifts before.history.length))
  have tidy : Tidy before := agent.execute_tidy (fun registry name there => by
    simp [bare registry] at there) steps
  have untargeted : service.config.metricsTargetRoot.isNone = true →
      before.files .targets = ∅ :=
    fun none => (agent.execute_untargeted none steps).trans (bare .targets)
  refine ⟨fun count returned => ?_, fun works remaining => ?_⟩
  · have exact : service.reconcileRoutes.Ensures _ before :=
      RuntimeService.ensures_reconcileRoutes_exact tidy untargeted
        (RuntimeService.ensures_listedParticipants before)
    have ⟨orphans, orphanedTargets, between, routes, targets, counted⟩ :=
      exact.ofReturned returned
    exact reconciled_exactly owned routes targets counted
  · have listing : service.listManagedRuntimes.Ensures _ before :=
      RuntimeService.ensures_listing works owned
    have returns : service.reconcileRoutes.Ensures _ before :=
      RuntimeService.ensures_reconcileRoutes_returns works listing
    have always : service.reconcileRoutes.Ensures
        ⟨fun _ _ => True, fun _ _ => False, fun _ => False⟩ before :=
      returns.mono (fun _ _ => id) (fun _ _ gone => gone remaining) fun _ => id
    have ⟨count, returned, _⟩ := always.returns
    exact ⟨count, returned⟩

/-- The container is gone when the engine lists, and its route is removed. -/
theorem orphaned_route_removed :
    let before := exampleAgent.execute Host.empty exampleSteps
    let dependencies := Dependencies.vanishing 33
    let outcome := (exampleAgent.service dependencies).reconcileRoutes before
    outcome.1 = .returned 1 ∧ ReconciledExactly (RuntimeService.snapshot dependencies before)
      before outcome.2 1 := by
  intro before dependencies outcome
  have returned : ((exampleAgent.service (.vanishing 33)).reconcileRoutes
      (exampleAgent.execute Host.empty exampleSteps)).1 = .returned 1 := by decide +kernel
  have reconciled := reconciliation_exact exampleAgent Host.empty rfl (fun _ => rfl) exampleSteps
    (.vanishing 33)
  exact ⟨returned, reconciled.1 1 returned⟩

end RetroBrowser.RuntimeAgent
