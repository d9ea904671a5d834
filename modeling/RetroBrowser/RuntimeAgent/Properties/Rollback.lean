import RetroBrowser.Foundation.Trace
import RetroBrowser.RuntimeAgent.Properties.Identifiers
import RetroBrowser.RuntimeAgent.Properties.Publication

/-!
Owns what a failed creation takes back: after `create_container` returned an
identifier, which failing calls lead to the removal of the container and of the
participant's files, and which leave them behind.

Contract: the calls after the creation are numbered one after the other, so the
plan alone says which of them is the first to raise and whether the clean-up then
reaches the container.
-/

namespace RetroBrowser.RuntimeAgent

open RetroBrowser.Foundation
open RetroBrowser.Foundation.Program
open RetroBrowser.Foundation.Frame

/-! ## Calls one after the other -/

namespace Dependencies

variable (dependencies : Dependencies)

/-- The number of the first of these calls that the plan makes raise, where they
are made one after the other from `index` on. -/
def firstFault : Nat → List Call → Option Nat
  | _, [] => none
  | index, call :: rest =>
    if (dependencies.fault index call).isSome then some index else firstFault (index + 1) rest

/-- The engine's stop and remove calls for the container are not made to raise. -/
structure Halts (containerId : String) : Prop where
  stop : dependencies.Faultless (.stopContainer containerId)
  remove : dependencies.Faultless (.removeContainer containerId)

/-- The removals of the participant's files are not made to raise. -/
structure Unlinks (participantId : UUID) : Prop where
  route : dependencies.Faultless (.unlink .routes participantId)
  target : dependencies.Faultless (.unlink .targets participantId)

variable {dependencies}

theorem firstFault_append (index : Nat) (calls calls' : List Call) :
    dependencies.firstFault index (calls ++ calls') =
      (dependencies.firstFault index calls).or
        (dependencies.firstFault (index + calls.length) calls') := by
  induction calls generalizing index with
  | nil => rfl
  | cons call rest inductionHypothesis =>
      rw [List.cons_append, firstFault, firstFault, inductionHypothesis, List.length_cons]
      split
      · rfl
      · rw [Nat.add_right_comm, Nat.add_assoc]

theorem firstFault_of_none {index : Nat} {call : Call}
    (plan : dependencies.fault index call = none) :
    dependencies.firstFault index [call] = none := by
  simp [firstFault, plan]

theorem firstFault_of_some {index : Nat} {call : Call} {fault : Fault}
    (plan : dependencies.fault index call = some fault) :
    dependencies.firstFault index [call] = some index := by
  simp [firstFault, plan]

end Dependencies

/-- The participant has neither a route nor a metrics target. -/
def Unpublished (participantId : UUID) (host : Host) : Prop :=
  host.published .routes participantId = none ∧ host.published .targets participantId = none

/-- The program makes these calls from `index` on and raises at the first one that
the plan makes raise, or because the container is lost. -/
def planned {α : Type} (dependencies : Dependencies) (containerId : String) (index : Nat)
    (calls : List Call) : Post Host Error α where
  returned _ after := containerId ∈ after.engine.issued ∧
    dependencies.firstFault index calls = none ∧ after.history.length = index + calls.length
  raised _ after := containerId ∈ after.engine.issued ∧ (¬Present containerId after.engine ∨
    ∃ failed, dependencies.firstFault index calls = some failed ∧
      after.history.length = failed + 1)
  stopped _ := True

section Planned

variable {α : Type} {dependencies : Dependencies} {containerId : String}
  {index : Nat} {host : Host}

/-- One call, which the host refuses only without the container. -/
theorem planned_invoke {call : Call} (issued : containerId ∈ host.engine.issued)
    (counted : host.history.length = index)
    (refused : ∀ drifts refusal, call.answer dependencies host.history.length
      (host.drifted drifts) =
      .error refusal → ¬Present containerId (host.drifted drifts).engine) :
    (dependencies.invoke call).Ensures (planned dependencies containerId index [call]) host := by
  have inherits : inheriting.Holds (dependencies.invoke call) fun _ => True :=
    inheriting_invoke call
  suffices planned' : (dependencies.invoke call).Ensures
      ⟨fun _ after => dependencies.firstFault index [call] = none ∧
        after.history.length = index + 1, fun _ after => ¬Present containerId after.engine ∨
          dependencies.firstFault index [call] = some index ∧ after.history.length = index + 1,
        fun _ => True⟩ host by
    refine ((inherits.ensures host).and planned').mono (fun _ after facts => ?_)
      (fun _ after facts => ?_) fun _ _ => trivial
    · exact ⟨facts.1.1.issued issued, facts.2⟩
    · exact ⟨facts.1.issued issued, facts.2.imp_right fun both => ⟨index, both⟩⟩
  refine ensures_invoke fun outcome after happens => ?_
  have longer : ∀ (before : Host) (event : Event), before.history = host.history →
      (before.record event).history.length = index + 1 := by
    intro before event same
    rw [Host.record_history, List.length_cons, same, counted]
  cases happens with
  | stopped => trivial
  | returned drifts value answers goesOn plan =>
      rw [counted] at plan
      exact ⟨Dependencies.firstFault_of_none plan, longer _ _ (Call.effect_history call)⟩
  | lost drifts error value answers allowed goesOn plan =>
      rw [counted] at plan
      exact Or.inr ⟨Dependencies.firstFault_of_some plan, longer _ _ (Call.effect_history call)⟩
  | refused drifts error answers => exact Or.inl (refused drifts error answers)
  | failed drifts error allowed goesOn applied plan =>
      rw [counted] at plan
      exact Or.inr ⟨Dependencies.firstFault_of_some plan, longer _ _ rfl⟩

/-- Calls after calls. -/
theorem planned_bind {β : Type} {first : AgentProgram β} {next : β → AgentProgram α}
    {calls calls' : List Call} {fact : β → Host → Prop}
    (ensures : first.Ensures (planned dependencies containerId index calls) host)
    (facts : first.Ensures ⟨fact, fun _ _ => True, fun _ => True⟩ host)
    (rest : ∀ value after, fact value after → containerId ∈ after.engine.issued →
      after.history.length = index + calls.length →
      (next value).Ensures (planned dependencies containerId (index + calls.length) calls') after) :
    (first >>= next).Ensures (planned dependencies containerId index (calls ++ calls')) host := by
  refine ensures_bind.mpr ((ensures.and facts).mono (fun value after both => ?_)
    (fun error after both => ?_) fun _ _ => trivial)
  · have ⟨⟨issued, clear, counted⟩, holds⟩ := both
    refine (rest value after holds issued counted).mono (fun _ later ended => ?_)
      (fun _ later ended => ?_) fun _ _ => trivial
    · have ⟨issued', clear', counted'⟩ := ended
      refine ⟨issued', ?_, by rw [counted', List.length_append, Nat.add_assoc]⟩
      rw [Dependencies.firstFault_append, clear, clear']
      rfl
    · refine ⟨ended.1, ended.2.imp_right fun ⟨failed, fails, counted'⟩ =>
        ⟨failed, ?_, counted'⟩⟩
      rw [Dependencies.firstFault_append, clear, fails]
      rfl
  · refine ⟨both.1.1, both.1.2.imp_right fun ⟨failed, fails, counted⟩ =>
      ⟨failed, ?_, counted⟩⟩
    rw [Dependencies.firstFault_append, fails]
    rfl

end Planned

namespace RuntimeService

variable (self : RuntimeService) (request : CreateRuntimeRequest) (participantId : UUID)
variable (containerId : String)

/-! ## Starting and publishing -/

/-- The calls of a publication. -/
def publication (registry : Registry) (document : Document) : List Call :=
  [.write registry participantId document, .replace registry participantId]

/-- The calls that start a container and publish its files. -/
def publishing : List Call :=
  [.startContainer containerId] ++ (publication request.participantId .routes
    (.route (self.route request.participantId request.streamSubfolder
      (containerName request.participantId))) ++
    if self.config.metricsTargetRoot.isNone then []
    else publication request.participantId .targets (.target (metricsTarget request.participantId
      request.sessionId request.coreProfile (containerName request.participantId)
      (self.metricsToken request))))

variable {self request participantId containerId} {index : Nat} {host : Host}

/-- A temporary file that was written is there to replace the participant's file. -/
theorem ensures_write (registry : Registry) (document : Document) :
    (self.dependencies.invoke (.write registry participantId document)).Ensures
      ⟨fun _ after =>
          (after.files registry).lookup (Registry.temporaryName participantId) = some document,
        fun _ _ => True, fun _ => True⟩ host := by
  refine ensures_invoke fun outcome after happens => ?_
  cases happens with
  | returned drifts value answers =>
      show (Host.files _ registry).lookup _ = _
      rw [Host.record_files, Call.effect, Host.withFiles_files_self, AList.lookup_insert]
  | _ => trivial

theorem planned_publish (registry : Registry) (document : Document)
    (issued : containerId ∈ host.engine.issued) (counted : host.history.length = index) :
    (self.publish registry participantId document).Ensures
      (planned self.dependencies containerId index (publication participantId registry document))
      host := by
  have first : (self.dependencies.invoke (.write registry participantId document)).Ensures
      (planned self.dependencies containerId index [.write registry participantId document]) host :=
    planned_invoke issued counted (by simp [Call.answer])
  refine planned_bind first (ensures_write registry document) ?_
  intro _ after written issued' counted'
  refine planned_invoke issued' counted' fun drifts refusal answers => ?_
  simp [Call.answer, written, Call.onFile, Except.map] at answers

theorem planned_startAndPublish (issued : containerId ∈ host.engine.issued)
    (counted : host.history.length = index) :
    (self.startAndPublish request (containerName request.participantId) containerId).Ensures
      (planned self.dependencies containerId index (self.publishing request containerId)) host := by
  have start : (self.startContainer containerId).Ensures
      (planned self.dependencies containerId index [.startContainer containerId]) host :=
    planned_invoke issued counted fun drifts refusal answers =>
      absent_of_missing (Call.onContainer_error answers).1
  have anyway : ∀ {program : AgentProgram Unit} {before : Host}, program.Ensures
      ⟨fun _ _ => True, fun _ _ => True, fun _ => True⟩ before :=
    ensures_of_forall (fun _ _ => trivial) (fun _ _ => trivial) fun _ => trivial
  refine planned_bind start anyway ?_
  intro _ after _ issued counted
  refine planned_bind (planned_publish .routes _ issued counted) anyway ?_
  intro _ after _ issued counted
  unfold metricsPublish
  split
  · exact ⟨issued, rfl, counted⟩
  · exact planned_publish .targets _ issued counted

/-! ## Cleaning up -/

variable (self participantId)

/-- The plan lets `routes.remove`, as the call of this number, raise `OSError` only. -/
def routeTolerated (index : Nat) : Bool :=
  match self.dependencies.fault index (.unlink .routes participantId) with
  | none => true
  | some fault => fault.error.isOSError

/-- A clean-up whose first call has this number reaches the container. -/
def cleansUp (index : Nat) : Bool :=
  if self.config.metricsTargetRoot.isNone then self.routeTolerated participantId index
  else (self.dependencies.fault index (.unlink .targets participantId)).isNone &&
    self.routeTolerated participantId (index + 1)

/-- The calls after the creation of a container, the first of which has this number,
fail in such a way that the container is removed again: the start or a publication
raises, `metrics_targets.remove` does not, and `routes.remove` raises `OSError` at most. -/
def rollsBack (request : CreateRuntimeRequest) (containerId : String) (index : Nat) : Bool :=
  match self.dependencies.firstFault index (self.publishing request containerId) with
  | none => false
  | some failed => self.cleansUp request.participantId (failed + 1)

variable {self participantId}

/-- The number of calls that remove the target. -/
def targetCalls (config : AgentConfig) : Nat := if config.metricsTargetRoot.isNone then 0 else 1

/-- A call that the host never refuses raises just when the plan says so. -/
theorem ensures_unrefused {call : Call} (counted : host.history.length = index)
    (accepts : ∀ index before refusal,
      call.answer self.dependencies index before ≠ .error refusal) :
    (self.dependencies.invoke call).Ensures
      ⟨fun _ after => self.dependencies.fault index call = none ∧
        after.history.length = index + 1,
        fun error after =>
          (∃ applied, self.dependencies.fault index call = some ⟨error, applied⟩) ∧
          after.history.length = index + 1,
        fun _ => True⟩ host := by
  have longer : ∀ (before : Host) (event : Event), before.history = host.history →
      (before.record event).history.length = index + 1 := by
    intro before event same
    rw [Host.record_history, List.length_cons, same, counted]
  refine ensures_invoke fun outcome after happens => ?_
  cases happens with
  | stopped => trivial
  | returned drifts value answers goesOn plan =>
      exact ⟨counted ▸ plan, longer _ _ (Call.effect_history call)⟩
  | lost drifts error value answers allowed goesOn plan =>
      exact ⟨⟨true, counted ▸ plan⟩, longer _ _ (Call.effect_history call)⟩
  | refused drifts error answers => exact absurd answers (accepts _ _ _)
  | failed drifts error allowed goesOn applied plan =>
      exact ⟨⟨applied, counted ▸ plan⟩, longer _ _ rfl⟩

theorem ensures_metricsRemove (counted : host.history.length = index) :
    (self.metricsRemove participantId).Ensures
      ⟨fun _ after => after.history.length = index + targetCalls self.config ∧
          self.cleansUp participantId index =
            self.routeTolerated participantId (index + targetCalls self.config),
        fun _ _ => self.cleansUp participantId index = false,
        fun _ => True⟩ host := by
  unfold metricsRemove cleansUp targetCalls
  by_cases none : self.config.metricsTargetRoot.isNone = true
  · simp only [if_pos none]
    exact ⟨counted, rfl⟩
  · simp only [if_neg none]
    refine (ensures_unrefused counted (by simp [Call.answer])).mono (fun _ after facts => ?_)
      (fun _ after facts => ?_) fun _ _ => trivial
    · simp [facts.1, facts.2]
    · obtain ⟨⟨applied, plan⟩, _⟩ := facts
      simp [plan]

/-- `routes.remove` under its handler. -/
theorem ensures_routeHandled (counted : host.history.length = index) :
    (tryCatch (self.routesRemove participantId) fun cleanupError =>
      if cleanupError.isOSError then pure () else throw cleanupError).Ensures
      ⟨fun _ _ => self.routeTolerated participantId index = true,
        fun _ _ => self.routeTolerated participantId index = false, fun _ => True⟩ host := by
  refine ensures_tryCatch.mpr ((ensures_unrefused counted (by simp [Call.answer])).mono
    (fun _ after facts => ?_) (fun error after facts => ?_) fun _ _ => trivial)
  · simp [routeTolerated, facts.1]
  · obtain ⟨⟨applied, plan⟩, _⟩ := facts
    refine ensures_ite.mpr ⟨fun tolerated => ?_, fun raises => ?_⟩
    · simp [ensures_pure, routeTolerated, plan, tolerated]
    · simp [ensures_throw, routeTolerated, plan, raises]

/-- A call about a container that is not made to raise is refused at most because the
container is missing. -/
theorem ensures_faultless {call : Call} (faultless : self.dependencies.Faultless call)
    (refused : ∀ index before refusal, call.answer self.dependencies index before =
      .error refusal →
      refusal.isRuntimeAgentError = true ∧ ¬Present containerId before.engine) :
    (self.dependencies.invoke call).Ensures
      ⟨fun _ _ => True,
        fun error after => error.isRuntimeAgentError = true ∧ ¬Present containerId after.engine,
        fun _ => True⟩ host := by
  refine ensures_invoke fun outcome after happens => ?_
  cases happens with
  | stopped => trivial
  | returned => trivial
  | lost drifts error value answers allowed goesOn plan => simp [faultless _] at plan
  | refused drifts error answers => exact refused _ (host.drifted drifts) _ answers
  | failed drifts error allowed goesOn applied plan => simp [faultless _] at plan

theorem refused_missing {before : Host} {refusal : Error}
    (answers : Call.onContainer before (.byId containerId) (fun _ => ()) = .error refusal) :
    refusal.isRuntimeAgentError = true ∧ ¬Present containerId before.engine := by
  have ⟨missing, equal⟩ := Call.onContainer_error answers
  exact ⟨by rw [equal]; rfl, absent_of_missing missing⟩

theorem ensures_stopHandled (halts : self.dependencies.Halts containerId) :
    (tryCatch (self.stopContainer containerId) fun cleanupError =>
      if cleanupError.isRuntimeAgentError then pure () else throw cleanupError).Ensures
      ⟨fun _ _ => True, fun _ _ => False, fun _ => True⟩ host := by
  refine ensures_tryCatch.mpr ((ensures_faultless halts.stop fun _ _ _ answers =>
    refused_missing answers).mono (fun _ _ => id) (fun error after facts => ?_) fun _ => id)
  exact ensures_ite.mpr ⟨fun _ => trivial, fun raises => absurd facts.1 raises⟩

/-- Afterwards the container is gone. -/
theorem ensures_removeHandled (halts : self.dependencies.Halts containerId) :
    (tryCatch (self.removeContainer containerId) fun cleanupError =>
      if cleanupError.isRuntimeAgentError then pure () else throw cleanupError).Ensures
      ⟨fun _ after => ¬Present containerId after.engine, fun _ _ => False,
        fun _ => True⟩ host := by
  have gone : (self.removeContainer containerId).Ensures
      ⟨fun _ after => ¬Present containerId after.engine, fun _ _ => True,
        fun _ => True⟩ host := by
    refine ensures_invoke fun outcome after happens => ?_
    cases happens with
    | returned drifts => exact absent_of_discard containerId _
    | _ => trivial
  refine ensures_tryCatch.mpr ((gone.and (ensures_faultless halts.remove fun _ _ _ answers =>
    refused_missing answers)).mono (fun _ _ facts => facts.1) (fun error after facts => ?_)
    fun _ _ => trivial)
  exact ensures_ite.mpr ⟨fun _ => facts.2.2, fun raises => absurd facts.2.1 raises⟩

theorem keeping_metricsRemove (spares : self.dependencies.Spares containerId) :
    (keeping containerId).Holds (self.metricsRemove participantId) fun _ => True :=
  holds_ite (fun _ => holds_pure trivial) fun _ => keeping_invoke spares (by simp)

theorem keeping_routeHandled (spares : self.dependencies.Spares containerId) :
    (keeping containerId).Holds (tryCatch (self.routesRemove participantId) fun cleanupError =>
      if cleanupError.isOSError then pure () else throw cleanupError) fun _ => True :=
  holds_tryCatch (keeping_invoke spares (by simp)) fun _ =>
    holds_ite (fun _ => holds_pure trivial) fun _ => holds_throw _

/-- A clean-up that returns has removed the container; one that raises has not
reached it. -/
theorem ensures_cleanUp_exact (halts : self.dependencies.Halts containerId)
    (counted : host.history.length = index) : (self.cleanUp participantId containerId).Ensures
      ⟨fun _ after => ¬Present containerId after.engine ∧
        self.cleansUp participantId index = true,
        fun _ after => self.cleansUp participantId index = false ∧
          (self.dependencies.Spares containerId → Present containerId host.engine →
            Present containerId after.engine),
        fun _ => True⟩ host := by
  have kept : ∀ {α : Type} {program : AgentProgram α} (before : Host),
      (self.dependencies.Spares containerId →
        (keeping containerId).Holds program fun _ => True) →
      program.Ensures (Post.always fun after => self.dependencies.Spares containerId →
        Present containerId before.engine → Present containerId after.engine) before := by
    intro α program before holds
    by_cases spares : self.dependencies.Spares containerId
    · exact ((holds spares).ensures before).mono (fun _ _ both _ => both.1)
        (fun _ _ keeps _ => keeps)
        fun _ keeps _ => keeps
    · exact ensures_of_forall (fun _ _ spared => absurd spared spares)
        (fun _ _ spared => absurd spared spares) fun _ spared => absurd spared spares
  refine ensures_bind.mpr (((kept host keeping_metricsRemove).and
    (ensures_metricsRemove counted)).mono (fun _ first facts => ?_)
    (fun _ _ facts => ⟨facts.2, facts.1⟩) fun _ _ => trivial)
  have ⟨stays, counted', same⟩ := facts
  refine ensures_bind.mpr (((kept first keeping_routeHandled).and
    (ensures_routeHandled counted')).mono (fun _ second facts' => ?_) (fun _ after facts' => ?_)
    fun _ _ => trivial)
  · refine ensures_bind.mpr ((ensures_stopHandled halts).mono (fun _ third _ => ?_)
      (fun _ _ => False.elim) fun _ => id)
    exact (ensures_removeHandled halts).mono (fun _ _ absent => ⟨absent, same.trans facts'.2⟩)
      (fun _ _ => False.elim) fun _ => id
  · exact ⟨same.trans facts'.2, fun spares present => facts'.1 spares (stays spares present)⟩

/-! ## The container -/

theorem keeping_startAndPublish (spares : self.dependencies.Spares containerId) (name : String) :
    (keeping containerId).Holds (self.startAndPublish request name containerId) fun _ => True := by
  have publishes : ∀ registry document,
      (keeping containerId).Holds (self.publish registry request.participantId document)
        fun _ => True := fun registry document =>
    holds_bind (keeping_invoke spares (by simp)) fun _ _ => keeping_invoke spares (by simp)
  refine holds_bind (keeping_invoke spares (by simp)) fun _ _ => ?_
  refine holds_bind (publishes .routes _) fun _ _ => ?_
  exact holds_ite (fun _ => holds_pure trivial) fun _ => publishes .targets _

theorem keeping_launchedRecord (spares : self.dependencies.Spares containerId) :
    (keeping containerId).Holds (do
      let container ← self.inspectContainer (.byId containerId)
      self.runtimeRecord container request.participantId) fun _ => True := by
  refine holds_bind (keeping_invoke spares (by simp)) fun container _ => ?_
  exact holds_bind (keeping_invoke spares (by simp)) fun _ _ => holds_pure trivial

/-- Starting and publishing returns where nothing is rolled back, and raises where the
clean-up decides, unless the container has vanished. -/
theorem startAndPublish_rollback (issued : containerId ∈ host.engine.issued)
    (present : Present containerId host.engine) (counted : host.history.length = index) :
    (self.startAndPublish request (containerName request.participantId) containerId).Ensures
      ⟨fun _ after => self.rollsBack request containerId index = false ∧
          (self.dependencies.Spares containerId → Present containerId after.engine),
        fun _ after => containerId ∈ after.engine.issued ∧
          (self.dependencies.Spares containerId → Present containerId after.engine) ∧
          (¬Present containerId after.engine ∨
            self.rollsBack request containerId index =
              self.cleansUp request.participantId after.history.length),
        fun _ => True⟩ host := by
  have stays : (self.startAndPublish request (containerName request.participantId)
      containerId).Ensures (Post.always fun after => self.dependencies.Spares containerId →
        Present containerId after.engine) host := by
    by_cases spares : self.dependencies.Spares containerId
    · exact ((keeping_startAndPublish spares _).ensures host).mono
        (fun _ _ both _ => both.1 present) (fun _ _ keeps _ => keeps present)
        fun _ keeps _ => keeps present
    · exact ensures_of_forall (fun _ _ spared => absurd spared spares)
        (fun _ _ spared => absurd spared spares) fun _ spared => absurd spared spares
  refine ((planned_startAndPublish issued counted).and stays).mono (fun _ after facts => ?_)
    (fun _ after facts => ?_) fun _ _ => trivial
  · have ⟨⟨_, clear, _⟩, stays⟩ := facts
    exact ⟨by rw [rollsBack, clear], stays⟩
  · have ⟨⟨issued', either⟩, stays⟩ := facts
    refine ⟨issued', stays, either.imp_right fun ⟨failed, fails, counted'⟩ => ?_⟩
    rw [rollsBack, fails, counted']

/-- A launch that raises has removed the container just when it rolls back. -/
theorem ensures_launch_container (halts : self.dependencies.Halts containerId)
    (issued : containerId ∈ host.engine.issued) (present : Present containerId host.engine)
    (counted : host.history.length = index) :
    (self.launch request (containerName request.participantId) containerId).Ensures
      ⟨fun _ _ => True,
        fun _ after => (self.rollsBack request containerId index = true →
            ¬Present containerId after.engine) ∧
          (self.dependencies.Spares containerId → ¬Present containerId after.engine →
            self.rollsBack request containerId index = true),
        fun _ => True⟩ host := by
  have starts : (self.startAndPublish request (containerName request.participantId)
      containerId).Ensures _ host := startAndPublish_rollback issued present counted
  refine ensures_bind.mpr (ensures_tryCatch.mpr (starts.mono (fun _ between facts => ?_)
    (fun error between facts => ?_) fun _ => id))
  · have ⟨kept, stays⟩ := facts
    by_cases spares : self.dependencies.Spares containerId
    · have still := stays spares
      have holds : (keeping containerId).Holds (do
          let container ← self.inspectContainer (.byId containerId)
          self.runtimeRecord container request.participantId) fun _ => True :=
        keeping_launchedRecord spares
      exact (holds.ensures between).mono (fun _ _ _ => trivial)
        (fun _ after keeps => ⟨fun back => by simp [kept] at back,
          fun _ absent => absurd (keeps still) absent⟩) fun _ _ => trivial
    · exact ensures_of_forall (fun _ _ => trivial)
        (fun _ _ => ⟨fun back => by simp [kept] at back,
        fun spared => absurd spared spares⟩) fun _ => trivial
  · have ⟨issued', stays, either⟩ := facts
    have lost : ∀ after : Host, between.engine.Inherits after.engine →
        ¬Present containerId between.engine → ¬Present containerId after.engine :=
      fun after inherits absent => (Lost.later ⟨issued', absent⟩ inherits).absent
    have limited : Limited self.dependencies (Call.Tends request.participantId [containerId])
        (self.cleanUp request.participantId containerId) :=
      self.limited_cleanUp (List.mem_singleton_self containerId)
    have cleaned := (((inheriting_limited limited).ensures between).and
      (ensures_cleanUp_exact halts rfl))
    refine ensures_bind.mpr (cleaned.mono (fun _ after facts => ?_) (fun _ after facts => ?_)
      fun _ _ => trivial)
    · have ⟨_, absent, cleans⟩ := facts
      refine ⟨fun _ => absent, fun spares _ => ?_⟩
      have exact' := either.resolve_left fun gone => gone (stays spares)
      rw [exact', cleans]
    · have ⟨inherits, unclean, keeps⟩ := facts
      refine ⟨fun back => ?_, fun spares absent => absurd (keeps spares (stays spares)) absent⟩
      rcases either with absent | exact'
      · exact lost after inherits absent
      · rw [exact', unclean] at back
        exact absurd back (by simp)

/-! ## The files -/

/-- A fact about the participant's file in a registry lasts through every call that
does not write or remove it. -/
theorem maintains_published {registry : Registry} (fact : Option Document → Prop) {call : Call}
    (replaces : call ≠ .replace registry participantId)
    (unlinks : call ≠ .unlink registry participantId) :
    (self.dependencies.invoke call).Maintains
      fun host => fact (host.published registry participantId) := by
  intro host holds
  have worked : ∀ drifts : List Drift, fact ((call.effect self.dependencies host.history.length
      (host.drifted drifts)).published registry participantId) := by
    intro drifts
    rw [Call.published_effect replaces unlinks]
    exact holds
  refine ensures_invoke fun outcome after happens => ?_
  cases happens with
  | stopped => exact holds
  | returned drifts => exact worked drifts
  | lost drifts => exact worked drifts
  | refused drifts => exact holds
  | failed drifts => exact holds

/-- Quiet programs leave the files. -/
theorem maintains_published_quiet {α : Type} {program : AgentProgram α} {onValue : α → Prop}
    {registry : Registry} (fact : Option Document → Prop) (holds : quiet.Holds program onValue) :
    program.Maintains fun host => fact (host.published registry participantId) :=
  holds.maintains fun before after moved fact' => by
    have ⟨_, _, _, files, _⟩ := moved
    unfold Host.published at fact' ⊢
    rw [files]
    exact fact'

/-- A removal that is not made to raise leaves no file. -/
theorem ensures_unlink {registry : Registry}
    (faultless : self.dependencies.Faultless (.unlink registry participantId)) :
    (self.dependencies.invoke (.unlink registry participantId)).Ensures
      ⟨fun _ after => after.published registry participantId = none, fun _ _ => False,
        fun _ => True⟩ host := by
  refine ensures_invoke fun outcome after happens => ?_
  cases happens with
  | stopped => trivial
  | returned drifts =>
      show Host.published _ registry participantId = none
      unfold Host.published
      rw [Host.record_files, Call.effect, Host.withFiles_files_self, AList.lookup_erase]
  | lost drifts error value answers allowed goesOn plan => simp [faultless _] at plan
  | refused drifts error answers => simp [Call.answer] at answers
  | failed drifts error allowed goesOn applied plan => simp [faultless _] at plan

/-- The participant has no target where none are configured. -/
def Untargeted (config : AgentConfig) (participantId : UUID) (host : Host) : Prop :=
  config.metricsTargetRoot.isNone = true → host.published .targets participantId = none

theorem untargeted_maintains {call : Call} (replaces : call ≠ .replace .targets participantId)
    (unlinks : call ≠ .unlink .targets participantId) :
    (self.dependencies.invoke call).Maintains (Untargeted self.config participantId) :=
  maintains_published (fun held => self.config.metricsTargetRoot.isNone = true → held = none)
    replaces unlinks

theorem untargeted_startAndPublish (name : String) :
    (self.startAndPublish request name containerId).Maintains
      (Untargeted self.config request.participantId) := by
  refine maintains_bind (untargeted_maintains (by simp) (by simp)) fun _ => ?_
  refine maintains_bind ?_ fun _ => ?_
  · exact maintains_bind (untargeted_maintains (by simp) (by simp)) fun _ =>
      untargeted_maintains (by simp) (by simp)
  · refine maintains_ite (fun _ => maintains_pure _) fun some => ?_
    exact fun host _ => ensures_of_forall (fun _ _ none => absurd none some)
      (fun _ _ none => absurd none some) fun _ none => absurd none some

/-- A clean-up whose removals work takes both files away. -/
theorem ensures_cleanUp_files (unlinks : self.dependencies.Unlinks participantId)
    (untargeted : Untargeted self.config participantId host) :
    (self.cleanUp participantId containerId).Ensures
      ⟨fun _ => Unpublished participantId, fun _ => Unpublished participantId, fun _ => True⟩
      host := by
  have target : (self.metricsRemove participantId).Ensures
      ⟨fun _ after => after.published .targets participantId = none, fun _ _ => False,
        fun _ => True⟩ host :=
    ensures_ite.mpr ⟨untargeted, fun _ => ensures_unlink unlinks.target⟩
  have kept : ∀ call : Call, (∀ registry, call ≠ .replace registry participantId) →
      (∀ registry, call ≠ .unlink registry participantId) →
      (self.dependencies.invoke call).Maintains (Unpublished participantId) := by
    intro call replaces removes host holds
    exact ((maintains_published (fun held => held = none) (replaces .routes) (removes .routes)
      host holds.1).and (maintains_published (fun held => held = none) (replaces .targets)
        (removes .targets) host holds.2)).mono (fun _ _ => id) (fun _ _ => id) fun _ => id
  refine ensures_bind.mpr (target.mono (fun _ first held => ?_) (fun _ _ => False.elim) fun _ => id)
  have route : (self.routesRemove participantId).Ensures
      ⟨fun _ => Unpublished participantId, fun _ _ => False, fun _ => True⟩ first :=
    ((maintains_published (fun held => held = none) (by simp) (by simp) first held).and
      (ensures_unlink unlinks.route)).mono (fun _ _ facts => ⟨facts.2, facts.1⟩)
        (fun _ _ facts => facts.2) fun _ _ => trivial
  refine ensures_bind.mpr (ensures_tryCatch.mpr (route.mono (fun _ second gone => ?_)
    (fun _ _ => False.elim) fun _ => id))
  have rest : (do
      tryCatch (self.stopContainer containerId) fun cleanupError =>
        if cleanupError.isRuntimeAgentError then pure () else throw cleanupError
      tryCatch (self.removeContainer containerId) fun cleanupError =>
        if cleanupError.isRuntimeAgentError then pure () else throw cleanupError :
        AgentProgram Unit).Maintains (Unpublished participantId) :=
    maintains_bind (maintains_ignore (kept _ (by simp) (by simp))) fun _ =>
      maintains_ignore (kept _ (by simp) (by simp))
  exact (rest second gone).mono (fun _ _ => id) (fun _ _ => id) fun _ _ => trivial

/-- A replacement that returns has left the document that was written. -/
theorem ensures_replace {registry : Registry} {document : Document}
    (written : (host.files registry).lookup (Registry.temporaryName participantId) =
      some document) :
    (self.dependencies.invoke (.replace registry participantId)).Ensures
      ⟨fun _ after => after.published registry participantId = some document, fun _ _ => True,
        fun _ => True⟩ host := by
  refine ensures_invoke fun outcome after happens => ?_
  cases happens with
  | returned drifts value answers =>
      have there : ((host.drifted drifts).files registry).lookup
          (Registry.temporaryName participantId) = some document := written
      show Host.published _ registry participantId = some document
      unfold Host.published
      rw [Host.record_files, Call.effect, there]
      show AList.lookup _ (Host.files (Host.withFiles _ registry _) registry) = _
      rw [Host.withFiles_files_self, AList.lookup_insert]
  | _ => trivial

/-- A publication that returns has left the document. -/
theorem ensures_published {registry : Registry} {document : Document} :
    (self.publish registry participantId document).Ensures
      ⟨fun _ after => after.published registry participantId = some document, fun _ _ => True,
        fun _ => True⟩ host :=
  ensures_bind.mpr ((ensures_write registry document).mono
    (fun _ _ written => ensures_replace written) (fun _ _ _ => trivial) fun _ _ => trivial)

theorem ensures_routed (name : String) :
    (self.startAndPublish request name containerId).Ensures
      ⟨fun _ after => after.published .routes request.participantId ≠ none, fun _ _ => True,
        fun _ => True⟩ host := by
  refine ensures_bind.mpr (ensures_of_forall (fun _ first => ?_) (fun _ _ => trivial)
    fun _ => trivial)
  refine ensures_bind.mpr (ensures_published.mono (fun _ second routed => ?_) (fun _ _ _ => trivial)
    fun _ _ => trivial)
  have there : second.published .routes request.participantId ≠ none := by
    show Host.published _ _ _ ≠ none
    rw [show second.published .routes request.participantId = some _ from routed]
    simp
  have kept : ∀ call : Call, call ≠ .replace .routes request.participantId →
      call ≠ .unlink .routes request.participantId → (self.dependencies.invoke call).Maintains
        fun host => host.published .routes request.participantId ≠ none :=
    fun call replaces removes => maintains_published (fun held => held ≠ none) replaces removes
  have targets :
    (self.metricsPublish request.participantId request.sessionId request.coreProfile name
      (self.metricsToken request)).Maintains
        fun host => host.published .routes request.participantId ≠ none :=
    maintains_ite (fun _ => maintains_pure _) fun _ =>
      maintains_bind (kept _ (by simp) (by simp)) fun _ => kept _ (by simp) (by simp)
  exact (targets second there).mono (fun _ _ => id) (fun _ _ _ => trivial) fun _ _ => trivial

theorem cleansUp_of_unlinks (unlinks : self.dependencies.Unlinks participantId) (index : Nat) :
    self.cleansUp participantId index = true := by
  simp [cleansUp, routeTolerated, unlinks.route _, unlinks.target _]

/-- A launch that raises has taken the participant's files away just when it rolls
back, where the removals work. -/
theorem ensures_launch_files (unlinks : self.dependencies.Unlinks request.participantId)
    (issued : containerId ∈ host.engine.issued) (present : Present containerId host.engine)
    (counted : host.history.length = index)
    (untargeted : Untargeted self.config request.participantId host) :
    (self.launch request (containerName request.participantId) containerId).Ensures
      ⟨fun _ _ => True,
        fun _ after => (self.rollsBack request containerId index = true →
            Unpublished request.participantId after) ∧
          (self.dependencies.Spares containerId → Unpublished request.participantId after →
            self.rollsBack request containerId index = true),
        fun _ => True⟩ host := by
  have starts := ((startAndPublish_rollback issued present counted).and
    (ensures_routed (containerName request.participantId))).and
      (untargeted_startAndPublish (containerName request.participantId) host untargeted)
  refine ensures_bind.mpr (ensures_tryCatch.mpr (starts.mono (fun _ between facts => ?_)
    (fun error between facts => ?_) fun _ _ => trivial))
  · have ⟨⟨⟨kept, _⟩, routed⟩, _⟩ := facts
    have reading : quiet.Holds (do
        let container ← self.inspectContainer (.byId containerId)
        self.runtimeRecord container request.participantId) fun _ => True :=
      holds_bind (self.quiet_inspectContainer _) fun container _ =>
        (self.quiet_runtimeRecord container request.participantId).weaken fun _ _ => trivial
    refine (maintains_published_quiet (fun held => held ≠ none) reading between routed).mono
      (fun _ _ _ => trivial) (fun _ after still => ?_) fun _ _ => trivial
    exact ⟨fun back => by simp [kept] at back, fun _ gone => absurd gone.1 still⟩
  · have ⟨⟨⟨_, stays, either⟩, _⟩, untargeted'⟩ := facts
    have back : self.dependencies.Spares containerId →
        self.rollsBack request containerId index = true := by
      intro spares
      rw [either.resolve_left fun gone => gone (stays spares)]
      exact cleansUp_of_unlinks unlinks _
    exact ensures_bind.mpr ((ensures_cleanUp_files unlinks untargeted').mono
      (fun _ _ gone => ⟨fun _ => gone, fun spares _ => back spares⟩)
      (fun _ _ gone => ⟨fun _ => gone, fun spares _ => back spares⟩) fun _ _ => trivial)

end RuntimeService

/-! ## The creation of the container -/

/-- The identifier of the container that the call created. -/
def Event.created : Event → Option String
  | ⟨.createContainer _ _, _, _, answer⟩ => answer
  | _ => none

/-- No container was created. -/
def uncreating : Frame Host where
  Keeps before after := ∃ events, after.history = events ++ before.history ∧
    ∀ event ∈ events, event.created = none
  refl _ := ⟨[], rfl, by simp⟩
  trans := by
    intro before between after ⟨first, history, idle⟩ ⟨second, history', idle'⟩
    refine ⟨second ++ first, by rw [history', history, List.append_assoc],
      fun event member => ?_⟩
    exact (List.mem_append.mp member).elim (idle' event) (idle event)

theorem Event.created_of_call {event : Event} (other : ∀ name payload,
    event.call ≠ .createContainer name payload) : event.created = none := by
  have ⟨call, drifts, applied, answer⟩ := event
  cases call with
  | createContainer name payload => exact absurd rfl (other name payload)
  | _ => rfl

theorem uncreating_of_quiet {before after : Host} (moved : Quiet before after) :
    uncreating.Keeps before after := by
  have ⟨events, history, _, _, harmless⟩ := moved
  refine ⟨events, history, fun event member => Event.created_of_call
    fun name payload creates => ?_⟩
  have harmless' := harmless event member
  rw [creates] at harmless'
  exact absurd harmless' (by simp [Call.harmless])

theorem uncreating_quiet {α : Type} {program : AgentProgram α} {onValue : α → Prop}
    (holds : quiet.Holds program onValue) : uncreating.Holds program onValue :=
  holds.imply fun _ _ => uncreating_of_quiet

theorem uncreating_invoke {dependencies : Dependencies} {call : Call}
    (other : ∀ name payload, call ≠ .createContainer name payload) :
    uncreating.Holds (dependencies.invoke call) fun _ => True := by
  intro host
  have happens := invoke_happens dependencies call host
  revert happens
  generalize (dependencies.invoke call host).1 = outcome
  generalize (dependencies.invoke call host).2 = after
  intro happens
  have recorded : ∀ (before : Host) (event : Event), before.history = host.history →
      event.call = call → uncreating.Keeps host (before.record event) := by
    intro before event same equal
    refine ⟨[event], by rw [Host.record_history, same]; rfl, fun other' member => ?_⟩
    rw [List.mem_singleton.mp member]
    exact Event.created_of_call (equal ▸ other)
  cases happens with
  | stopped => exact ⟨uncreating.refl host, trivial⟩
  | returned => exact ⟨recorded _ _ (Call.effect_history call) rfl, trivial⟩
  | lost => exact ⟨recorded _ _ (Call.effect_history call) rfl, trivial⟩
  | refused => exact ⟨recorded _ _ rfl rfl, trivial⟩
  | failed => exact ⟨recorded _ _ rfl rfl, trivial⟩

/-- The container was just created, and the files are as they were. -/
structure JustCreated (containerId : String) (before after : Host) : Prop where
  history : ∃ event, after.history = event :: before.history ∧
    event.created = some containerId
  issued : containerId ∈ after.engine.issued
  present : Present containerId after.engine
  files : after.files = before.files

namespace RuntimeService

variable {self : RuntimeService} {request : CreateRuntimeRequest} {host : Host}

theorem ensures_creates (name : String) (payload : Payload) :
    (self.createContainer name payload).Ensures
      ⟨fun containerId after => JustCreated containerId host after,
        fun _ after => uncreating.Keeps host after, fun _ => True⟩ host := by
  refine ensures_invoke fun outcome after happens => ?_
  have recorded : ∀ (before : Host) (drifts : List Drift) (applied : Bool),
      before.history = host.history → uncreating.Keeps host
        (before.record ⟨.createContainer name payload, drifts, applied, none⟩) := by
    intro before drifts applied same
    refine ⟨[_], by rw [Host.record_history, same]; rfl, fun event member => ?_⟩
    rw [List.mem_singleton.mp member]
    rfl
  cases happens with
  | stopped => trivial
  | returned drifts containerId answers =>
      have ⟨fresh, effect⟩ := Call.answer_create answers
      refine ⟨⟨⟨.createContainer name payload, drifts, true, some containerId⟩, ?_, rfl⟩,
        ?_, ?_, ?_⟩
      · rw [Host.record_history, Call.effect_history]
        rfl
      · rw [Host.record_engine, effect]
        exact List.mem_cons_self
      · rw [Host.record_engine, effect]
        exact ⟨_, List.mem_append_right _ List.mem_cons_self, rfl⟩
      · rw [Host.record_files, effect]
        rfl
  | lost => exact recorded _ _ _ (Call.effect_history _)
  | refused => exact recorded _ _ _ rfl
  | failed => exact recorded _ _ _ rfl

/-- What `create_container` left, or that no container was created. -/
theorem ensures_createOrFind_created (name : String) (payload : Payload) :
    (self.createOrFind request name payload).Ensures
      ⟨fun created after =>
          match created with
          | .inl containerId => JustCreated containerId host after
          | .inr _ => uncreating.Keeps host after,
        fun _ after => uncreating.Keeps host after, fun _ => True⟩ host := by
  refine ensures_tryCatch.mpr (ensures_map.mpr ((ensures_creates name payload).mono (fun _ _ => id)
    (fun error after idle => ?_) fun _ => id))
  have found : uncreating.Holds (do
      let existing ← self.inspectContainer (.byName name)
      Sum.inr <$> self.existingRecord existing request error :
      AgentProgram (String ⊕ RuntimeRecord)) fun created =>
        ∃ record, created = .inr record := by
    refine holds_bind (uncreating_quiet (self.quiet_inspectContainer _)) fun existing _ => ?_
    exact holds_map (uncreating_quiet (self.quiet_existingRecord existing request error))
      fun record _ => ⟨record, rfl⟩
  refine ensures_ite.mpr ⟨fun _ => ?_, fun _ => idle⟩
  refine (found.ensures after).mono (fun created later both => ?_)
    (fun _ _ keeps => uncreating.trans idle keeps) fun _ _ => trivial
  have ⟨keeps, record, equal⟩ := both
  rw [equal]
  exact uncreating.trans idle keeps

/-- What a creation that raised after the event had created the container has taken
back, where the engine's stop and remove calls work. -/
structure RolledBack (service : RuntimeService) (request : CreateRuntimeRequest)
    (containerId : String) (index : Nat) (after : Host) : Prop where
  gone : service.rollsBack request containerId index = true → ¬Present containerId after.engine
  only : service.dependencies.Spares containerId → ¬Present containerId after.engine →
    service.rollsBack request containerId index = true
  files : service.dependencies.Unlinks request.participantId →
    (service.rollsBack request containerId index = true →
      Unpublished request.participantId after) ∧
      (service.dependencies.Spares containerId → Unpublished request.participantId after →
        service.rollsBack request containerId index = true)

/-- A creation that raises after it created a container. -/
def creationFails (service : RuntimeService) (request : CreateRuntimeRequest) (before : Host) :
    Post Host Error RuntimeRecord where
  returned _ _ := True
  raised _ after := ∀ later event earlier containerId,
    after.history = later ++ event :: earlier → before.history <:+ earlier →
      event.created = some containerId → service.dependencies.Halts containerId →
        service.RolledBack request containerId (earlier.length + 1) after
  stopped _ := True

/-- Without a creation there is nothing to take back. -/
theorem creationFails_of_uncreating {before after : Host} (error : Error)
    (idle : uncreating.Keeps before after) :
    (self.creationFails request before).raised error after := by
  intro later event earlier containerId history grown creates
  have ⟨events, history', absent⟩ := idle
  have ⟨between, parts⟩ := grown
  rw [history', ← parts, ← List.cons_append, ← List.append_assoc] at history
  have inside : event ∈ events := by
    rw [List.append_cancel_right history]
    simp
  exact absurd creates (by rw [absent event inside]; simp)

theorem ensures_launch_rolledBack {before : Host} {containerId : String}
    (unpublished : Unpublished request.participantId before)
    (moved : uncreating.Keeps before host) (files : host.files = before.files) {created : Host}
    (just : JustCreated containerId host created) :
    (self.launch request (containerName request.participantId) containerId).Ensures
      (self.creationFails request before) created := by
  have ⟨event', history', creates'⟩ := just.history
  have untargeted : Untargeted self.config request.participantId created := by
    intro _
    unfold Host.published
    rw [just.files, files]
    exact unpublished.2
  have limited : Limited self.dependencies (Call.Tends request.participantId [containerId])
      (self.launch request (containerName request.participantId) containerId) :=
    self.limited_launch (List.mem_singleton_self containerId)
  have idle :
    uncreating.Holds (self.launch request (containerName request.participantId) containerId)
      fun _ => True :=
    limited.holds (fun _ _ => uncreating_of_quiet) fun call tends => uncreating_invoke tends.creates
  have exactly : (self.launch request (containerName request.participantId) containerId).Ensures
      ⟨fun _ _ => True, fun _ after => self.dependencies.Halts containerId →
          self.RolledBack request containerId created.history.length after,
        fun _ => True⟩ created := by
    by_cases halts : self.dependencies.Halts containerId
    · have container : (self.launch request (containerName request.participantId)
          containerId).Ensures _ created :=
        ensures_launch_container halts just.issued just.present rfl
      by_cases unlinks : self.dependencies.Unlinks request.participantId
      · exact (container.and (ensures_launch_files unlinks just.issued just.present rfl
          untargeted)).mono (fun _ _ _ => trivial)
          (fun _ _ facts _ => ⟨facts.1.1, facts.1.2, fun _ => facts.2⟩) fun _ _ => trivial
      · exact container.mono (fun _ _ _ => trivial)
          (fun _ _ facts _ => ⟨facts.1, facts.2, fun works => absurd works unlinks⟩)
            fun _ _ => trivial
    · exact ensures_of_forall (fun _ _ => trivial) (fun _ _ works => absurd works halts)
        fun _ => trivial
  refine ((idle.ensures created).and exactly).mono (fun _ _ _ => trivial) (fun _ after facts => ?_)
    fun _ _ => trivial
  intro later event earlier other history grown creates halts
  have ⟨⟨events, history'', absent⟩, rolled⟩ := facts
  have ⟨first, started, absent'⟩ := moved
  have ⟨between, parts⟩ := grown
  rw [history'', history', started, ← parts] at history
  rw [← List.cons_append, ← List.append_assoc, ← List.cons_append,
    ← List.append_assoc] at history
  have ⟨sameEvent, sameParts⟩ := split_unique (List.append_cancel_right history)
    (show event.created ≠ none by simp [creates])
    (fun other member => not_not.mpr (absent other member))
    (fun other member => not_not.mpr (absent' other member))
  have sameId : containerId = other := by
    rw [sameEvent, creates] at creates'
    exact (Option.some.inj creates').symm
  have numbered : created.history.length = earlier.length + 1 := by
    rw [history', started, ← parts, sameParts, List.length_cons]
  rw [← sameId, ← numbered]
  exact rolled (sameId ▸ halts)

/-- The calls before the creation create nothing and leave the files. -/
theorem creationFails_bind {α : Type} {before : Host} {first : AgentProgram α}
    {next : α → AgentProgram RuntimeRecord} {onValue : α → Prop}
    (holds : quiet.Holds first onValue) (moved : Quiet before host)
    (rest : ∀ value, onValue value → ∀ after, Quiet before after →
      (next value).Ensures (self.creationFails request before) after) :
    (first >>= next).Ensures (self.creationFails request before) host := by
  refine ensures_bind.mpr ((holds.ensures host).mono (fun value after both => ?_)
    (fun error after keeps => ?_) fun _ _ => trivial)
  · exact rest value both.2 after (quiet.trans moved both.1)
  · exact creationFails_of_uncreating error (uncreating_of_quiet (quiet.trans moved keeps))

theorem ensures_createFresh_rolledBack {before : Host}
    (unpublished : Unpublished request.participantId before) (moved : Quiet before host)
    (romPath : PurePath.Resolved) :
    (self.createFresh request romPath (containerName request.participantId)).Ensures
      (self.creationFails request before) host := by
  unfold createFresh
  refine creationFails_bind self.quiet_listManagedRuntimes moved fun managed _ host moved => ?_
  refine creationFails_bind holds_raiseIf moved fun _ _ host moved => ?_
  refine creationFails_bind (self.quiet_claimPersistence _) moved fun _ _ host moved => ?_
  refine creationFails_bind (self.quiet_runtimeDirectory _) moved fun _ _ host moved => ?_
  refine creationFails_bind (self.quiet_writeRuntimeSpec request _) moved fun _ _ host moved => ?_
  refine creationFails_bind (self.quiet_payload request _ _ _ _ _) moved
    fun payload _ host moved => ?_
  have idle := uncreating_of_quiet moved
  have ⟨_, _, _, files, _⟩ := moved
  refine ensures_bind.mpr ((ensures_createOrFind_created _ payload).mono
    (fun created after facts => ?_) (fun error after keeps => ?_) fun _ _ => trivial)
  · cases created with
    | inl containerId => exact ensures_launch_rolledBack unpublished idle files facts
    | inr record => trivial
  · exact creationFails_of_uncreating error (uncreating.trans idle keeps)

theorem ensures_createRuntime_rolledBack {before : Host}
    (unpublished : Unpublished request.participantId before) :
    (self.createRuntime request).Ensures (self.creationFails request before) before := by
  have start : Quiet before before := quiet.refl before
  unfold createRuntime
  refine creationFails_bind (self.quiet_validateRequest request) start
    fun romPath _ host moved => ?_
  refine creationFails_bind (self.quiet_existingContainer _) moved fun existing _ host moved => ?_
  cases existing with
  | some container =>
      exact ((self.quiet_existingRecord container request _).ensures host).mono
        (fun _ _ _ => trivial)
        (fun error _ keeps => creationFails_of_uncreating error
          (uncreating_of_quiet (quiet.trans moved keeps))) fun _ _ => trivial
  | none => exact ensures_createFresh_rolledBack unpublished moved romPath

end RuntimeService

/-- A creation that raised after `create_container` returned takes the container, and
the participant's files, back just when the start or a publication raised,
`metrics_targets.remove` did not, and `routes.remove` raised nothing but `OSError`. -/
theorem failed_creation_rolls_back (agent : Agent) (before after : Host) (step : Step)
    (request : CreateRuntimeRequest) (error : Error) (creates : step.operation = .create request)
    (unpublished : Unpublished request.participantId before)
    (raised : agent.run step before = (.raised error, after))
    (later earlier : List Event) (event : Event) (containerId : String)
    (history : after.history = later ++ event :: earlier) (during : before.history <:+ earlier)
    (created : event.created = some containerId) (halts : step.dependencies.Halts containerId) :
    let service := agent.service step.dependencies
    let rolls := service.rollsBack request containerId (earlier.length + 1) = true
    (rolls → ¬Present containerId after.engine) ∧
      (step.dependencies.Spares containerId → (¬Present containerId after.engine ↔ rolls)) ∧
      (step.dependencies.Unlinks request.participantId →
        (rolls → Unpublished request.participantId after) ∧
        (step.dependencies.Spares containerId →
          (Unpublished request.participantId after ↔ rolls))) := by
  have ensures : (agent.run step).Ensures ⟨fun _ _ => True,
      ((agent.service step.dependencies).creationFails request before).raised,
      fun _ => True⟩ before := by
    rw [Agent.run, creates]
    exact ensures_map.mpr (RuntimeService.ensures_createRuntime_rolledBack unpublished)
  have facts := ensures.ofRaised (congrArg Prod.fst raised)
  rw [raised] at facts
  have ⟨gone, only, files⟩ := facts later event earlier containerId history during created halts
  refine ⟨gone, fun spares => ⟨only spares, gone⟩, fun unlinks => ?_⟩
  have ⟨clear, back⟩ := files unlinks
  exact ⟨clear, fun spares => ⟨back spares, clear⟩⟩

/-! ## Runs -/

section Example

/-- The configuration, with metrics targets. -/
def observedConfig : AgentConfig where
  toAgentFields := { exampleConfig.toAgentFields with metricsTargetRoot := some "/data/targets" }
  accepted := by decide +kernel

def observedAgent : Agent := ⟨observedConfig, .standard exampleTables⟩

/-- Containers do not start. -/
def Dependencies.unstartable : Dependencies :=
  { Dependencies.working with
    fault := fun _ call =>
      match call with
      | .startContainer _ => some ⟨.engine "Docker Engine connection failed: timed out", false⟩
      | _ => none
    lawful := by
      intro _ call fault' equal
      cases call with
      | startContainer containerId => exact Option.some.inj equal ▸ rfl
      | _ => simp at equal }

/-- Containers do not start, and the target directory refuses removals. -/
def Dependencies.unremovable : Dependencies :=
  { Dependencies.working with
    fault := fun index call =>
      match call with
      | .unlink .targets _ => some ⟨.os "Permission denied", false⟩
      | _ => Dependencies.unstartable.fault index call
    lawful := by
      intro index call fault' equal
      cases call with
      | unlink registry participantId =>
          cases registry with
          | targets => exact Option.some.inj equal ▸ rfl
          | routes => simp [unstartable] at equal
      | startContainer containerId => exact Option.some.inj equal ▸ rfl
      | _ => simp [unstartable] at equal }

/-- The identifier that the engine gives the container. -/
def exampleContainerId :
    String := "000000000000000000000000000000000000000000000000000000000000001b"

/-- A creation on the empty host whose container does not start. -/
def unstarted : Host := (observedAgent.run ⟨.create exampleRequest, .unstartable⟩ Host.empty).2

/-- The rollback removes the container and the files. -/
theorem failed_creation_removes : ¬Present exampleContainerId unstarted.engine ∧
    Unpublished exampleRequest.participantId unstarted := by
  have ⟨bound, raised, created, rolls⟩ : 5 < unstarted.history.length ∧
      (observedAgent.run ⟨.create exampleRequest, .unstartable⟩ Host.empty).1 =
        .raised (.engine "Docker Engine connection failed: timed out") ∧
      (∀ bound : 5 < unstarted.history.length,
        unstarted.history[5].created = some exampleContainerId) ∧
      (observedAgent.service .unstartable).rollsBack exampleRequest exampleContainerId
        ((unstarted.history.drop 6).length + 1) = true := by decide +kernel
  have history : unstarted.history = unstarted.history.take 5 ++
      unstarted.history[5] :: unstarted.history.drop 6 := by
    rw [List.getElem_cons_drop, List.take_append_drop]
  have ran : observedAgent.run ⟨.create exampleRequest, .unstartable⟩ Host.empty =
      (.raised (.engine "Docker Engine connection failed: timed out"), unstarted) := by
    rw [← raised, unstarted]
  have ⟨gone, _, files⟩ := failed_creation_rolls_back observedAgent Host.empty unstarted
    ⟨.create exampleRequest, .unstartable⟩ exampleRequest _ rfl ⟨rfl, rfl⟩ ran
    _ _ _ exampleContainerId history List.nil_suffix (created bound)
    ⟨fun _ => rfl, fun _ => rfl⟩
  exact ⟨gone rolls, (files ⟨fun _ => rfl, fun _ => rfl⟩).1 rolls⟩

/-- The same where the target cannot be removed. -/
def unremoved : Host := (observedAgent.run ⟨.create exampleRequest, .unremovable⟩ Host.empty).2

/-- The rollback stops at `metrics_targets.remove`, and the container stays. -/
theorem failed_creation_leaks :
    Unpublished exampleRequest.participantId Host.empty ∧
      Dependencies.unremovable.Halts exampleContainerId ∧
      (observedAgent.run ⟨.create exampleRequest, .unremovable⟩ Host.empty).1 =
        .raised (.os "Permission denied") ∧
      (∃ event ∈ unremoved.history, event.created = some exampleContainerId) ∧
      Present exampleContainerId unremoved.engine := by
  refine ⟨⟨rfl, rfl⟩, ⟨fun _ => rfl, fun _ => rfl⟩, ?_⟩
  decide +kernel

end Example

end RetroBrowser.RuntimeAgent
