import RetroBrowser.RuntimeAgent.Properties.Saves

/-!
Owns what a successful creation promises: the participant's container has been
started and its route is published, whether the call made the container itself
or found it. The promise needs every earlier creation of the participant to have
settled: to have published its container, to have taken it away again, or never
to have made one.

Contract: between two operations a participant is `Ready`; the invariant is kept
by every operation but a creation that does not settle, and holds again once the
container is gone.
-/

namespace RetroBrowser.RuntimeAgent

open RetroBrowser.Foundation
open RetroBrowser.Foundation.Program

/-! ## Hosts that go on -/

/-- From `before` to `after` containers were lost at most, the history grew and
the participant's route file stayed as it was. -/
structure Continues (participantId : UUID) (before after : Host) : Prop where
  containers : before.engine.Within after.engine
  history : before.history <:+ after.history
  route : after.published .routes participantId = before.published .routes participantId

/-- The fact lasts while the host goes on. -/
def Steady (participantId : UUID) (fact : Host → Prop) : Prop :=
  ∀ before after, Continues participantId before after → fact before → fact after

section Continues

variable {participantId : UUID} {dependencies : Dependencies} {call : Call} {host after : Host}

theorem continues_of_quiet {before after : Host} (moved : Quiet before after) :
    Continues participantId before after := by
  obtain ⟨events, history, engine, files, -⟩ := moved
  refine ⟨?_, ⟨events, history.symm⟩, ?_⟩
  · rw [engine]
    exact Engine.within_drifted before.engine _
  · rw [Host.published, Host.published, files]

/-- The participant's file in a registry is written by two calls only. -/
theorem Call.published_effect {index : Nat} {registry : Registry}
    (replaces : call ≠ .replace registry participantId)
    (unlinks : call ≠ .unlink registry participantId) :
    (call.effect dependencies index host).published registry participantId =
      host.published registry participantId := by
  unfold Host.published
  by_cases harmless : call.harmless = true
  · rw [(effect_harmless harmless).2]
  have named : ∀ owner, registry.fileName participantId ≠ Registry.temporaryName owner :=
    fun owner => registry.fileName_ne_temporaryName participantId owner
  cases call with
  | createContainer name payload =>
      simp only [effect]
      split <;> rfl
  | startContainer | stopContainer | removeContainer => rfl
  | write other owner document =>
      by_cases same : registry = other
      · subst same
        simp only [effect, Host.withFiles_files_self, AList.lookup_insert_ne (named owner)]
      · rw [effect, Host.withFiles_files_other _ _ _ same]
  | replace other owner =>
      simp only [effect]
      split
      · rfl
      · by_cases same : registry = other
        · subst same
          have differs : registry.fileName participantId ≠ registry.fileName owner :=
            fun equal => replaces (by rw [registry.fileName_injective equal])
          rw [Host.withFiles_files_self, AList.lookup_insert_ne differs,
            AList.lookup_erase_ne (named owner)]
        · rw [Host.withFiles_files_other _ _ _ same]
  | unlink other owner =>
      by_cases same : registry = other
      · subst same
        have differs : registry.fileName participantId ≠ registry.fileName owner :=
          fun equal => unlinks (by rw [registry.fileName_injective equal])
        rw [effect, Host.withFiles_files_self, AList.lookup_erase_ne differs]
      · rw [effect, Host.withFiles_files_other _ _ _ same]
  | _ => exact absurd rfl harmless

theorem continues_drifted (drifts : List Drift) (applied : Bool) (answer : Option call.Answer) :
    Continues participantId host
      ((host.drifted drifts).record ⟨call, drifts, applied, answer⟩) :=
  ⟨Engine.within_drifted host.engine drifts, List.suffix_cons _ _, rfl⟩

/-- Every call but `create_container` only loses containers, and is recorded. -/
theorem within_of_happens {outcome : Outcome Error call.Answer}
    (creates : ∀ name payload, call ≠ .createContainer name payload)
    (happens : Happens dependencies call host outcome after) :
    host.engine.Within after.engine ∧ host.history <:+ after.history := by
  have worked : ∀ drifts answer, host.engine.Within
      ((call.effect dependencies host.history.length (host.drifted drifts)).record
        ⟨call, drifts, true, answer⟩).engine ∧ host.history <:+
      ((call.effect dependencies host.history.length (host.drifted drifts)).record
        ⟨call, drifts, true, answer⟩).history := by
    intro drifts answer
    have kept : (host.drifted drifts).engine.Within
        (call.effect dependencies host.history.length (host.drifted drifts)).engine :=
      Call.within_effect creates
    refine ⟨(Engine.within_drifted host.engine drifts).trans kept, ?_⟩
    rw [Host.record_history, Call.effect_history]
    exact List.suffix_cons _ _
  have idle : ∀ drifts : List Drift, host.engine.Within (host.drifted drifts).engine ∧
      host.history <:+ ((host.drifted drifts).record ⟨call, drifts, false, none⟩).history :=
    fun drifts => ⟨Engine.within_drifted host.engine drifts, List.suffix_cons _ _⟩
  cases happens with
  | stopped => exact ⟨Engine.Within.refl _, List.suffix_refl _⟩
  | returned drifts => exact worked drifts _
  | lost drifts => exact worked drifts none
  | refused drifts => exact idle drifts
  | failed drifts => exact idle drifts

/-- All calls but three go on. -/
theorem continues_of_happens {outcome : Outcome Error call.Answer}
    (creates : ∀ name payload, call ≠ .createContainer name payload)
    (replaces : call ≠ .replace .routes participantId)
    (unlinks : call ≠ .unlink .routes participantId)
    (happens : Happens dependencies call host outcome after) :
    Continues participantId host after := by
  obtain ⟨within, grows⟩ := within_of_happens creates happens
  refine ⟨within, grows, ?_⟩
  cases happens with
  | returned drifts | lost drifts => exact Call.published_effect replaces unlinks
  | _ => rfl

variable {fact : Host → Prop}

theorem Steady.undisturbed (steady : Steady participantId fact) : Undisturbed fact :=
  fun before after moved => steady before after (continues_of_quiet moved)

theorem Steady.maintains_invoke (steady : Steady participantId fact)
    (creates : ∀ name payload, call ≠ .createContainer name payload)
    (replaces : call ≠ .replace .routes participantId)
    (unlinks : call ≠ .unlink .routes participantId) :
    (dependencies.invoke call).Maintains fact := fun host holds =>
  ensures_invoke fun outcome after happens => by
    have kept := steady host after (continues_of_happens creates replaces unlinks happens) holds
    cases outcome <;> exact kept

end Continues

/-! ## Names and identifiers -/

/-- No container has the name. -/
def Gone (name : String) (engine : Engine) : Prop :=
  ∀ container ∈ engine.containers, container.name ≠ name

/-- Only the container with this identifier may have the name. -/
def OnlyBy (name containerId : String) (engine : Engine) : Prop :=
  ∀ container ∈ engine.containers, container.name = name → container.containerId = containerId

theorem gone_survives (name : String) : Survives (Gone name) := by
  intro before after within gone container member
  obtain ⟨earlier, earlierMember, same⟩ := within.containers container member
  rw [← same.name]
  exact gone earlier earlierMember

theorem onlyBy_survives (name containerId : String) : Survives (OnlyBy name containerId) := by
  intro before after within only container member named
  obtain ⟨earlier, earlierMember, same⟩ := within.containers container member
  rw [← same.containerId]
  exact only earlier earlierMember (same.name.trans named)

theorem Engine.find?_none {engine : Engine} {reference : Reference}
    (missing : engine.find? reference = none) {container : Container}
    (member : container ∈ engine.containers) : reference.matches container = false := by
  simpa using List.find?_eq_none.mp missing container member

theorem gone_of_missing {engine : Engine} {name : String}
    (missing : engine.find? (.byName name) = none) : Gone name engine := by
  intro container member
  simpa [Reference.matches] using Engine.find?_none missing member

/-- Without the only container there is none with the name. -/
theorem OnlyBy.gone {engine : Engine} {name containerId : String}
    (only : OnlyBy name containerId engine)
    (missing : ∀ container ∈ engine.containers, container.containerId ≠ containerId) :
    Gone name engine :=
  fun container member named => missing container member (only container member named)

theorem OnlyBy.gone_of_missing {engine : Engine} {name containerId : String}
    (only : OnlyBy name containerId engine)
    (missing : engine.find? (.byId containerId) = none) : Gone name engine :=
  only.gone fun container member => by
    simpa [Reference.matches] using Engine.find?_none missing member

theorem OnlyBy.gone_discard {engine : Engine} {name containerId : String}
    (only : OnlyBy name containerId engine) : Gone name (engine.discard containerId) := by
  intro container member named
  obtain ⟨before, differs⟩ := Engine.mem_discard.mp member
  exact differs (only container before named)

namespace RuntimeService

variable (self : RuntimeService)

/-- An inspection by name shows the container of that name, or that there is none. -/
theorem ensures_inspectName (name : String) (host : Host) :
    (self.inspectContainer (.byName name)).Ensures
      ⟨fun record after => OnlyBy name record.containerId after.engine ∧
          ∃ container ∈ after.engine.containers, container.name = name ∧
            container.toContainerRecord = record,
        fun error after => error.isNotFound = true → Gone name after.engine,
        fun _ => True⟩ host := by
  refine ensures_invoke fun outcome after happens => ?_
  cases happens with
  | stopped => trivial
  | returned drifts record answered =>
      obtain ⟨container, found, rfl⟩ := Call.answer_inspect answered
      have member := Engine.find?_mem found
      have named := Engine.find?_name found
      refine ⟨fun other otherMember otherNamed => ?_, container, member, named, rfl⟩
      rw [Engine.eq_of_name otherMember member (otherNamed.trans named.symm)]
  | lost drifts error value answered allowed =>
      intro missing
      cases error <;> simp [Call.mayRaise, Error.isNotFound] at allowed missing
  | refused drifts error answered =>
      exact fun _ => gone_of_missing (Call.onContainer_error answered).1
  | failed drifts error allowed =>
      intro missing
      cases error <;> simp [Call.mayRaise, Error.isNotFound] at allowed missing

end RuntimeService

/-! ## Ready participants -/

/-- A start of the container took effect. -/
def Host.Started (host : Host) (containerId : String) : Prop :=
  ∃ event ∈ host.history, event.call = .startContainer containerId ∧ event.applied = true

instance (host : Host) (containerId : String) : Decidable (host.Started containerId) :=
  inferInstanceAs (Decidable (∃ event ∈ host.history, _ ∧ _))

theorem Host.Started.grows {before after : Host} {containerId : String}
    (started : before.Started containerId) (grows : before.history <:+ after.history) :
    after.Started containerId := by
  obtain ⟨event, member, starts⟩ := started
  exact ⟨event, grows.subset member, starts⟩

namespace RuntimeService

variable (self : RuntimeService) (participantId : UUID)

/-- The participant's route is published for the subfolder in these labels. -/
def Routed (labels : Labels) (host : Host) : Prop :=
  ∃ subfolder, labels.lookup subfolderLabel = some subfolder ∧
    host.published .routes participantId =
      some (.route (self.route participantId subfolder (containerName participantId)))

/-- The participant's container, if there is one, has been started and is routed. -/
def Ready (host : Host) : Prop :=
  ∀ container ∈ host.engine.containers, container.name = containerName participantId →
    OwnedBy participantId container.labels →
      host.Started container.containerId ∧ self.Routed participantId container.labels host

theorem Routed.continues {self : RuntimeService} {participantId : UUID} {labels : Labels}
    {before after : Host} (routed : self.Routed participantId labels before)
    (continues : Continues participantId before after) :
    self.Routed participantId labels after := by
  obtain ⟨subfolder, labelled, published⟩ := routed
  exact ⟨subfolder, labelled, continues.route.trans published⟩

theorem ready_steady : Steady participantId (self.Ready participantId) := by
  intro before after continues ready container member named owned
  obtain ⟨earlier, earlierMember, same⟩ := continues.containers.containers container member
  rw [← same.labels] at owned ⊢
  rw [← same.containerId]
  obtain ⟨started, routed⟩ := ready earlier earlierMember (same.name.trans named) owned
  exact ⟨started.grows continues.history, routed.continues continues⟩

theorem ready_of_gone {host : Host} (gone : Gone (containerName participantId) host.engine) :
    self.Ready participantId host :=
  fun container member named => absurd named (gone container member)

variable {self participantId}

/-! ## Stopping and removing keep participants ready -/

theorem stopRuntime_maintains_ready :
    (self.stopRuntime participantId).Maintains (self.Ready participantId) := by
  have steady := self.ready_steady participantId
  refine maintains_bind ((self.quiet_inspectContainer _).maintains steady.undisturbed)
    fun container => ?_
  refine maintains_bind ((quiet_requireOwned container participantId).maintains steady.undisturbed)
    fun _ => ?_
  refine maintains_bind (steady.maintains_invoke (by simp) (by simp) (by simp)) fun _ => ?_
  refine maintains_bind ((self.quiet_inspectContainer _).maintains steady.undisturbed)
    fun stopped => ?_
  exact (self.quiet_runtimeRecord stopped participantId).maintains steady.undisturbed

/-- Without a container nothing has to be published. -/
theorem unpublish_keeps_gone {host : Host}
    (gone : Gone (containerName participantId) host.engine) :
    (self.unpublish participantId).Ensures
      (Post.always fun after => Gone (containerName participantId) after.engine) host := by
  have limited : Limited self.dependencies (Call.Tends participantId [])
      (self.unpublish participantId) := self.limited_unpublish
  exact (gone_survives _).limited limited (fun _ tends => tends.creates) host gone

/-- A removal that takes effect, or whose container is gone, leaves none of the name. -/
theorem removeContainer_gone {name containerId : String} {host : Host}
    (only : OnlyBy name containerId host.engine) :
    (self.removeContainer containerId).Ensures
      ⟨fun _ after => Gone name after.engine, fun _ _ => True, fun _ => True⟩ host := by
  refine ensures_invoke fun outcome after happens => ?_
  cases happens with
  | returned drifts =>
      have drifted :=
        onlyBy_survives name containerId _ _ (Engine.within_drifted host.engine drifts) only
      exact drifted.gone_discard
  | _ => trivial

theorem removeRuntime_maintains_ready :
    (self.removeRuntime participantId).Maintains (self.Ready participantId) := by
  intro host ready
  have steady := self.ready_steady participantId
  have inspected := ((self.quiet_inspectContainer (.byName (containerName participantId))).maintains
    steady.undisturbed host ready).and (self.ensures_inspectName _ host)
  refine ensures_bind.mpr (ensures_tryCatch.mpr (inspected.mono (fun container after both => ?_)
    (fun error after both => ?_) fun _ both => both.1))
  · obtain ⟨ready, only, -⟩ := both
    refine ensures_bind.mpr (ensures_requireOwned (fun _ => ?_) fun _ => ready)
    have ready' : (Program.runIf (container.state = .running)
        (self.stopContainer container.containerId)).Maintains fun host =>
          self.Ready participantId host :=
      maintains_runIf fun _ => steady.maintains_invoke (by simp) (by simp) (by simp)
    have only' : (Program.runIf (container.state = .running)
        (self.stopContainer container.containerId)).Maintains fun host =>
          OnlyBy (containerName participantId) container.containerId host.engine :=
      maintains_runIf fun _ => (onlyBy_survives _ _).maintains_invoke (by simp)
    refine ensures_bind.mpr (((ready' after ready).and (only' after only)).mono
      (fun _ stopped both => ?_) (fun _ _ both => both.1) fun _ both => both.1)
    have removed : (self.removeContainer container.containerId).Maintains
        (self.Ready participantId) := steady.maintains_invoke (by simp) (by simp) (by simp)
    refine ensures_bind.mpr (((removed stopped both.1).and (removeContainer_gone both.2)).mono
      (fun _ later both => ?_) (fun _ _ both => both.1) fun _ both => both.1)
    exact (unpublish_keeps_gone both.2).mono (fun _ _ => self.ready_of_gone participantId)
      (fun _ _ => self.ready_of_gone participantId) fun _ => self.ready_of_gone participantId
  · refine ensures_bind.mpr (ensures_runIf.mpr ⟨fun missing => ?_, fun _ => both.1⟩)
    exact (unpublish_keeps_gone (both.2 missing)).mono (fun _ _ => self.ready_of_gone participantId)
      (fun _ _ => self.ready_of_gone participantId) fun _ => self.ready_of_gone participantId

end RuntimeService

/-! ## Plans of a creation -/

namespace Dependencies

variable (dependencies : Dependencies)

/-- The process does not stop before the call. -/
def GoesOn (call : Call) : Prop := ∀ index, dependencies.stops index call = false

/-- The call is not made to raise. -/
def Faultless (call : Call) : Prop := ∀ index, dependencies.fault index call = none

/-- Where the call is made to raise, its effect takes place all the same. -/
def Lasting (call : Call) : Prop :=
  ∀ index fault, dependencies.fault index call = some fault → fault.applied = true

/-- Where the call is made to raise, it has no effect. -/
def Clean (call : Call) : Prop :=
  ∀ index fault, dependencies.fault index call = some fault → fault.applied = false

/-- The call has no effect: the process stops before it, or it raises without effect. -/
def Idle (call : Call) : Prop :=
  ∀ index, dependencies.stops index call = true ∨
    ∃ fault, dependencies.fault index call = some fault ∧ fault.applied = false

/-- Where the call is made to raise, the handler around it goes on. -/
def Tolerated (call : Call) (handled : Error → Bool) : Prop :=
  ∀ index fault, dependencies.fault index call = some fault → handled fault.error = true

variable (participantId : UUID)

/-- The creation starts the container and publishes its route, and no clean-up
takes the route away. -/
structure Publishes : Prop where
  starts : ∀ containerId, dependencies.GoesOn (.startContainer containerId) ∧
    dependencies.Faultless (.startContainer containerId)
  writes : ∀ document, dependencies.GoesOn (.write .routes participantId document) ∧
    dependencies.Faultless (.write .routes participantId document)
  replaces : dependencies.GoesOn (.replace .routes participantId) ∧
    dependencies.Lasting (.replace .routes participantId)
  keeps : dependencies.Idle (.unlink .routes participantId)

/-- Whatever fails after the container was created, the clean-up runs to its end
and removes the container. -/
structure CleansUp : Prop where
  goesOn : ∀ call, (∃ known, Call.Tends participantId known call) → dependencies.GoesOn call
  target : dependencies.Faultless (.unlink .targets participantId)
  route : dependencies.Tolerated (.unlink .routes participantId) Error.isOSError
  stop : ∀ containerId,
    dependencies.Tolerated (.stopContainer containerId) Error.isRuntimeAgentError
  remove : ∀ containerId, dependencies.Lasting (.removeContainer containerId)

/-- The creation leaves no container behind that is not started and published. -/
def Settles : Prop :=
  (∀ name payload, dependencies.Idle (.createContainer name payload)) ∨
    (∀ name payload, dependencies.Clean (.createContainer name payload)) ∧
      (dependencies.Publishes participantId ∨ dependencies.CleansUp participantId)

/-- `create_container` raises `ConflictError` although it created the container. -/
def Conflicted : Prop :=
  ∃ index name payload message, dependencies.fault index (.createContainer name payload) =
    some ⟨.conflict message, true⟩

variable {dependencies}

/-- Where nothing fails, every creation settles. -/
theorem settles_of_faultless (goesOn : ∀ call, dependencies.GoesOn call)
    (faultless : ∀ call, dependencies.Faultless call) :
    ¬dependencies.Conflicted ∧ ∀ participantId, dependencies.Settles participantId := by
  have never : ∀ call index fault, dependencies.fault index call ≠ some fault := by
    intro call index fault raises
    rw [faultless call index] at raises
    exact absurd raises (by simp)
  refine ⟨fun ⟨index, name, payload, message, raises⟩ => never _ _ _ raises,
    fun participantId => ?_⟩
  have cleansUp : dependencies.CleansUp participantId :=
    { goesOn := fun call _ => goesOn call
      target := faultless _
      route := fun index fault raises => absurd raises (never _ _ _)
      stop := fun containerId index fault raises => absurd raises (never _ _ _)
      remove := fun containerId index fault raises => absurd raises (never _ _ _) }
  exact Or.inr ⟨fun name payload index fault raises => absurd raises (never _ _ _),
    Or.inr cleansUp⟩

end Dependencies

/-! ## What a plan rules out -/

section Plans

variable {dependencies : Dependencies} {call : Call} {host : Host}

/-- A call raises only where the plan or the host says so, and stops only where
the plan says so. -/
theorem ensures_plan (dependencies : Dependencies) (call : Call) (host : Host) :
    (dependencies.invoke call).Ensures
      ⟨fun _ _ => True, fun _ _ => dependencies.Faultless call → ∃ index before refusal,
          call.answer dependencies index before = .error refusal,
        fun _ => ¬dependencies.GoesOn call⟩ host := by
  refine ensures_invoke fun outcome after happens => ?_
  cases happens with
  | stopped stops => exact fun goesOn => by simp [goesOn _] at stops
  | returned => trivial
  | lost drifts error value answers allowed goesOn plan =>
      exact fun faultless => by simp [faultless _] at plan
  | refused drifts error answers => exact fun _ => ⟨_, _, error, answers⟩
  | failed drifts error allowed goesOn applied plan =>
      exact fun faultless => by simp [faultless _] at plan

/-- An idle call leaves a steady fact as it is, whatever the call is. -/
theorem Steady.idle {participantId : UUID} {fact : Host → Prop}
    (steady : Steady participantId fact)
    (idle : dependencies.Idle call) : (dependencies.invoke call).Maintains fact := fun host holds =>
  ensures_invoke fun outcome after happens => by
    have drifted : ∀ (drifts : List Drift) answer,
        fact ((host.drifted drifts).record ⟨call, drifts, false, answer⟩) :=
      fun drifts answer => steady host _ (continues_drifted drifts false answer) holds
    have never : ∀ error, dependencies.stops host.history.length call = false →
        dependencies.fault host.history.length call ≠ some ⟨error, true⟩ := by
      intro error goesOn plan
      rcases idle host.history.length with stops | ⟨fault, plan', unapplied⟩
      · simp [goesOn] at stops
      · simp [plan] at plan'
        simp [← plan'] at unapplied
    cases happens with
    | stopped => exact holds
    | returned drifts value answers goesOn plan =>
        rcases idle host.history.length with stops | ⟨fault, plan', unapplied⟩
        · simp [goesOn] at stops
        · simp [plan] at plan'
    | lost drifts error value answers allowed goesOn plan => exact absurd plan (never error goesOn)
    | refused drifts => exact drifted drifts none
    | failed drifts => exact drifted drifts none

end Plans

/-! ## Starting and publishing -/

/-- Only the container with this identifier has the name, and the other way
round, and its label names the subfolder. -/
def Held (name containerId subfolder : String) (engine : Engine) : Prop :=
  ∀ container ∈ engine.containers, container.name = name ∨
    container.containerId = containerId →
    container.containerId = containerId ∧ container.labels.lookup subfolderLabel = some subfolder

theorem held_survives (name containerId subfolder : String) :
    Survives (Held name containerId subfolder) := by
  intro before after within held container member either
  obtain ⟨earlier, earlierMember, same⟩ := within.containers container member
  rw [← same.containerId, ← same.labels]
  refine held earlier earlierMember ?_
  rw [same.name, same.containerId]
  exact either

theorem Held.onlyBy {name containerId subfolder : String} {engine : Engine}
    (held : Held name containerId subfolder engine) : OnlyBy name containerId engine :=
  fun container member named => (held container member (Or.inl named)).1

/-- The container of the name has been started. -/
structure HeldStarted (name containerId subfolder : String) (host : Host) : Prop where
  held : Held name containerId subfolder host.engine
  started : host.Started containerId

theorem HeldStarted.later {name containerId subfolder : String} {before after : Host}
    (fact : HeldStarted name containerId subfolder before)
    (later : before.engine.Within after.engine ∧ before.history <:+ after.history) :
    HeldStarted name containerId subfolder after :=
  ⟨held_survives name containerId subfolder _ _ later.1 fact.held, fact.started.grows later.2⟩

/-- Every call but `create_container` keeps it so. -/
theorem heldStarted_maintains {name containerId subfolder : String} {dependencies : Dependencies}
    {call : Call} (creates : ∀ name payload, call ≠ .createContainer name payload) :
    (dependencies.invoke call).Maintains (HeldStarted name containerId subfolder) :=
  fun host fact => ensures_invoke fun outcome after happens => by
    have kept := fact.later (within_of_happens creates happens)
    cases outcome <;> exact kept

namespace RuntimeService

variable (self : RuntimeService) {request : CreateRuntimeRequest} {containerId : String}

/-- The container of a request has been started and its route is published. -/
structure Launched (service : RuntimeService) (request : CreateRuntimeRequest)
    (containerId : String) (host : Host) : Prop where
  fact : HeldStarted (containerName request.participantId) containerId request.streamSubfolder host
  routed : host.published .routes request.participantId = some (.route
    (service.route request.participantId request.streamSubfolder
      (containerName request.participantId)))

variable {self}

theorem launched_steady : Steady request.participantId (self.Launched request containerId) :=
  fun _ _ continues launched =>
    ⟨launched.fact.later ⟨continues.containers, continues.history⟩,
      continues.route.trans launched.routed⟩

theorem Launched.ready {host : Host} (launched : self.Launched request containerId host) :
    self.Ready request.participantId host := by
  intro container member named _
  obtain ⟨identity, labelled⟩ := launched.fact.held container member (Or.inl named)
  rw [identity]
  exact ⟨launched.fact.started, request.streamSubfolder, labelled, launched.routed⟩

/-- The start takes effect, or the plan makes it fail, or the container is gone. -/
theorem ensures_startContainer {name subfolder : String} {host : Host}
    (held : Held name containerId subfolder host.engine) :
    (self.startContainer containerId).Ensures
      ⟨fun _ after => HeldStarted name containerId subfolder after,
        fun _ after => Held name containerId subfolder after.engine ∧
          (self.dependencies.Faultless (.startContainer containerId) → Gone name after.engine),
        fun after => Held name containerId subfolder after.engine ∧
          ¬self.dependencies.GoesOn (.startContainer containerId)⟩ host := by
  refine ensures_invoke fun outcome after happens => ?_
  have survives := held_survives name containerId subfolder
  have drifted : ∀ drifts : List Drift,
      Held name containerId subfolder (host.drifted drifts).engine :=
    fun drifts => survives _ _ (Engine.within_drifted host.engine drifts) held
  have worked : ∀ drifts : List Drift, Held name containerId subfolder
      ((Call.startContainer containerId).effect self.dependencies host.history.length
        (host.drifted drifts)).engine := fun drifts =>
    survives _ _ (Call.within_effect (by simp)) (drifted drifts)
  cases happens with
  | stopped stops => exact ⟨held, fun goesOn => by simp [goesOn _] at stops⟩
  | returned drifts value => exact ⟨worked drifts, _, List.mem_cons_self, rfl, rfl⟩
  | lost drifts error value answers allowed goesOn plan =>
      exact ⟨worked drifts, fun faultless => by simp [faultless _] at plan⟩
  | refused drifts error answers =>
      exact ⟨drifted drifts, fun _ =>
        (drifted drifts).onlyBy.gone_of_missing (Call.onContainer_error answers).1⟩
  | failed drifts error allowed goesOn applied plan =>
      exact ⟨drifted drifts, fun faultless => by simp [faultless _] at plan⟩

/-- The temporary file holds the document. -/
def Written (participantId : UUID) (document : Document) (host : Host) : Prop :=
  (host.files .routes).lookup (Registry.temporaryName participantId) = some document

theorem ensures_writeRoute {participantId : UUID} (document : Document) (host : Host) :
    (self.dependencies.invoke (.write .routes participantId document)).Ensures
      ⟨fun _ after => Written participantId document after,
        fun _ _ => ¬self.dependencies.Faultless (.write .routes participantId document),
        fun _ => ¬self.dependencies.GoesOn (.write .routes participantId document)⟩ host := by
  refine ensures_invoke fun outcome after happens => ?_
  cases happens with
  | stopped stops => exact fun goesOn => by simp [goesOn _] at stops
  | returned drifts value =>
      have holds : (((host.drifted drifts).withFiles .routes
          (((host.drifted drifts).files .routes).insert (Registry.temporaryName participantId)
            document)).files .routes).lookup (Registry.temporaryName participantId) =
              some document := by
        rw [Host.withFiles_files_self]
        exact AList.lookup_insert _
      exact holds
  | lost drifts error value answers allowed goesOn plan =>
      exact fun faultless => by simp [faultless _] at plan
  | refused drifts error answers => simp [Call.answer] at answers
  | failed drifts error allowed goesOn applied plan =>
      exact fun faultless => by simp [faultless _] at plan

theorem ensures_replaceRoute {participantId : UUID} {document : Document} {host : Host}
    (written : Written participantId document host) :
    (self.dependencies.invoke (.replace .routes participantId)).Ensures
      ⟨fun _ after => after.published .routes participantId = some document,
        fun _ after => self.dependencies.Lasting (.replace .routes participantId) →
          after.published .routes participantId = some document,
        fun _ => ¬self.dependencies.GoesOn (.replace .routes participantId)⟩ host := by
  refine ensures_invoke fun outcome after happens => ?_
  have worked : ∀ drifts : List Drift,
      ((Call.replace .routes participantId).effect self.dependencies host.history.length
        (host.drifted drifts)).published .routes participantId = some document := by
    intro drifts
    have held : ((host.drifted drifts).files .routes).lookup
        (Registry.temporaryName participantId) = some document := written
    rw [Host.published, Call.effect, held]
    dsimp only
    rw [Host.withFiles_files_self]
    exact AList.lookup_insert _
  have answers : ∀ (drifts : List Drift) refusal,
      (Call.replace .routes participantId).answer self.dependencies host.history.length
        (host.drifted drifts) ≠ .error refusal := by
    intro drifts refusal
    have held : ((host.drifted drifts).files .routes).lookup
        (Registry.temporaryName participantId) = some document := written
    rw [Call.answer, held]
    simp [Call.onFile, Except.map]
  cases happens with
  | stopped stops => exact fun goesOn => by simp [goesOn _] at stops
  | returned drifts => exact worked drifts
  | lost drifts => exact fun _ => worked drifts
  | refused drifts error refused => exact absurd refused (answers drifts error)
  | failed drifts error allowed goesOn applied plan without =>
      intro lasting
      obtain ⟨refusal, refused⟩ := without (lasting _ _ plan)
      exact absurd refused (answers drifts refusal)

/-- A route that is published stays so while the metrics target is written. -/
theorem ensures_metricsPublish {host : Host} (launched : self.Launched request containerId host)
    (name : String) :
    (self.metricsPublish request.participantId request.sessionId request.coreProfile name
      (self.metricsToken request)).Ensures
      ⟨fun _ => self.Launched request containerId, fun _ => self.Launched request containerId,
        fun after => self.Launched request containerId after ∧
          ¬self.dependencies.CleansUp request.participantId⟩ host := by
  have step : ∀ call, Call.Tends request.participantId [] call →
      call ≠ .replace .routes request.participantId →
        call ≠ .unlink .routes request.participantId →
      ∀ before, self.Launched request containerId before →
        (self.dependencies.invoke call).Ensures
          ⟨fun _ => self.Launched request containerId, fun _ => self.Launched request containerId,
            fun after => self.Launched request containerId after ∧
              ¬self.dependencies.CleansUp request.participantId⟩ before := by
    intro call tends replaces unlinks before launched
    have kept : (self.dependencies.invoke call).Maintains (self.Launched request containerId) :=
      launched_steady.maintains_invoke tends.creates replaces unlinks
    exact ((kept before launched).and (ensures_plan self.dependencies call before)).mono
      (fun _ _ both => both.1)
      (fun _ _ both => both.1) fun _ both =>
        ⟨both.1, fun cleansUp => both.2 (cleansUp.goesOn call ⟨[], tends⟩)⟩
  refine ensures_ite.mpr ⟨fun _ => launched, fun _ => ?_⟩
  refine ensures_bind.mpr ((step (.write .targets request.participantId _) rfl (by simp) (by simp)
    host launched).mono (fun _ after launched => ?_) (fun _ _ => id) fun _ => id)
  exact step (.replace .targets request.participantId) rfl (by simp) (by simp) after launched

/-- Publishing the route of a container that has been started. -/
theorem ensures_routesPublish {host : Host}
    (fact : HeldStarted (containerName request.participantId) containerId request.streamSubfolder
      host) :
    (self.routesPublish request.participantId request.streamSubfolder
      (containerName request.participantId)).Ensures
      ⟨fun _ => self.Launched request containerId,
        fun _ after =>
          Held (containerName request.participantId) containerId request.streamSubfolder
            after.engine ∧
          (self.dependencies.Publishes request.participantId →
            self.Ready request.participantId after),
        fun after => (self.dependencies.Publishes request.participantId →
            self.Ready request.participantId after) ∧
          ¬self.dependencies.CleansUp request.participantId⟩ host := by
  have writes := (heldStarted_maintains (by simp) host fact).and
    (@ensures_writeRoute self request.participantId (.route (self.route
      request.participantId request.streamSubfolder (containerName request.participantId))) host)
  refine ensures_bind.mpr (writes.mono (fun _ written both => ?_) (fun _ after both => ?_)
    fun after both => ?_)
  · have replaces := (heldStarted_maintains (by simp) written both.1).and
      (@ensures_replaceRoute self _ _ _ both.2)
    refine replaces.mono (fun _ after both => ⟨both.1, both.2⟩) (fun _ after both => ?_)
      fun after both => ?_
    · refine ⟨both.1.held, fun publishes => ?_⟩
      have launched : self.Launched request containerId after :=
        ⟨both.1, both.2 publishes.replaces.2⟩
      exact launched.ready
    · exact ⟨fun publishes => absurd publishes.replaces.1 both.2,
        fun cleansUp => both.2 (cleansUp.goesOn _ ⟨[], rfl⟩)⟩
  · exact ⟨both.1.held, fun publishes => absurd (publishes.writes _).2 both.2⟩
  · exact ⟨fun publishes => absurd (publishes.writes _).1 both.2,
      fun cleansUp => both.2 (cleansUp.goesOn _ ⟨[], rfl⟩)⟩

/-- Starting and publishing: on success the container is launched; else it is
still only the one with this identifier, and where the plan publishes it is ready. -/
theorem ensures_startAndPublish {host : Host}
    (held : Held (containerName request.participantId) containerId request.streamSubfolder
      host.engine) :
    (self.startAndPublish request (containerName request.participantId) containerId).Ensures
      ⟨fun _ => self.Launched request containerId,
        fun _ after =>
          Held (containerName request.participantId) containerId request.streamSubfolder
            after.engine ∧
          (self.dependencies.Publishes request.participantId →
            self.Ready request.participantId after),
        fun after => (self.dependencies.Publishes request.participantId →
            self.Ready request.participantId after) ∧
          ¬self.dependencies.CleansUp request.participantId⟩ host := by
  refine ensures_bind.mpr ((ensures_startContainer held).mono (fun _ after fact => ?_)
    (fun _ after both => ?_) fun after both => ?_)
  · refine ensures_bind.mpr ((ensures_routesPublish fact).mono (fun _ routed launched => ?_)
      (fun _ _ => id) fun _ => id)
    exact (ensures_metricsPublish launched _).mono (fun _ _ => id)
      (fun _ _ launched => ⟨launched.fact.held, fun _ => launched.ready⟩)
      fun _ both => ⟨fun _ => both.1.ready, both.2⟩
  · exact ⟨both.1, fun publishes =>
      self.ready_of_gone _ (both.2 (publishes.starts containerId).2)⟩
  · exact ⟨fun publishes => absurd (publishes.starts containerId).1 both.2,
      fun cleansUp => both.2 (cleansUp.goesOn _ ⟨[containerId], List.mem_singleton_self _⟩)⟩

/-! ## Cleaning up -/

/-- A handler that ignores some errors and raises the others again. -/
theorem maintains_ignore {fact : Host → Prop} {program : AgentProgram Unit}
    {ignored : Error → Bool} (maintains : program.Maintains fact) :
    (tryCatch program fun error => if ignored error then pure () else throw error).Maintains fact :=
  maintains_tryCatch maintains fun error =>
    maintains_ite (fun _ => maintains_pure _) fun _ => maintains_throw error

/-- A clean-up that cannot take the route away keeps the participant ready. -/
theorem cleanUp_maintains_ready {participantId : UUID}
    (publishes : self.dependencies.Publishes participantId) :
    (self.cleanUp participantId containerId).Maintains (self.Ready participantId) := by
  have steady := self.ready_steady participantId
  refine maintains_bind ?_ fun _ => ?_
  · exact maintains_ite (fun _ => maintains_pure _) fun _ =>
      steady.maintains_invoke (by simp) (by simp) (by simp)
  refine maintains_bind (maintains_ignore (steady.idle publishes.keeps)) fun _ => ?_
  refine maintains_bind (maintains_ignore
    (steady.maintains_invoke (by simp) (by simp) (by simp))) fun _ => ?_
  exact maintains_ignore (steady.maintains_invoke (by simp) (by simp) (by simp))

/-- What the calls of a complete clean-up do. -/
theorem ensures_tolerated {call : Call} {host : Host} {fact : Host → Prop}
    {handled : Error → Bool}
    (maintains : (self.dependencies.invoke call).Maintains fact) (holds : fact host)
    (goesOn : self.dependencies.GoesOn call)
    (tolerated : self.dependencies.Tolerated call handled)
    (refusals : ∀ index before refusal, call.answer self.dependencies index before =
      .error refusal →
      handled refusal = true) :
    (self.dependencies.invoke call).Ensures
      ⟨fun _ => fact, fun error after => fact after ∧ handled error = true,
        fun _ => False⟩ host := by
  suffices handles : (self.dependencies.invoke call).Ensures
      ⟨fun _ _ => True, fun error _ => handled error = true, fun _ => False⟩ host from
    ((maintains host holds).and handles).mono (fun _ _ both => both.1) (fun _ _ both => both)
      fun _ both => both.2
  refine ensures_invoke fun outcome after happens => ?_
  cases happens with
  | stopped stops => simp [goesOn _] at stops
  | returned => trivial
  | lost drifts error value answers allowed _ plan => exact tolerated _ _ plan
  | refused drifts error answers => exact refusals _ _ _ answers
  | failed drifts error allowed _ applied plan => exact tolerated _ _ plan

/-- With a handler that ignores all its errors such a call always goes on. -/
theorem ensures_ignored {program : AgentProgram Unit} {host : Host} {fact : Host → Prop}
    {ignored : Error → Bool}
    (ensures : program.Ensures
      ⟨fun _ => fact, fun error after => fact after ∧ ignored error = true,
        fun _ => False⟩ host) :
    (tryCatch program fun error => if ignored error then pure () else throw error).Ensures
      ⟨fun _ => fact, fun _ _ => False, fun _ => False⟩ host := by
  refine ensures_tryCatch.mpr
    (ensures.mono (fun _ _ => id) (fun error after both => ?_) fun _ => id)
  exact ensures_ite.mpr ⟨fun _ => both.1, fun raises => absurd both.2 raises⟩

/-- A removal that always takes effect leaves no container of the name. -/
theorem ensures_removal {name subfolder : String} {host : Host}
    (held : Held name containerId subfolder host.engine)
    (goesOn : self.dependencies.GoesOn (.removeContainer containerId))
    (lasting : self.dependencies.Lasting (.removeContainer containerId)) :
    (self.removeContainer containerId).Ensures
      ⟨fun _ after => Gone name after.engine, fun _ after => Gone name after.engine,
        fun _ => False⟩ host := by
  refine ensures_invoke fun outcome after happens => ?_
  have only : ∀ drifts : List Drift, OnlyBy name containerId (host.drifted drifts).engine :=
    fun drifts => (held_survives name containerId subfolder _ _
      (Engine.within_drifted host.engine drifts) held).onlyBy
  cases happens with
  | stopped stops => simp [goesOn _] at stops
  | returned drifts => exact (only drifts).gone_discard
  | lost drifts => exact (only drifts).gone_discard
  | refused drifts error answers =>
      exact (only drifts).gone_of_missing (Call.onContainer_error answers).1
  | failed drifts error allowed _ applied plan without =>
      obtain ⟨refusal, answers⟩ := without (lasting _ _ plan)
      exact (only drifts).gone_of_missing (Call.onContainer_error answers).1

/-- A complete clean-up leaves no container of the name. -/
theorem ensures_cleanUp {participantId : UUID} {name subfolder : String} {host : Host}
    (cleansUp : self.dependencies.CleansUp participantId)
    (held : Held name containerId subfolder host.engine) :
    (self.cleanUp participantId containerId).Ensures
      ⟨fun _ after => Gone name after.engine, fun _ after => Gone name after.engine,
        fun _ => False⟩ host := by
  have keeps : ∀ call : Call, (∀ name payload, call ≠ .createContainer name payload) →
      (self.dependencies.invoke call).Maintains
        fun host => Held name containerId subfolder host.engine :=
    fun call creates => (held_survives name containerId subfolder).maintains_invoke creates
  have goesOn : ∀ call, Call.Tends participantId [containerId] call →
      self.dependencies.GoesOn call := fun call tends => cleansUp.goesOn call ⟨_, tends⟩
  have target : (self.metricsRemove participantId).Ensures
      ⟨fun _ after => Held name containerId subfolder after.engine, fun _ _ => False,
        fun _ => False⟩ host := by
    refine ensures_ite.mpr ⟨fun _ => held, fun _ => ?_⟩
    have faultless : self.dependencies.Tolerated (.unlink .targets participantId) fun _ => false :=
      fun index fault plan => by simp [cleansUp.target index] at plan
    exact (ensures_tolerated (keeps _ (by simp)) held (goesOn (.unlink .targets participantId) rfl)
      faultless (by simp [Call.answer])).mono (fun _ _ => id)
        (fun _ _ both => absurd both.2 (by simp)) fun _ => id
  refine ensures_bind.mpr (target.mono (fun _ first held => ?_) (fun _ _ => False.elim) fun _ => id)
  have route := ensures_tolerated (keeps _ (by simp)) held
    (goesOn (.unlink .routes participantId) rfl) cleansUp.route (by simp [Call.answer])
  refine ensures_bind.mpr ((ensures_ignored route).mono (fun _ second held => ?_)
    (fun _ _ => False.elim) fun _ => id)
  have missing : ∀ index before refusal, (Call.stopContainer containerId).answer self.dependencies
      index before = .error refusal → refusal.isRuntimeAgentError = true := by
    intro index before refusal answers
    rw [(Call.onContainer_error answers).2]
    rfl
  have stop := ensures_tolerated (keeps _ (by simp)) held
    (goesOn (.stopContainer containerId) (List.mem_singleton_self _)) (cleansUp.stop containerId)
    missing
  refine ensures_bind.mpr ((ensures_ignored stop).mono (fun _ third held => ?_)
    (fun _ _ => False.elim) fun _ => id)
  have removal := ensures_removal held
    (goesOn (.removeContainer containerId) (List.mem_singleton_self _))
      (cleansUp.remove containerId)
  refine ensures_tryCatch.mpr (removal.mono (fun _ _ => id) (fun error last gone => ?_) fun _ => id)
  exact ensures_ite.mpr ⟨fun _ => gone, fun _ => gone⟩

/-! ## Launching -/

/-- The record is that of the participant's container, which has been started and
whose route is published. -/
structure Yields (service : RuntimeService) (participantId : UUID) (record : RuntimeRecord)
    (host : Host) : Prop where
  participant : record.participantId = participantId
  started : host.Started record.containerId
  routed : host.published .routes participantId = some (.route
    (service.route participantId record.streamSubfolder (containerName participantId)))

/-- The record of a launched container. -/
theorem ensures_launchedRecord {host : Host} (launched : self.Launched request containerId host) :
    (do
      let container ← self.inspectContainer (.byId containerId)
      self.runtimeRecord container request.participantId : AgentProgram RuntimeRecord).Ensures
      ⟨fun record after => self.Yields request.participantId record after ∧
          self.Launched request containerId after,
        fun _ => self.Launched request containerId, self.Launched request containerId⟩ host := by
  have steady : Steady request.participantId (self.Launched request containerId) := launched_steady
  have shown : (self.inspectContainer (.byId containerId)).Ensures
      ⟨fun record _ => record.containerId = containerId ∧
          record.labels.lookup subfolderLabel = some request.streamSubfolder,
        fun _ _ => True, fun _ => True⟩ host := by
    refine ensures_invoke fun outcome after happens => ?_
    cases happens with
    | returned drifts record answered =>
        obtain ⟨container, found, rfl⟩ := Call.answer_inspect answered
        have held := held_survives _ _ _ _ _ (Engine.within_drifted host.engine drifts)
          launched.fact.held
        exact held container (Engine.find?_mem found) (Or.inr (Engine.find?_id found))
    | _ => trivial
  have inspected := ((self.quiet_inspectContainer (.byId containerId)).maintains steady.undisturbed
    host launched).and shown
  refine ensures_bind.mpr (inspected.mono (fun container between both => ?_)
    (fun _ _ both => both.1) fun _ both => both.1)
  obtain ⟨launched, identity, labelled⟩ := both
  refine ((self.quiet_runtimeRecord container request.participantId).ensures between).mono
    (fun record after both => ?_) (fun _ after moved => steady.undisturbed _ _ moved launched)
    fun after moved => steady.undisturbed _ _ moved launched
  obtain ⟨moved, participant, own, subfolder⟩ := both
  have launched := steady.undisturbed _ _ moved launched
  rw [labelled, Option.getD_some] at subfolder
  refine ⟨⟨participant, ?_, ?_⟩, launched⟩
  · rw [own, identity]
    exact launched.fact.started
  · rw [subfolder]
    exact launched.routed

/-- A launch that returns has launched; a plan that settles leaves the participant ready. -/
theorem ensures_launch {host : Host}
    (held : Held (containerName request.participantId) containerId request.streamSubfolder
      host.engine) :
    (self.launch request (containerName request.participantId) containerId).Ensures
      ⟨fun record after => self.Yields request.participantId record after ∧
          self.Ready request.participantId after,
        fun _ after => (self.dependencies.Publishes request.participantId ∨
          self.dependencies.CleansUp request.participantId) →
            self.Ready request.participantId after,
        fun after => (self.dependencies.Publishes request.participantId ∨
          self.dependencies.CleansUp request.participantId) →
            self.Ready request.participantId after⟩ host := by
  refine ensures_bind.mpr (ensures_tryCatch.mpr ((ensures_startAndPublish held).mono
    (fun _ after launched => ?_) (fun error after failed => ?_) fun after stopped => ?_))
  · exact (ensures_launchedRecord launched).mono (fun _ _ both => ⟨both.1, both.2.ready⟩)
      (fun _ _ launched _ => launched.ready) fun _ launched _ => launched.ready
  · have cleaned : (self.cleanUp request.participantId containerId).Ensures
        (Post.always fun later => (self.dependencies.Publishes request.participantId ∨
          self.dependencies.CleansUp request.participantId) →
            self.Ready request.participantId later) after := by
      by_cases publishes : self.dependencies.Publishes request.participantId
      · exact (cleanUp_maintains_ready publishes after (failed.2 publishes)).mono
          (fun _ _ ready _ => ready) (fun _ _ ready _ => ready) fun _ ready _ => ready
      · by_cases cleansUp : self.dependencies.CleansUp request.participantId
        · exact (ensures_cleanUp cleansUp failed.1).mono
            (fun _ _ gone _ => self.ready_of_gone _ gone)
            (fun _ _ gone _ => self.ready_of_gone _ gone) fun _ => False.elim
        · have neither : ¬(_ ∨ _) := not_or.mpr ⟨publishes, cleansUp⟩
          exact ensures_of_forall (fun _ _ either => absurd either neither)
            (fun _ _ either => absurd either neither) fun _ either => absurd either neither
    exact ensures_bind.mpr (cleaned.mono (fun _ _ => id) (fun _ _ => id) fun _ => id)
  · rintro (publishes | cleansUp)
    · exact stopped.1 publishes
    · exact absurd cleansUp stopped.2

/-! ## Creating -/

/-- A new container is the only one of its name; a creation that raises leaves none
where the plan lets it have no effect. -/
theorem ensures_createNamed {name subfolder : String} {payload : Payload} {host : Host}
    (gone : Gone name host.engine)
    (labelled : payload.labels.lookup subfolderLabel = some subfolder) :
    (self.createContainer name payload).Ensures
      ⟨fun containerId after => Held name containerId subfolder after.engine ∧
          ¬self.dependencies.Idle (.createContainer name payload),
        fun error after => Gone name after.engine ∨
          ¬self.dependencies.Idle (.createContainer name payload) ∧
            ¬self.dependencies.Clean (.createContainer name payload) ∧
            (error.isConflict = true → self.dependencies.Conflicted),
        fun after => Gone name after.engine⟩ host := by
  refine ensures_invoke fun outcome after happens => ?_
  have drifted : ∀ drifts : List Drift, Gone name (host.drifted drifts).engine := fun drifts =>
    gone_survives name _ _ (Engine.within_drifted host.engine drifts) gone
  cases happens with
  | stopped => exact gone
  | returned drifts containerId answered goesOn plan =>
      obtain ⟨fresh, effect⟩ := Call.answer_create answered
      refine ⟨?_, fun idle => ?_⟩
      · rw [Host.record_engine, effect]
        intro container member either
        rcases List.mem_append.mp member with before | new
        · rcases either with named | identified
          · exact absurd named (drifted drifts container before)
          · exact absurd
              (identified ▸ (host.drifted drifts).engine.recorded container before) fresh.1
        · rw [List.mem_singleton.mp new]
          exact ⟨rfl, labelled⟩
      · rcases idle host.history.length with stops | ⟨fault, plan', -⟩
        · simp [goesOn] at stops
        · simp [plan] at plan'
  | lost drifts error containerId answered allowed goesOn plan =>
      refine Or.inr ⟨fun idle => ?_, fun clean => by simpa using clean _ _ plan,
        fun conflict => ?_⟩
      · rcases idle host.history.length with stops | ⟨fault, plan', unapplied⟩
        · simp [goesOn] at stops
        · simp [Option.some.inj (plan.symm.trans plan').symm] at unapplied
      · cases error with
        | conflict message => exact ⟨_, name, payload, message, plan⟩
        | _ => simp [Error.isConflict] at conflict
  | refused drifts error => exact Or.inl (drifted drifts)
  | failed drifts error => exact Or.inl (drifted drifts)

/-- A container of a name that no container has is found only after a creation
that raised `ConflictError` and took effect. -/
theorem ensures_createOrFind_named {name subfolder : String} {payload : Payload} {host : Host}
    (gone : Gone name host.engine)
    (labelled : payload.labels.lookup subfolderLabel = some subfolder) :
    (self.createOrFind request name payload).Ensures
      ⟨fun created after =>
          match created with
          | .inl containerId => Held name containerId subfolder after.engine ∧
              ¬self.dependencies.Idle (.createContainer name payload)
          | .inr _ => self.dependencies.Conflicted ∧
              ¬self.dependencies.Settles request.participantId,
        fun _ after => self.dependencies.Settles request.participantId → Gone name after.engine,
        fun after => self.dependencies.Settles request.participantId → Gone name after.engine⟩
      host := by
  refine ensures_tryCatch.mpr (ensures_map.mpr ((ensures_createNamed gone labelled).mono
    (fun _ _ => id) (fun error after failed => ?_) fun _ gone _ => gone))
  have settled : self.dependencies.Settles request.participantId → Gone name after.engine := by
    rintro (idle | ⟨clean, -⟩)
    · exact failed.resolve_right fun ⟨busy, _⟩ => busy (idle name payload)
    · exact failed.resolve_right fun ⟨_, dirty, _⟩ => dirty (clean name payload)
  refine ensures_ite.mpr ⟨fun conflict => ?_, fun _ => settled⟩
  have kept : ∀ {α : Type} {program : AgentProgram α} {onValue : α → Prop},
      quiet.Holds program onValue → program.Maintains fun host =>
        self.dependencies.Settles request.participantId → Gone name host.engine := by
    intro α program onValue holds
    refine holds.maintains fun before after moved settled settles => ?_
    exact (gone_survives name).undisturbed before after moved (settled settles)
  have unmoved := (self.quiet_inspectContainer (.byName name)).maintains
    (gone_survives name).undisturbed after
  have found : (self.inspectContainer (.byName name)).Ensures
      ⟨fun _ _ => self.dependencies.Conflicted ∧
        ¬self.dependencies.Settles request.participantId,
        fun _ _ => True, fun _ => True⟩ after := by
    by_cases gone : Gone name after.engine
    · exact ((unmoved gone).and (self.ensures_inspectName name after)).mono
        (fun _ _ both => by
          obtain ⟨gone, -, container, member, named, -⟩ := both
          exact absurd named (gone container member))
        (fun _ _ _ => trivial) fun _ _ => trivial
    · refine ensures_of_forall (fun _ _ => ⟨?_, fun settles => gone (settled settles)⟩)
        (fun _ _ => trivial) fun _ => trivial
      exact (failed.resolve_left gone).2.2 conflict
  refine ensures_bind.mpr (((kept (self.quiet_inspectContainer _) after settled).and found).mono
    (fun existing later both => ?_) (fun _ _ both => both.1) fun _ both => both.1)
  refine ensures_map.mpr
    ((kept (self.quiet_existingRecord existing request error) later both.1).mono
    (fun _ _ _ => both.2) (fun _ _ => id) fun _ => id)

variable (self) in
/-- What a creation promises: its record is of a launched container, unless
`create_container` lies about a conflict, and a plan that settles leaves the
participant ready. -/
def creates (request : CreateRuntimeRequest) : Post Host Error RuntimeRecord where
  returned record after :=
    (¬self.dependencies.Conflicted → self.Yields request.participantId record after) ∧
      (self.dependencies.Settles request.participantId → self.Ready request.participantId after)
  raised _ after :=
    self.dependencies.Settles request.participantId → self.Ready request.participantId after
  stopped after :=
    self.dependencies.Settles request.participantId → self.Ready request.participantId after

theorem lookup_subfolderLabel (request : CreateRuntimeRequest) (fingerprint : String)
    (saveKey : Option Digest) :
    (payloadLabels request fingerprint saveKey).lookup subfolderLabel =
      some request.streamSubfolder := by
  cases saveKey <;> simp [payloadLabels, List.lookup, managedLabel, participantLabel, sessionLabel,
    fingerprintLabel, subfolderLabel, saveKeyLabel]

theorem createFresh_creates {host : Host} (romPath : PurePath.Resolved)
    (gone : Gone (containerName request.participantId) host.engine) :
    (self.createFresh request romPath (containerName request.participantId)).Ensures
      (self.creates request) host := by
  have quietly : ∀ {α : Type} {program : AgentProgram α}
    {next : α → AgentProgram RuntimeRecord}
      {onValue : α → Prop} {before : Host}, quiet.Holds program onValue →
      Gone (containerName request.participantId) before.engine →
      (∀ value after, Gone (containerName request.participantId) after.engine →
        onValue value →
        (next value).Ensures (self.creates request) after) →
      (program >>= next).Ensures (self.creates request) before := by
    intro α program next onValue before holds gone rest
    have kept := (gone_survives (containerName request.participantId)).undisturbed
    exact ensures_bind.mpr ((holds.ensures before).mono
      (fun value after both => rest value after (kept before after both.1 gone) both.2)
      (fun _ after moved _ => self.ready_of_gone _ (kept before after moved gone))
      fun after moved _ => self.ready_of_gone _ (kept before after moved gone))
  refine quietly self.quiet_listManagedRuntimes gone fun managed host gone _ => ?_
  refine quietly Frame.holds_raiseIf gone fun _ host gone _ => ?_
  refine quietly (self.quiet_claimPersistence _) gone fun saves host gone _ => ?_
  refine quietly (self.quiet_runtimeDirectory _) gone fun directory host gone _ => ?_
  refine quietly (self.quiet_writeRuntimeSpec _ _) gone fun _ host gone _ => ?_
  refine quietly (self.quiet_payload _ _ _ _ _ _) gone fun payload host gone computed => ?_
  have labelled : payload.labels.lookup subfolderLabel = some request.streamSubfolder := by
    obtain ⟨_, _, _, _, _, _, _, _, _, _, _, rfl⟩ := computed
    exact lookup_subfolderLabel request _ _
  refine ensures_bind.mpr ((ensures_createOrFind_named gone labelled).mono
    (fun created after found => ?_) (fun _ _ gone settles => self.ready_of_gone _ (gone settles))
    fun _ gone settles => self.ready_of_gone _ (gone settles))
  cases created with
  | inl containerId =>
      obtain ⟨held, busy⟩ := found
      have either : self.dependencies.Settles request.participantId →
          self.dependencies.Publishes request.participantId ∨
            self.dependencies.CleansUp request.participantId := by
        rintro (idle | ⟨-, either⟩)
        · exact absurd (idle _ payload) busy
        · exact either
      exact (ensures_launch held).mono (fun _ _ both => ⟨fun _ => both.1, fun _ => both.2⟩)
        (fun _ _ ready settles => ready (either settles)) fun _ ready settles =>
          ready (either settles)
  | inr record => exact ⟨fun unconflicted => absurd found.1 unconflicted,
      fun settles => absurd settles found.2⟩

/-- The record of a container that was found. -/
theorem ensures_foundRecord {host : Host} (ready : self.Ready request.participantId host)
    {container : Container} (member : container ∈ host.engine.containers)
    (named : container.name = containerName request.participantId) (mismatch : Error) :
    (self.existingRecord container.toContainerRecord request mismatch).Ensures
      (self.creates request) host := by
  have steady := self.ready_steady request.participantId
  refine ((self.quiet_existingRecord container.toContainerRecord request mismatch).ensures
    host).mono
    (fun record after both => ?_) (fun _ after moved _ => steady.undisturbed _ _ moved ready)
    fun after moved _ => steady.undisturbed _ _ moved ready
  obtain ⟨moved, owned, participant, identity, subfolder⟩ := both
  obtain ⟨started, name, labelled, routed⟩ := ready container member named owned
  have continues : Continues request.participantId host after := continues_of_quiet moved
  rw [labelled, Option.getD_some] at subfolder
  refine ⟨fun _ => ⟨participant, ?_, ?_⟩, fun _ => steady _ _ continues ready⟩
  · rw [identity]
    exact started.grows continues.history
  · rw [subfolder, continues.route]
    exact routed

theorem createRuntime_creates {host : Host} (ready : self.Ready request.participantId host) :
    (self.createRuntime request).Ensures (self.creates request) host := by
  have steady := self.ready_steady request.participantId
  have kept := steady.undisturbed
  refine ensures_bind.mpr (((self.quiet_validateRequest request).maintains kept host ready).mono
    (fun romPath between ready => ?_) (fun _ _ ready _ => ready) fun _ ready _ => ready)
  have inspected := ((self.quiet_inspectContainer (.byName (containerName
    request.participantId))).maintains kept between ready).and (self.ensures_inspectName _ between)
  have existing : (self.existingContainer (containerName request.participantId)).Ensures
      ⟨fun existing after => self.Ready request.participantId after ∧
          (∀ record, existing = some record → ∃ container ∈ after.engine.containers,
            container.name = containerName request.participantId ∧
              container.toContainerRecord = record) ∧
          (existing = none → Gone (containerName request.participantId) after.engine),
        fun _ => self.Ready request.participantId, self.Ready request.participantId⟩ between := by
    refine ensures_tryCatch.mpr (ensures_map.mpr (inspected.mono
      (fun _ _ both => ⟨both.1, fun _ same => Option.some.inj same ▸ both.2.2, by simp⟩)
      (fun error after both => ?_) fun _ both => both.1))
    exact ensures_ite.mpr ⟨fun missing => ⟨both.1, by simp, fun _ => both.2 missing⟩,
      fun _ => both.1⟩
  refine ensures_bind.mpr (existing.mono (fun found after both => ?_) (fun _ _ ready _ => ready)
    fun _ ready _ => ready)
  cases found with
  | some record =>
      obtain ⟨container, member, named, rfl⟩ := both.2.1 record rfl
      exact ensures_foundRecord both.1 member named _
  | none => exact createFresh_creates romPath (both.2.2 rfl)

end RuntimeService

/-! ## Operations about others -/

theorem same_of_mem_apply {drift : Drift} {containers : List Container} {container : Container}
    (member : container ∈ drift.apply containers) :
    ∃ earlier ∈ containers, Engine.Same earlier container := by
  cases drift with
  | drifts containerId state healthStatus =>
      obtain ⟨earlier, earlierMember, rfl⟩ := List.mem_map.mp member
      exact ⟨earlier, earlierMember, Engine.same_change ..⟩
  | vanishes containerId =>
      exact ⟨container, List.mem_of_mem_filter member, rfl, rfl, rfl, rfl⟩

theorem same_of_mem_applyAll {drifts : List Drift} {containers : List Container}
    {container : Container} (member : container ∈ applyAll drifts containers) :
    ∃ earlier ∈ containers, Engine.Same earlier container := by
  induction drifts generalizing containers with
  | nil => exact ⟨container, member, rfl, rfl, rfl, rfl⟩
  | cons drift rest inductionHypothesis =>
      obtain ⟨middle, middleMember, same⟩ := inductionHypothesis member
      obtain ⟨earlier, earlierMember, same'⟩ := same_of_mem_apply middleMember
      exact ⟨earlier, earlierMember, same'.containerId.trans same.containerId,
        same'.name.trans same.name, same'.labels.trans same.labels,
        same'.mounts.trans same.mounts⟩

theorem OwnedBy.unique {left right : UUID} {labels : Labels} (leftOwns : OwnedBy left labels)
    (rightOwns : OwnedBy right labels) : left = right :=
  UUID.str_injective (Option.some.inj (leftOwns.2.symm.trans rightOwns.2))

section Touches

variable {operation : Operation} {before after : Host} {participantId : UUID}

/-- The containers of a participant stay those they were. -/
theorem TouchesOwn.same (touches : TouchesOwn operation before after)
    (other : operation.participant ≠ some participantId) {container : Container}
    (member : container ∈ after.engine.containers)
    (owned : OwnedBy participantId container.labels) :
    ∃ earlier ∈ before.engine.containers, Engine.Same earlier container := by
  obtain ⟨events, -, concerns⟩ := touches.containers
  cases about : operation.participant with
  | none =>
      rw [about] at concerns
      rw [concerns.2] at member
      exact (Engine.within_drifted before.engine _).containers container member
  | some owner =>
      rw [about] at concerns other
      have foreign : ¬OwnedBy owner container.labels := fun owns =>
        other (by rw [owns.unique owned])
      have outside : container ∈ after.engine.others owner :=
        List.mem_filter.mpr ⟨member, decide_eq_true foreign⟩
      rw [concerns.2] at outside
      obtain ⟨earlier, earlierMember, same⟩ := same_of_mem_applyAll outside
      exact ⟨earlier, List.mem_of_mem_filter earlierMember, same⟩

/-- The route of a participant with a container stays as it was. -/
theorem TouchesOwn.route (touches : TouchesOwn operation before after)
    (other : operation.participant ≠ some participantId) {container : Container}
    (member : container ∈ after.engine.containers)
    (owned : OwnedBy participantId container.labels) :
    after.published .routes participantId = before.published .routes participantId := by
  cases about : operation.participant with
  | some owner =>
      refine touches.published about .routes fun same => other ?_
      rw [about, same]
  | none =>
      refine touches.files .routes _ fun written => ?_
      cases operation with
      | create | inspect | stop | remove => simp [Operation.participant] at about
      | list | capacity => exact written
      | reconcile =>
          obtain ⟨owner, named, unmanaged⟩ := written
          rw [← Registry.routes.fileName_injective named] at unmanaged
          exact unmanaged container member owned

/-- An operation about somebody else keeps the participant ready. -/
theorem TouchesOwn.ready (touches : TouchesOwn operation before after) {self : RuntimeService}
    (other : operation.participant ≠ some participantId)
    (ready : self.Ready participantId before) : self.Ready participantId after := by
  intro container member named owned
  obtain ⟨earlier, earlierMember, same⟩ := touches.same other member owned
  obtain ⟨started, subfolder, labelled, routed⟩ := ready earlier earlierMember
    (same.name.trans named) (same.labels ▸ owned)
  obtain ⟨events, history, -⟩ := touches.containers
  rw [← same.containerId, ← same.labels]
  exact ⟨started.grows ⟨events, history.symm⟩, subfolder, labelled,
    (touches.route other member owned).trans routed⟩

end Touches

/-! ## Runs -/

namespace Agent

variable (agent : Agent)

/-- The participant is ready, whichever dependencies the agent uses. -/
def Ready (participantId : UUID) (host : Host) : Prop :=
  ∀ dependencies, (agent.service dependencies).Ready participantId host

variable {agent}

theorem ready_of (dependencies : Dependencies) {participantId : UUID} {host : Host}
    (ready : (agent.service dependencies).Ready participantId host) :
    agent.Ready participantId host :=
  fun _ => ready

/-- Every step but a creation of the participant that does not settle keeps it ready. -/
theorem Ready.run {participantId : UUID} {host : Host} (ready : agent.Ready participantId host)
    (step : Step) (settles : ∀ request, step.operation = .create request →
      request.participantId = participantId → step.dependencies.Settles participantId) :
    agent.Ready participantId (agent.run step host).2 := by
  by_cases other : step.operation.participant = some participantId
  swap
  · exact ready_of step.dependencies
      ((agent.run_touchesOwn step host).ready other (ready step.dependencies))
  obtain ⟨operation, dependencies⟩ := step
  have own := ready dependencies
  have kept := ((agent.service dependencies).ready_steady participantId).undisturbed
  refine ready_of dependencies ?_
  cases operation with
  | create request =>
      obtain rfl : request.participantId = participantId := Option.some.inj other
      have settled := settles request rfl rfl
      refine run_after
        ((RuntimeService.createRuntime_creates own).mono (fun _ _ both => both.2 settled)
        (fun _ _ kept => kept settled) fun _ kept => kept settled)
  | inspect owner =>
      obtain rfl : owner = participantId := Option.some.inj other
      exact run_after
        (((agent.service dependencies).quiet_inspectRuntime owner).maintains kept host own)
  | stop owner =>
      obtain rfl : owner = participantId := Option.some.inj other
      exact run_after (RuntimeService.stopRuntime_maintains_ready host own)
  | remove owner =>
      obtain rfl : owner = participantId := Option.some.inj other
      exact run_after (RuntimeService.removeRuntime_maintains_ready host own)
  | list | reconcile | capacity => simp [Operation.participant] at other

variable (agent)

/-- No container has the participant's container name. -/
def Cleared (participantId : UUID) (host : Host) : Prop :=
  Gone (containerName participantId) host.engine

/-- At every creation of the run, `create_container` does not lie about a conflict,
and each earlier creation of the same participant has settled or its container has
gone since. -/
def Settled (start : Host) (steps : List Step) : Prop :=
  ∀ earlier step later request, steps = earlier ++ step :: later →
    step.operation = .create request → ¬step.dependencies.Conflicted ∧
    ∀ first former between other, earlier = first ++ former :: between →
      former.operation = .create other → other.participantId = request.participantId →
      former.dependencies.Settles request.participantId ∨
        ∃ passed rest, between = passed ++ rest ∧
          Cleared request.participantId (agent.execute start (first ++ former :: passed))

variable {agent} {start : Host}

theorem Cleared.ready {participantId : UUID} {host : Host} (cleared : Cleared participantId host) :
    agent.Ready participantId host :=
  fun dependencies => (agent.service dependencies).ready_of_gone participantId cleared

/-- A participant that is not ready has a creation that did not settle and whose
container has been there ever since. -/
theorem ready_or_unsettled (unmanaged : start.engine.managed = []) (participantId : UUID)
    (steps : List Step) :
    agent.Ready participantId (agent.execute start steps) ∨
      ∃ first former between other, steps = first ++ former :: between ∧
        former.operation = .create other ∧ other.participantId = participantId ∧
        ¬former.dependencies.Settles participantId ∧
        ∀ passed rest, between = passed ++ rest →
          ¬Cleared participantId (agent.execute start (first ++ former :: passed)) := by
  induction steps using List.reverseRecOn with
  | nil =>
      refine Or.inl fun dependencies container member named owned => ?_
      have managed : container ∈ start.engine.managed :=
        Engine.mem_managed.mpr ⟨member, by simp [ContainerRecord.managed, owned.1]⟩
      rw [unmanaged] at managed
      exact absurd managed List.not_mem_nil
  | append_singleton steps step inductionHypothesis =>
      by_cases cleared : Cleared participantId (agent.execute start (steps ++ [step]))
      · exact Or.inl cleared.ready
      rcases inductionHypothesis with ready | ⟨first, former, between, other, rfl, create, own,
        unsettled, uncleared⟩
      · by_cases settles : ∀ request, step.operation = .create request →
          request.participantId = participantId → step.dependencies.Settles participantId
        · rw [execute_append]
          exact Or.inl (ready.run step settles)
        · push Not at settles
          obtain ⟨request, create, own, unsettled⟩ := settles
          refine Or.inr ⟨steps, step, [], request, rfl, create, own, unsettled, ?_⟩
          intro passed rest nothing
          rw [(List.nil_eq_append_iff.mp nothing).1]
          exact cleared
      · refine Or.inr ⟨first, former, between ++ [step], other, by simp, create,
          own, unsettled, ?_⟩
        intro passed rest parts
        rcases List.eq_nil_or_concat rest with rfl | ⟨front, last, rfl⟩
        · rw [List.append_nil] at parts
          rw [← parts]
          simpa using cleared
        · rw [List.concat_eq_append, ← List.append_assoc] at parts
          exact uncleared passed front (List.append_inj' parts rfl).1

/-- So before every creation of a settled run its participant is ready. -/
theorem Settled.ready {steps earlier later : List Step} {step : Step}
    {request : CreateRuntimeRequest}
    (settled : agent.Settled start steps) (unmanaged : start.engine.managed = [])
    (parts : steps = earlier ++ step :: later) (create : step.operation = .create request) :
    agent.Ready request.participantId (agent.execute start earlier) := by
  rcases ready_or_unsettled unmanaged request.participantId earlier with ready | ⟨first, former,
    between, other, split, former_creates, own, unsettled, uncleared⟩
  · exact ready
  · rcases (settled earlier step later request parts create).2 first former between other split
      former_creates own with settles | ⟨passed, rest, parts', cleared⟩
    · exact absurd settles unsettled
    · exact absurd cleared (uncleared passed rest parts')

/-- A run whose creations all settle is settled. -/
theorem settled_of_forall {steps : List Step} (each : ∀ step ∈ steps,
    ¬step.dependencies.Conflicted ∧ ∀ participantId, step.dependencies.Settles participantId) :
    agent.Settled start steps := by
  rintro earlier step later request rfl create
  refine ⟨(each step (by simp)).1, ?_⟩
  rintro first former between other rfl former_creates own
  exact Or.inl ((each former (by simp)).2 _)

end Agent

/-- From a host without managed containers: in every run in which each creation
finds only containers whose own creation settled, and no `create_container` lies
about a conflict, a creation that returns has yielded a container that was started
and whose route is published. -/
theorem creations_yield_published (agent : Agent) (start : Host)
    (unmanaged : start.engine.managed = []) (steps : List Step)
    (settled : agent.Settled start steps) (earlier later : List Step) (step : Step)
    (parts : steps = earlier ++ step :: later) (request : CreateRuntimeRequest)
    (create : step.operation = .create request) (record : RuntimeRecord)
    (returned : (agent.run step (agent.execute start earlier)).1 = .returned (.runtime record)) :
    (agent.service step.dependencies).Yields request.participantId record
      (agent.run step (agent.execute start earlier)).2 := by
  have ready := settled.ready unmanaged parts create step.dependencies
  have unconflicted := (settled earlier step later request parts create).1
  obtain ⟨operation, dependencies⟩ := step
  obtain rfl : operation = .create request := create
  have ensures : (agent.run ⟨.create request, dependencies⟩).Ensures
      ⟨fun reply after => ∀ record, reply = .runtime record →
          (agent.service dependencies).Yields request.participantId record after,
        fun _ _ => True, fun _ => True⟩ (agent.execute start earlier) := by
    refine ensures_map.mpr ((RuntimeService.createRuntime_creates ready).mono
      (fun value after both record same => ?_) (fun _ _ _ => trivial) fun _ _ => trivial)
    rw [← Reply.runtime.inj same]
    exact both.1 unconflicted
  unfold Program.Ensures at ensures
  rcases run : agent.run ⟨.create request, dependencies⟩ (agent.execute start earlier)
    with ⟨outcome, after⟩
  rw [run] at ensures returned
  subst returned
  exact ensures record rfl

section Example

/-- A creation that meets no trouble. -/
theorem working_creation_yields :
    (exampleAgent.service .working).Yields exampleRequest.participantId exampleRecord
      (exampleAgent.run ⟨.create exampleRequest, .working⟩ Host.empty).2 := by
  have settled : exampleAgent.Settled Host.empty exampleSteps := by
    apply Agent.settled_of_forall
    intro step member
    rw [List.mem_singleton.mp member]
    exact Dependencies.settles_of_faultless (fun _ _ => rfl) fun _ _ => rfl
  exact creations_yield_published exampleAgent Host.empty rfl exampleSteps settled [] [] _ rfl
    exampleRequest rfl exampleRecord (by decide +kernel)

end Example

end RetroBrowser.RuntimeAgent
