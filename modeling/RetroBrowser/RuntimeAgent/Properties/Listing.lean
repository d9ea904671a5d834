import RetroBrowser.RuntimeAgent.Properties.Duplicates

/-!
Owns what a listing of the managed runtimes yields while containers disappear on
their own: the list of the engine is a snapshot, and each of its containers is
inspected in a call of its own.

Contract: the calls of a listing are numbered one after the other, so the plan
alone says which containers are still there when their turn comes.
-/

namespace RetroBrowser.RuntimeAgent

open RetroBrowser.Foundation
open RetroBrowser.Foundation.Program
open RetroBrowser.Foundation.Frame

/-! ## Calls that work -/

namespace Dependencies

variable (dependencies : Dependencies)

/-- No call is made to raise, and the process does not stop. Containers still do
what they do on their own. -/
structure Works : Prop where
  goesOn : ∀ call, dependencies.GoesOn call
  faultless : ∀ call, dependencies.Faultless call

/-- The containers are still there when their turn comes; the record of each takes
two calls. -/
def Remain : Nat → Engine → List String → Prop
  | _, _, [] => True
  | index, engine, containerId :: rest =>
    let seen := engine.drifted (dependencies.drifts index)
    Present containerId seen ∧
      Remain (index + 2) (seen.drifted (dependencies.drifts (index + 1))) rest

instance decidableRemain : (index : Nat) → (engine : Engine) → (containerIds : List String) →
    Decidable (dependencies.Remain index engine containerIds)
  | _, _, [] => inferInstanceAs (Decidable True)
  | index, engine, _ :: rest =>
    let seen := engine.drifted (dependencies.drifts index)
    have := decidableRemain (index + 2) (seen.drifted (dependencies.drifts (index + 1))) rest
    inferInstanceAs (Decidable (_ ∧ _))

variable {dependencies}

/-- A call that works answers as the host does after what containers did on their own. -/
theorem Works.ensures_invoke (works : dependencies.Works) {call : Call} {host : Host}
    {post : Post Host Error call.Answer} :
    (dependencies.invoke call).Ensures post host ↔
      let index := host.history.length
      let before := host.drifted (dependencies.drifts index)
      (∀ value, call.answer dependencies index before = .ok value → post.returned value
        ((call.effect dependencies index before).record
          ⟨call, dependencies.drifts index, true, some value⟩)) ∧
      ∀ error, call.answer dependencies index before = .error error →
        post.raised error (before.record ⟨call, dependencies.drifts index, false, none⟩) := by
  unfold Program.Ensures invoke
  simp only [works.goesOn call _, works.faultless call _, Bool.false_eq_true, if_false]
  split
  · next value answers _ => simp [answers, Post.Holds]
  · next error answers _ => simp [answers, Post.Holds]
  · next planned => simp at planned
  · next planned _ => simp at planned

end Dependencies

/-! ## The rounds of a listing -/

/-- The record that the engine's list has of a container. -/
def summaryOf (container : Container) : ContainerRecord :=
  { container.toContainerRecord with healthStatus := .none }

/-- Whatever container has the identifier of the summary has its labels, which are
those of a participant's runtime. -/
def Describes (engine : Engine) (summary : ContainerRecord) : Prop :=
  (∃ participantId, OwnedBy participantId summary.labels) ∧
    ∀ container ∈ engine.containers, container.containerId = summary.containerId →
      container.labels = summary.labels

theorem Describes.later {before after : Engine} {summary : ContainerRecord}
    (describes : Describes before summary) (within : before.Within after) :
    Describes after summary := by
  refine ⟨describes.1, fun container member identity => ?_⟩
  have ⟨earlier, earlierMember, same⟩ := within.containers container member
  rw [← same.labels]
  exact describes.2 earlier earlierMember (same.containerId.trans identity)

namespace RuntimeService

variable {self : RuntimeService} {host : Host}

/-- Nothing but containers moved, in so many calls. -/
structure Passes (before after : Host) (engine : Engine) (calls : Nat) : Prop where
  engine : after.engine = engine
  files : after.files = before.files
  counted : after.history.length = before.history.length + calls

/-- An inspection shows the container, or it is gone. -/
theorem ensures_inspectTurn (works : self.dependencies.Works) (containerId : String) :
    (self.inspectContainer (.byId containerId)).Ensures
      ⟨fun record after => Passes host after
          (host.engine.drifted (self.dependencies.drifts host.history.length)) 1 ∧
          ∃ container ∈ after.engine.containers, container.containerId = containerId ∧
            record = container.toContainerRecord,
        fun error _ => error = .notFound "Docker object was not found" ∧ ¬Present containerId
          (host.engine.drifted (self.dependencies.drifts host.history.length)),
        fun _ => False⟩ host := by
  refine works.ensures_invoke.mpr ⟨fun record answers => ?_, fun error answers => ?_⟩
  · obtain ⟨container, found, shown⟩ := Call.answer_inspect answers
    have member := List.mem_of_find?_eq_some found
    have matched := List.find?_some found
    refine ⟨⟨rfl, rfl, List.length_cons⟩, container, member, ?_, shown.symm⟩
    simpa [Reference.matches] using matched
  · obtain ⟨missing, equal⟩ := Call.onContainer_error answers
    exact ⟨equal, absent_of_missing missing⟩

/-- The ownership is checked, and the record takes one call. -/
theorem ensures_requireOwned_of {participantId : UUID}
    {shown : ContainerRecord} (owned : OwnedBy participantId shown.labels) :
    (requireOwned shown participantId).Ensures ⟨fun _ after => after = host, fun _ _ => False,
      fun _ => False⟩ host :=
  ensures_bind.mpr (ensures_raiseIf.mpr ⟨fun foreign => foreign owned.1, fun _ =>
    ensures_raiseIf.mpr ⟨fun foreign => foreign owned.2, fun _ => rfl⟩⟩)

theorem ensures_recordTurn (works : self.dependencies.Works) (shown : ContainerRecord)
    (participantId : UUID) :
    (self.runtimeRecord shown participantId).Ensures
      ⟨fun record after => Passes host after
          (host.engine.drifted (self.dependencies.drifts host.history.length)) 1 ∧
          record.containerId = shown.containerId ∧ record.participantId = participantId,
        fun _ _ => False, fun _ => False⟩ host := by
  refine ensures_bind.mpr
    (works.ensures_invoke.mpr ⟨fun routed answers => ?_, fun _ answers => ?_⟩)
  · exact ⟨⟨rfl, rfl, List.length_cons⟩, rfl, rfl⟩
  · simp [Call.answer] at answers

/-- The listing of these summaries: it returns just when the containers remain. -/
def listed (service : RuntimeService) (host : Host) (summaries : List ContainerRecord) :
    Post Host Error (List RuntimeRecord) where
  returned records after :=
    service.dependencies.Remain host.history.length host.engine
        (summaries.map fun summary => summary.containerId) ∧
      (records.map fun record => record.containerId) =
        (summaries.map fun summary => summary.containerId) ∧
      (records.map fun record => record.participantId) =
        summaries.filterMap (fun summary => labelledParticipant summary.labels) ∧
      host.engine.Within after.engine ∧ after.files = host.files
  raised error _ :=
    error = .notFound "Docker object was not found" ∧
      ¬service.dependencies.Remain host.history.length host.engine
        (summaries.map fun summary => summary.containerId)
  stopped _ := False

theorem ensures_managedRuntimes (works : self.dependencies.Works) {summaries : List ContainerRecord}
    (described : ∀ summary ∈ summaries, Describes host.engine summary) :
    (self.managedRuntimes summaries).Ensures (self.listed host summaries) host := by
  induction summaries generalizing host with
  | nil => exact ⟨trivial, rfl, rfl, Engine.Within.refl _, rfl⟩
  | cons summary rest inductionHypothesis =>
      have describes := described summary List.mem_cons_self
      obtain ⟨participantId, owned⟩ := describes.1
      have labelled := labelledParticipant_of_ownedBy owned
      unfold managedRuntimes
      rw [labelled]
      refine ensures_bind.mpr ((ensures_inspectTurn works summary.containerId).mono
        (fun shown between facts => ?_) (fun error _ facts => ?_) fun _ => id)
      · obtain ⟨⟨engine, files, counted⟩, container, member, identity, equal⟩ := facts
        have within : host.engine.Within between.engine := engine ▸ Engine.within_drifted _ _
        have labels : shown.labels = summary.labels := by
          rw [equal]
          exact (describes.later within).2 container member identity
        have present : Present summary.containerId
            (host.engine.drifted (self.dependencies.drifts host.history.length)) :=
          engine ▸ ⟨container, member, identity⟩
        refine ensures_bind.mpr ((ensures_requireOwned_of (labels ▸ owned)).mono
          (fun _ checked same => ?_) (fun _ _ => False.elim) fun _ => id)
        rw [same]
        refine ensures_bind.mpr ((ensures_recordTurn works shown participantId).mono
          (fun record next facts => ?_) (fun _ _ => False.elim) fun _ => id)
        obtain ⟨⟨engine', files', counted'⟩, recordId, recordOwner⟩ := facts
        have within' : host.engine.Within next.engine :=
          within.trans (engine' ▸ Engine.within_drifted _ _)
        have turns : self.dependencies.Remain (host.history.length + 2) next.engine
            (rest.map fun summary => summary.containerId) ↔
            self.dependencies.Remain host.history.length host.engine
              (summary.containerId :: rest.map fun summary => summary.containerId) := by
          rw [engine', engine, counted]
          exact (and_iff_right present).symm
        have described' : ∀ summary ∈ rest, Describes next.engine summary := fun other member =>
          (described other (List.mem_cons_of_mem summary member)).later within'
        have length : next.history.length = host.history.length + 2 := by
          rw [counted', counted]
        refine ensures_bind.mpr ((inductionHypothesis described').mono
          (fun records after facts => ?_) (fun error _ facts => ?_) fun _ => id)
        · obtain ⟨remain, ids, owners, later, files''⟩ := facts
          rw [length] at remain
          refine ⟨turns.mp remain, ?_, ?_, within'.trans later, ?_⟩
          · rw [List.map_cons, List.map_cons, ids, recordId, equal]
            exact congrArg (· :: _) identity
          · rw [List.map_cons, owners, recordOwner, List.filterMap_cons, labelled]
          · rw [files'', files', files]
        · obtain ⟨missing, gone⟩ := facts
          rw [length] at gone
          exact ⟨missing, fun remain => gone (turns.mpr remain)⟩
      · exact ⟨facts.1, fun remain => facts.2 remain.1⟩

/-! ## The listing -/

/-- The engine just after the list call of a listing that starts here. -/
def snapshot (dependencies : Dependencies) (host : Host) : Engine :=
  host.engine.drifted (dependencies.drifts host.history.length)

/-- The containers of the engine's list are still there when their turn comes. -/
def Remaining (dependencies : Dependencies) (host : Host) : Prop :=
  let listed := snapshot dependencies host
  dependencies.Remain (host.history.length + 1) listed
    (listed.managed.map fun container => container.containerId)

instance (dependencies : Dependencies) (host : Host) : Decidable (Remaining dependencies host) :=
  inferInstanceAs (Decidable (dependencies.Remain _ _ _))

/-- A listing shows each container of the engine's list once, or one of them was gone. -/
def listedExactly (dependencies : Dependencies) (host : Host) :
    Post Host Error (List RuntimeRecord) where
  returned records after :=
    Remaining dependencies host ∧
      (records.map fun record => record.containerId) =
        ((snapshot dependencies host).managed.map fun container => container.containerId) ∧
      (records.map fun record => record.participantId) =
        (snapshot dependencies host).managed.filterMap
        (fun container => labelledParticipant container.labels) ∧
      (snapshot dependencies host).Within after.engine ∧ after.files = host.files
  raised error _ :=
    error = .notFound "Docker object was not found" ∧ ¬Remaining dependencies host
  stopped _ := False

theorem describes_snapshot {engine : Engine} {container : Container}
    (owned : ∀ container ∈ engine.managed, ∃ participantId,
      OwnedBy participantId container.labels)
    (member : container ∈ engine.managed) : Describes engine (summaryOf container) := by
  refine ⟨owned container member, fun other otherMember identity => ?_⟩
  rw [Engine.eq_of_containerId otherMember (List.mem_of_mem_filter member) identity]
  rfl

theorem ensures_listing (works : self.dependencies.Works)
    (owned : ∀ container ∈ (snapshot self.dependencies host).managed,
      ∃ participantId, OwnedBy participantId container.labels) :
    self.listManagedRuntimes.Ensures (listedExactly self.dependencies host) host := by
  refine ensures_bind.mpr (works.ensures_invoke.mpr ⟨fun summaries answers => ?_,
    fun _ answers => ?_⟩)
  · have shown : summaries = (snapshot self.dependencies host).managed.map summaryOf :=
      (Except.ok.inj answers).symm
    have described : ∀ summary ∈ summaries, Describes
        (snapshot self.dependencies host) summary := by
      intro summary member
      rw [shown] at member
      have ⟨container, inside, equal⟩ := List.mem_map.mp member
      exact equal ▸ describes_snapshot owned inside
    have ids : (summaries.map fun summary => summary.containerId) =
        (snapshot self.dependencies host).managed.map fun container => container.containerId := by
      rw [shown, List.map_map]
      rfl
    have owners : summaries.filterMap (fun summary => labelledParticipant summary.labels) =
        (snapshot self.dependencies host).managed.filterMap
          fun container => labelledParticipant container.labels := by
      rw [shown, List.filterMap_map]
      rfl
    refine (ensures_managedRuntimes works described).mono (fun records after facts => ?_)
      (fun error _ facts => ?_) fun _ => id
    · have ⟨remain, same, participants, within, files⟩ := facts
      rw [ids] at remain same
      exact ⟨remain, same, participants.trans owners, within, files⟩
    · have ⟨missing, gone⟩ := facts
      rw [ids] at gone
      exact ⟨missing, gone⟩
  · simp [Call.answer] at answers

end RuntimeService

/-! ## Reachable hosts -/

/-- Managed containers of a run have the ownership labels of a participant. -/
theorem Agent.owned_of_managed (agent : Agent) {start : Host}
    (unmanaged : start.engine.managed = [])
    (steps : List Step) {later : Engine}
    (within : (agent.execute start steps).engine.Within later) :
    ∀ container ∈ later.managed, ∃ participantId, OwnedBy participantId container.labels := by
  intro container member
  have ⟨earlier, earlierMember, same⟩ := within.managed member
  have ⟨request, step, _, _, made⟩ :=
    (agent.execute_sound unmanaged steps).made earlier earlierMember
  refine ⟨request.participantId, ?_⟩
  rw [← same.labels, made.labels]
  exact RuntimeService.ownedBy_payloadLabels request _ _

/-- What a listing is for: it returns, without duplicates, every managed container
that is there from the start to the end, and only containers of the engine's list. -/
def ListsWell (dependencies : Dependencies) (before : Host)
    (outcome : Outcome Error (List RuntimeRecord) × Host) : Prop :=
  ∃ records, outcome.1 = .returned records ∧
    (records.map fun record => record.containerId).Nodup ∧
    (∀ container ∈ before.engine.managed, Present container.containerId outcome.2.engine →
      ∃ record ∈ records, record.containerId = container.containerId) ∧
    ∀ record ∈ records, ∃ container ∈ (RuntimeService.snapshot dependencies before).managed,
      container.containerId = record.containerId

section Listing

variable {dependencies : Dependencies} {before : Host}

/-- A managed container that is in the engine later is in the snapshot. -/
theorem managed_of_present {later : Engine} {container : Container}
    (within : (RuntimeService.snapshot dependencies before).Within later)
    (member : container ∈ before.engine.managed) (present : Present container.containerId later) :
    ∃ shown ∈ (RuntimeService.snapshot dependencies before).managed,
      shown.containerId = container.containerId := by
  obtain ⟨last, lastMember, identity⟩ := present
  obtain ⟨shown, shownMember, same⟩ := within.containers last lastMember
  have drifted : before.engine.Within (RuntimeService.snapshot dependencies before) :=
    Engine.within_drifted _ _
  obtain ⟨first, firstMember, same'⟩ := drifted.containers shown shownMember
  obtain ⟨inside, managed⟩ := Engine.mem_managed.mp member
  have shownId : shown.containerId = container.containerId := same.containerId.trans identity
  have equal : first = container :=
    Engine.eq_of_containerId firstMember inside (same'.containerId.trans shownId)
  refine ⟨shown, Engine.mem_managed.mpr ⟨shownMember, ?_⟩, shownId⟩
  rw [← same'.managed, equal, managed]

/-- A listing whose containers remain lists well, and any other raises. -/
theorem listsWell_iff {service : RuntimeService}
    (exactly : service.listManagedRuntimes.Ensures
      (RuntimeService.listedExactly service.dependencies before) before) :
    ListsWell service.dependencies before (service.listManagedRuntimes before) ↔
      RuntimeService.Remaining service.dependencies before := by
  unfold Program.Ensures at exactly
  rcases run : service.listManagedRuntimes before with ⟨outcome, after⟩
  rw [run] at exactly
  cases outcome with
  | returned records =>
      have ⟨remaining, ids, _, within, _⟩ := exactly
      refine ⟨fun _ => remaining, fun _ =>
        ⟨records, rfl, ?_, fun container member present => ?_, fun record member => ?_⟩⟩
      · rw [ids]
        exact Engine.managed_distinct _
      · have ⟨shown, shownMember, identity⟩ := managed_of_present within member present
        have listed : container.containerId ∈ records.map fun record => record.containerId := by
          rw [ids]
          exact List.mem_map.mpr ⟨shown, shownMember, identity⟩
        exact List.mem_map.mp listed
      · have listed : record.containerId ∈ records.map fun record => record.containerId :=
          List.mem_map_of_mem member
        rw [ids] at listed
        exact List.mem_map.mp listed
  | raised error =>
      refine ⟨fun ⟨records, returned, _⟩ => ?_, fun remaining => absurd remaining exactly.2⟩
      simp at returned
  | stopped => exact exactly.elim

end Listing

/-- In every reachable host, where the engine answers and the process goes on: a
listing lists well just when each container of the engine's list is still there when
it is inspected; `capacity` counts the list just then; and otherwise the capacity
check of a creation raises `NotFoundError`. -/
theorem listing_tolerates (agent : Agent) (start : Host) (unmanaged : start.engine.managed = [])
    (steps : List Step) (dependencies : Dependencies) (works : dependencies.Works) :
    let before := agent.execute start steps
    let service := agent.service dependencies
    let managed := (RuntimeService.snapshot dependencies before).managed
    let remaining := RuntimeService.Remaining dependencies before
    (ListsWell dependencies before (service.listManagedRuntimes before) ↔ remaining) ∧
      ((∃ capacity, (service.capacity before).1 = .returned capacity ∧
        capacity.used = managed.length) ↔ remaining) ∧
      ∀ request romPath name,
        (¬remaining → (service.createFresh request romPath name before).1 =
          .raised (.notFound "Docker object was not found")) ∧
        (remaining → agent.config.maxRuntimes ≤ managed.length →
          (service.createFresh request romPath name before).1 =
            .raised (.conflict "runtime capacity is exhausted")) := by
  intro before service managed remaining
  have exactly : service.listManagedRuntimes.Ensures
      (RuntimeService.listedExactly dependencies before) before :=
    RuntimeService.ensures_listing works
      (agent.owned_of_managed unmanaged steps (Engine.within_drifted _ _))
  refine ⟨listsWell_iff exactly, ?_⟩
  unfold Program.Ensures at exactly
  rcases run : service.listManagedRuntimes before with ⟨outcome, after⟩
  rw [run] at exactly
  cases outcome with
  | returned records =>
      have ⟨remains, ids, _⟩ := exactly
      have counted : records.length = managed.length := by
        simpa using congrArg List.length ids
      refine ⟨⟨fun _ => remains, fun _ => ?_⟩, fun request romPath name =>
        ⟨fun gone => absurd remains gone, fun _ full => ?_⟩⟩
      · rw [RuntimeService.capacity, Program.bind_apply, run]
        exact ⟨_, rfl, counted⟩
      · have elapsed : service.config.maxRuntimes ≤ records.length := counted ▸ full
        rw [RuntimeService.createFresh, Program.bind_apply, run]
        dsimp only
        rw [Program.bind_apply, Program.raiseIf, if_pos elapsed]
        rfl
  | raised error =>
      have ⟨missing, gone⟩ := exactly
      refine ⟨⟨fun ⟨capacity, returned, _⟩ => ?_, fun remains => absurd remains gone⟩,
        fun request romPath name => ⟨fun _ => ?_, fun remains => absurd remains gone⟩⟩
      · rw [RuntimeService.capacity, Program.bind_apply, run] at returned
        simp at returned
      · rw [RuntimeService.createFresh, Program.bind_apply, run, missing]
  | stopped => exact exactly.elim

section Example

/-- Listing a container that stays. -/
theorem listing_lists_well :
    ListsWell .working (exampleAgent.execute Host.empty exampleSteps)
      ((exampleAgent.service .working).listManagedRuntimes
        (exampleAgent.execute Host.empty exampleSteps)) := by
  have tolerates := listing_tolerates exampleAgent Host.empty rfl exampleSteps .working
    ⟨fun _ _ => rfl, fun _ _ => rfl⟩
  exact tolerates.1.mpr (by decide +kernel)

/-- The container disappears just before the call of this number. -/
def Dependencies.vanishing (number : Nat) : Dependencies :=
  { Dependencies.working with
    drifts := fun index => if index = number then [.vanishes exampleRecord.containerId] else [] }

/-- A container that disappears between the engine's list and its own inspection
makes the whole listing raise. -/
theorem listing_raises :
    let before := exampleAgent.execute Host.empty exampleSteps
    let dependencies := Dependencies.vanishing 34
    dependencies.Works ∧
      exampleRecord.containerId ∈ (RuntimeService.snapshot dependencies before).managed.map
        (fun container => container.containerId) ∧
      ((exampleAgent.service dependencies).listManagedRuntimes before).1 =
        .raised (.notFound "Docker object was not found") := by
  intro before dependencies
  exact ⟨⟨fun _ _ => rfl, fun _ _ => rfl⟩, by decide +kernel⟩

end Example

end RetroBrowser.RuntimeAgent
