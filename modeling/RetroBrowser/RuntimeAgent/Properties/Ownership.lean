import RetroBrowser.Foundation.Trace
import RetroBrowser.RuntimeAgent.Limits
import RetroBrowser.RuntimeAgent.Run

/-!
Owns the frame of the agent's operations: an operation on a participant stops
and removes only containers it has created itself or has seen with the
participant's ownership labels, and leaves alone every other container and every
file of another participant, whatever the other containers are called and
labelled, and whichever calls fail.
-/

namespace RetroBrowser.RuntimeAgent

open RetroBrowser.Foundation
open RetroBrowser.Foundation.Program

/-! ## Containers of others -/

/-- What a container does on its own, seen in a list of containers. -/
def Drift.apply (drift : Drift) (containers : List Container) : List Container :=
  match drift with
  | .drifts containerId state healthStatus =>
    containers.map (Engine.change containerId (fun _ => state) fun _ => healthStatus)
  | .vanishes containerId =>
    containers.filter fun container => container.containerId ≠ containerId

def applyAll (drifts : List Drift) (containers : List Container) : List Container :=
  drifts.foldl (fun containers drift => drift.apply containers) containers

theorem applyAll_append (first second : List Drift) (containers : List Container) :
    applyAll (first ++ second) containers = applyAll second (applyAll first containers) :=
  List.foldl_append

namespace Engine

variable (engine : Engine) (participantId : UUID)

/-- The containers that do not carry the participant's ownership labels. -/
def others : List Container :=
  engine.containers.filter fun container => ¬OwnedBy participantId container.labels

variable {engine participantId} {containerId : String}

theorem others_adjust {state : ContainerState → ContainerState}
    {health : HealthStatus → HealthStatus}
    (mine : ∀ container ∈ engine.containers, container.containerId = containerId →
      OwnedBy participantId container.labels) :
    (engine.adjust containerId state health).others participantId =
      engine.others participantId := by
  unfold others
  rw [adjust_containers, List.filter_map]
  have labels : ((fun container : Container => decide ¬OwnedBy participantId container.labels) ∘
      change containerId state health) =
        fun container => decide ¬OwnedBy participantId container.labels := by
    funext container
    simp
  rw [labels]
  refine (List.map_congr_left fun container member => ?_).trans (List.map_id _)
  obtain ⟨inside, foreign⟩ := List.mem_filter.mp member
  exact change_other _ _ _ _ fun same => of_decide_eq_true foreign (mine container inside same)

theorem others_discard
    (mine : ∀ container ∈ engine.containers, container.containerId = containerId →
      OwnedBy participantId container.labels) :
    (engine.discard containerId).others participantId = engine.others participantId := by
  unfold others discard
  rw [List.filter_filter]
  refine List.filter_congr fun container member => ?_
  by_cases same : container.containerId = containerId
  · simp [mine container member same]
  · simp [same]

theorem others_insert {container : Container} (freshId : container.containerId ∉ engine.issued)
    (freshName : container.name ∉ engine.containers.map fun container => container.name)
    (mine : OwnedBy participantId container.labels) :
    (engine.insert container freshId freshName).others participantId =
      engine.others participantId := by
  simp [others, insert, mine]

theorem others_drift (drift : Drift) :
    (engine.drift drift).others participantId = drift.apply (engine.others participantId) := by
  cases drift with
  | drifts containerId state healthStatus =>
      unfold others drift
      rw [adjust_containers, List.filter_map, Drift.apply]
      congr 1
      refine List.filter_congr fun container _ => ?_
      simp
  | vanishes containerId =>
      unfold others drift discard
      rw [Drift.apply, List.filter_filter, List.filter_filter]
      exact List.filter_congr fun container _ => Bool.and_comm _ _

theorem others_drifted (drifts : List Drift) :
    (engine.drifted drifts).others participantId = applyAll drifts
      (engine.others participantId) := by
  induction drifts generalizing engine with
  | nil => rfl
  | cons drift rest inductionHypothesis =>
      have later : ((engine.drift drift).drifted rest).others participantId =
          applyAll rest ((engine.drift drift).others participantId) := inductionHypothesis
      rw [others_drift] at later
      exact later

end Engine

/-! ## What a run has announced -/

/-- The event hands out the identifier of a new container, or shows the
participant's ownership labels on the container. -/
def Event.Announces (event : Event) (participantId : UUID) (containerId : String) : Prop :=
  (∃ name payload drifts applied,
    event = ⟨.createContainer name payload, drifts, applied, some containerId⟩) ∨
  ∃ reference drifts applied record,
    event = ⟨.inspectContainer reference, drifts, applied, some record⟩ ∧
      record.containerId = containerId ∧ OwnedBy participantId record.labels

/-- The call stops or removes this container. -/
def Call.halts (call : Call) (containerId : String) : Prop :=
  call = .stopContainer containerId ∨ call = .removeContainer containerId

/-- A container is stopped or removed only after it was announced. -/
def OnlyAnnounced (participantId : UUID) (event : Event) (earlier : List Event) : Prop :=
  ∀ containerId, event.call.halts containerId →
    ∃ other ∈ earlier, other.Announces participantId containerId

/-- All that has happened since `base` concerns the participant's own containers
and files; the containers `known` were announced. -/
structure Confined (participantId : UUID) (known : List String) (base host : Host) : Prop where
  trail : ∃ events, host.history = events ++ base.history ∧
    host.engine.others participantId =
      applyAll (driftsOf events) (base.engine.others participantId) ∧
    Throughout (OnlyAnnounced participantId) events ∧
    ∀ containerId ∈ known, ∃ event ∈ events, event.Announces participantId containerId
  files : ∀ registry name, name ≠ registry.fileName participantId →
    name ≠ Registry.temporaryName participantId →
    (host.files registry).lookup name = (base.files registry).lookup name
  mine : ∀ containerId ∈ known, containerId ∈ host.engine.issued ∧
    ∀ container ∈ host.engine.containers, container.containerId = containerId →
      OwnedBy participantId container.labels

namespace Confined

variable {participantId : UUID} {known : List String} {base host after : Host}

theorem refl (participantId : UUID) (host : Host) : Confined participantId [] host host where
  trail := ⟨[], rfl, rfl, throughout_nil, by simp⟩
  files _ _ _ _ := rfl
  mine := by simp

theorem forget (confined : Confined participantId known base host) :
    Confined participantId [] base host where
  trail := by
    obtain ⟨events, history, others, only, -⟩ := confined.trail
    exact ⟨events, history, others, only, by simp⟩
  files := confined.files
  mine := by simp

/-- Containers of engines that only lost containers keep their labels. -/
theorem mine_within {before later : Engine} (within : before.Within later) {containerId : String}
    (mine : containerId ∈ before.issued ∧ ∀ container ∈ before.containers,
      container.containerId = containerId → OwnedBy participantId container.labels) :
    containerId ∈ later.issued ∧ ∀ container ∈ later.containers,
      container.containerId = containerId → OwnedBy participantId container.labels := by
  refine ⟨within.issued mine.1, fun container member same => ?_⟩
  obtain ⟨earlier, earlierMember, identity⟩ := within.containers container member
  rw [← identity.labels]
  exact mine.2 earlier earlierMember (identity.containerId.trans same)

/-- One more event, whose effect stays with the participant. -/
theorem step (confined : Confined participantId known base host) {event : Event}
    (history : after.history = host.history)
    (others : after.engine.others participantId =
      applyAll event.drifts (host.engine.others participantId))
    (files : ∀ registry name, name ≠ registry.fileName participantId →
      name ≠ Registry.temporaryName participantId →
      (after.files registry).lookup name = (host.files registry).lookup name)
    (mine : ∀ containerId ∈ known, containerId ∈ after.engine.issued ∧
      ∀ container ∈ after.engine.containers, container.containerId = containerId →
        OwnedBy participantId container.labels)
    (halts : ∀ containerId, event.call.halts containerId → containerId ∈ known) :
    Confined participantId known base (after.record event) := by
  obtain ⟨events, historyBefore, othersBefore, only, announced⟩ := confined.trail
  refine ⟨⟨event :: events, ?_, ?_,
    throughout_cons.mpr ⟨fun containerId halting => ?_, only⟩,
    fun containerId member => ?_⟩, fun registry name notFile notTemporary => ?_, mine⟩
  · rw [Host.record_history, history, historyBefore, List.cons_append]
  · rw [Host.record_engine, others, othersBefore, driftsOf_cons, applyAll_append]
  · exact announced containerId (halts containerId halting)
  · obtain ⟨other, otherMember, announces⟩ := announced containerId member
    exact ⟨other, List.mem_cons_of_mem event otherMember, announces⟩
  · exact (files registry name notFile notTemporary).trans
      (confined.files registry name notFile notTemporary)

/-- The newest event announces a container. -/
theorem learn (confined : Confined participantId known base host) {event : Event}
    (later : Confined participantId known base (after.record event))
    (history : after.history = host.history) {containerId : String}
    (announces : event.Announces participantId containerId)
    (mine : containerId ∈ after.engine.issued ∧ ∀ container ∈ after.engine.containers,
      container.containerId = containerId → OwnedBy participantId container.labels) :
    Confined participantId (containerId :: known) base (after.record event) := by
  obtain ⟨earlier, historyBefore, -⟩ := confined.trail
  obtain ⟨events, historyAfter, others, only, announced⟩ := later.trail
  have newest : events = event :: earlier := by
    rw [Host.record_history, history, historyBefore, ← List.cons_append] at historyAfter
    exact (List.append_cancel_right historyAfter).symm
  refine ⟨⟨events, historyAfter, others, only, fun other member => ?_⟩, later.files,
    fun other member => ?_⟩
  · rcases List.mem_cons.mp member with rfl | before
    · exact ⟨event, newest ▸ List.mem_cons_self, announces⟩
    · exact announced other before
  · rcases List.mem_cons.mp member with rfl | before
    · exact mine
    · exact later.mine other before

/-- The host after containers moved on their own. -/
theorem mine_drifted (confined : Confined participantId known base host) (drifts : List Drift) :
    ∀ containerId ∈ known, containerId ∈ (host.drifted drifts).engine.issued ∧
      ∀ container ∈ (host.drifted drifts).engine.containers,
        container.containerId = containerId →
        OwnedBy participantId container.labels :=
  fun containerId member =>
    mine_within (Engine.within_drifted host.engine drifts) (confined.mine containerId member)

end Confined

/-! ## Calls that stay with the participant -/

/-- The call concerns only the participant's containers, among them the `known`
ones, and the participant's files. -/
def Call.Inside (participantId : UUID) (known : List String) : Call → Prop
  | .createContainer _ payload => OwnedBy participantId payload.labels
  | .startContainer containerId | .stopContainer containerId | .removeContainer containerId =>
    containerId ∈ known
  | .write _ owner _ | .replace _ owner | .unlink _ owner => owner = participantId
  | _ => True

section Effect

variable {participantId : UUID} {known : List String} {dependencies : Dependencies} {index : Nat}
variable {host : Host} {call : Call}

theorem Registry.fileName_ne_temporaryName (registry : Registry) (left right : UUID) :
    registry.fileName left ≠ Registry.temporaryName right := by
  intro same
  have last := congrArg (fun text : String => text.toList.reverse.head?) same
  cases registry <;> simp [Registry.fileName, Registry.temporaryName, Registry.suffix] at last

/-- A call inside leaves the containers and files of others as they are. -/
theorem Call.effect_inside (inside : call.Inside participantId known)
    (mine : ∀ containerId ∈ known, containerId ∈ host.engine.issued ∧
      ∀ container ∈ host.engine.containers, container.containerId = containerId →
        OwnedBy participantId container.labels) :
    (call.effect dependencies index host).engine.others participantId =
        host.engine.others participantId ∧
      (∀ registry name, name ≠ registry.fileName participantId →
        name ≠ Registry.temporaryName participantId →
        ((call.effect dependencies index host).files registry).lookup name =
          (host.files registry).lookup name) ∧
      ∀ containerId ∈ known,
        containerId ∈ (call.effect dependencies index host).engine.issued ∧
        ∀ container ∈ (call.effect dependencies index host).engine.containers,
          container.containerId = containerId → OwnedBy participantId container.labels := by
  by_cases harmless : call.harmless = true
  · obtain ⟨engine, files⟩ : (call.effect dependencies index host).engine = host.engine ∧
        (call.effect dependencies index host).files = host.files := effect_harmless harmless
    rw [engine, files]
    exact ⟨rfl, fun _ _ _ _ => rfl, mine⟩
  cases call with
  | createContainer name payload =>
      simp only [effect]
      split
      · next fresh =>
        refine ⟨Engine.others_insert fresh.1 fresh.2 inside, fun _ _ _ _ => rfl, ?_⟩
        intro containerId member
        refine ⟨List.mem_cons_of_mem _ (mine containerId member).1,
          fun container inserted same => ?_⟩
        rcases List.mem_append.mp inserted with before | new
        · exact (mine containerId member).2 container before same
        · rw [List.mem_singleton.mp new]
          exact inside
      · exact ⟨rfl, fun _ _ _ _ => rfl, mine⟩
  | startContainer containerId | stopContainer containerId =>
      exact ⟨Engine.others_adjust (mine containerId inside).2, fun _ _ _ _ => rfl,
        fun other member => Confined.mine_within (Engine.within_adjust ..) (mine other member)⟩
  | removeContainer containerId =>
      exact ⟨Engine.others_discard (mine containerId inside).2, fun _ _ _ _ => rfl,
        fun other member => Confined.mine_within (Engine.within_discard ..) (mine other member)⟩
  | write registry owner document =>
      obtain rfl : owner = participantId := inside
      refine ⟨rfl, fun other name _ notTemporary => ?_, mine⟩
      by_cases same : other = registry
      · subst same
        simp only [effect, Host.withFiles_files_self]
        exact AList.lookup_insert_ne notTemporary
      · simp only [effect, Host.withFiles_files_other _ _ _ same]
  | replace registry owner =>
      obtain rfl : owner = participantId := inside
      simp only [effect]
      split
      · exact ⟨rfl, fun _ _ _ _ => rfl, mine⟩
      · refine ⟨rfl, fun other name notFile notTemporary => ?_, mine⟩
        by_cases same : other = registry
        · subst same
          rw [Host.withFiles_files_self, AList.lookup_insert_ne notFile,
            AList.lookup_erase_ne notTemporary]
        · rw [Host.withFiles_files_other _ _ _ same]
  | unlink registry owner =>
      obtain rfl : owner = participantId := inside
      refine ⟨rfl, fun other name notFile _ => ?_, mine⟩
      by_cases same : other = registry
      · subst same
        simp only [effect, Host.withFiles_files_self]
        exact AList.lookup_erase_ne notFile
      · simp only [effect, Host.withFiles_files_other _ _ _ same]
  | _ => exact absurd rfl harmless

theorem Call.inside_of_tends (tends : call.Tends participantId known) :
    call.Inside participantId known := by
  cases call with
  | startContainer | stopContainer | removeContainer | write | replace | unlink => exact tends
  | createContainer => exact absurd tends id
  | _ => trivial

theorem Call.known_of_halts {containerId : String} (inside : call.Inside participantId known)
    (halts : call.halts containerId) : containerId ∈ known := by
  rcases halts with rfl | rfl <;> exact inside

/-- A call inside keeps the run confined, however it happens. -/
theorem Confined.happens {base after : Host} {outcome : Outcome Error call.Answer}
    (confined : Confined participantId known base host) (inside : call.Inside participantId known)
    (happens : Happens dependencies call host outcome after) :
    Confined participantId known base after := by
  have drifted := confined.mine_drifted
  have untouched : ∀ drifts : List Drift, (host.drifted drifts).engine.others participantId =
      applyAll drifts (host.engine.others participantId) := Engine.others_drifted
  have working : ∀ drifts applied answer, Confined participantId known base
      ((call.effect dependencies host.history.length (host.drifted drifts)).record
        ⟨call, drifts, applied, answer⟩) := by
    intro drifts applied answer
    obtain ⟨others, files, mine⟩ := call.effect_inside inside (drifted drifts)
    exact confined.step (call.effect_history) (others.trans (untouched drifts)) files mine
      fun _ => call.known_of_halts inside
  have failing : ∀ drifts, Confined participantId known base
      ((host.drifted drifts).record ⟨call, drifts, false, none⟩) := fun drifts =>
    confined.step rfl (untouched drifts) (fun _ _ _ _ => rfl) (drifted drifts)
      fun _ => call.known_of_halts inside
  cases happens with
  | stopped => exact confined
  | returned drifts value _ => exact working drifts true _
  | lost drifts error value _ _ => exact working drifts true none
  | refused drifts error _ => exact failing drifts
  | failed drifts error _ => exact failing drifts

end Effect

/-! ## Programs that stay with the participant -/

section Programs

variable {participantId : UUID} {known : List String} {base : Host}

/-- Quiet programs stay with every participant. -/
theorem Confined.quiet {host after : Host} (confined : Confined participantId known base host)
    (moved : Quiet host after) : Confined participantId known base after := by
  obtain ⟨events, history, engine, files, harmless⟩ := moved
  obtain ⟨trail, historyBefore, others, only, announced⟩ := confined.trail
  refine ⟨⟨events ++ trail, ?_, ?_, ?_, fun containerId member => ?_⟩, ?_, ?_⟩
  · rw [history, historyBefore, List.append_assoc]
  · rw [engine, Engine.others_drifted, others, driftsOf_append, applyAll_append]
  · clear history engine announced
    induction events with
    | nil => exact only
    | cons event rest inductionHypothesis =>
        refine throughout_cons.mpr ⟨fun containerId halts => ?_,
          inductionHypothesis fun other member =>
            harmless other (List.mem_cons_of_mem event member)⟩
        have first := harmless event List.mem_cons_self
        rcases halts with call | call <;> simp [call, Call.harmless] at first
  · obtain ⟨event, member', announces⟩ := announced containerId member
    exact ⟨event, List.mem_append_right events member', announces⟩
  · rw [files]
    exact confined.files
  · rw [engine]
    exact fun containerId member => Confined.mine_within (Engine.within_drifted ..)
      (confined.mine containerId member)

/-- The program stays with the participant at every moment. -/
abbrev StaysWith {α : Type} (participantId : UUID) (known : List String) (base : Host)
    (program : AgentProgram α) : Prop :=
  program.Maintains (Confined participantId known base)

theorem staysWith_quiet {α : Type} {program : AgentProgram α} {onValue : α → Prop}
    (holds : quiet.Holds program onValue) : StaysWith participantId known base program :=
  holds.maintains fun _ _ moved confined => confined.quiet moved

theorem staysWith_invoke {dependencies : Dependencies} {call : Call}
    (inside : call.Inside participantId known) :
    StaysWith participantId known base (dependencies.invoke call) := fun host confined =>
  ensures_invoke fun outcome after happens => by
    have holds := confined.happens inside happens
    cases outcome <;> exact holds

namespace RuntimeService

variable (self : RuntimeService)

/-- Programs about the participant and its known containers stay with it. -/
theorem staysWith_limited {α : Type} {program : AgentProgram α}
    (limited : Limited self.dependencies (Call.Tends participantId known) program) :
    StaysWith participantId known base program :=
  limited _ (fun _ _ moved confined => confined.quiet moved) fun _ tends =>
    staysWith_invoke (Call.inside_of_tends tends)

/-- A container that was just created is announced. -/
theorem ensures_createContainer {name : String} {payload : Payload} {host : Host}
    (confined : Confined participantId [] base host)
    (mine : OwnedBy participantId payload.labels) :
    (self.createContainer name payload).Ensures
      ⟨fun containerId after => Confined participantId [containerId] base after,
        fun _ => Confined participantId [] base, Confined participantId [] base⟩ host := by
  refine ensures_invoke fun outcome after happens => ?_
  have holds := confined.happens (show (Call.createContainer name payload).Inside _ _ from mine)
    happens
  cases happens with
  | returned drifts containerId answered =>
      obtain ⟨fresh, effect⟩ := Call.answer_create answered
      refine confined.learn holds (Call.effect_history _)
        (Or.inl ⟨name, payload, drifts, true, rfl⟩) ?_
      rw [effect]
      refine ⟨List.mem_cons_self, fun container member same => ?_⟩
      rcases List.mem_append.mp member with before | new
      · exact absurd (same ▸ (host.drifted drifts).engine.recorded container before) fresh.1
      · rw [List.mem_singleton.mp new]
        exact mine
  | _ => exact holds

/-- An inspected container that carries the ownership labels is announced. -/
theorem ensures_inspectContainer {reference : Reference} {host : Host}
    (confined : Confined participantId [] base host) :
    (self.inspectContainer reference).Ensures
      ⟨fun record after => Confined participantId [] base after ∧
          (OwnedBy participantId record.labels →
            Confined participantId [record.containerId] base after),
        fun _ => Confined participantId [] base, Confined participantId [] base⟩ host := by
  refine ensures_invoke fun outcome after happens => ?_
  have holds := confined.happens
    (show (Call.inspectContainer reference).Inside participantId [] from trivial) happens
  cases happens with
  | returned drifts record answered =>
      refine ⟨holds, fun owned => ?_⟩
      obtain ⟨container, found, rfl⟩ := Call.answer_inspect answered
      have member := Engine.find?_mem found
      refine confined.learn holds rfl (Or.inr ⟨reference, drifts, true, _, rfl, rfl, owned⟩) ?_
      refine ⟨(host.drifted drifts).engine.recorded container member,
        fun other present same => ?_⟩
      rw [Engine.eq_of_containerId present member same]
      exact owned
  | _ => exact holds

/-- `_require_owned` makes no call. -/
theorem ensures_requireOwned {record : ContainerRecord} {host : Host}
    {post : Post Host Error Unit}
    (owned : OwnedBy participantId record.labels → post.returned () host)
    (foreign : ∀ message, post.raised (.ownership message) host) :
    (requireOwned record participantId).Ensures post host := by
  refine ensures_bind.mpr (ensures_raiseIf.mpr ⟨fun _ => foreign _, fun managed => ?_⟩)
  refine ensures_raiseIf.mpr ⟨fun _ => foreign _, fun labelled => ?_⟩
  exact owned ⟨not_not.mp managed, not_not.mp labelled⟩

/-- The labels of a payload are the participant's. -/
theorem ownedBy_payloadLabels (request : CreateRuntimeRequest) (fingerprint : String)
    (saveKey : Option Digest) :
    OwnedBy request.participantId (payloadLabels request fingerprint saveKey) := by
  constructor <;> cases saveKey <;> simp [payloadLabels, List.lookup,
    managedLabel, participantLabel]

/-- What follows the creation of a container. -/
theorem ensures_createOrFind {request : CreateRuntimeRequest} {name : String} {payload : Payload}
    {host : Host} (confined : Confined request.participantId [] base host)
    (mine : OwnedBy request.participantId payload.labels) :
    (self.createOrFind request name payload).Ensures
      ⟨fun created after =>
          match created with
          | .inl containerId => Confined request.participantId [containerId] base after
          | .inr _ => Confined request.participantId [] base after,
        fun _ => Confined request.participantId [] base, Confined request.participantId [] base⟩
      host := by
  refine ensures_tryCatch.mpr (ensures_map.mpr ?_)
  refine (self.ensures_createContainer confined mine).mono (fun _ _ => id)
    (fun error after held => ?_)
    fun _ => id
  refine ensures_ite.mpr ⟨fun _ => ?_, fun _ => held⟩
  have found : StaysWith request.participantId [] base (do
      let existing ← self.inspectContainer (.byName name)
      self.existingRecord existing request error) :=
    maintains_bind (staysWith_quiet (self.quiet_inspectContainer _)) fun existing =>
      staysWith_quiet (self.quiet_existingRecord existing request error)
  refine ensures_bind.mpr ?_
  exact (ensures_bind.mp (found after held)).mono (fun existing later inner =>
    ensures_map.mpr inner)
    (fun _ _ => id) fun _ => id

theorem staysWith_createFresh (request : CreateRuntimeRequest) (romPath : PurePath.Resolved)
    (name : String) :
    StaysWith request.participantId [] base (self.createFresh request romPath name) := by
  refine maintains_bind (staysWith_quiet self.quiet_listManagedRuntimes) fun managed => ?_
  refine maintains_bind maintains_raiseIf fun _ => ?_
  refine maintains_bind (staysWith_quiet (self.quiet_claimPersistence _)) fun saves => ?_
  refine maintains_bind (staysWith_quiet (self.quiet_runtimeDirectory _)) fun directory => ?_
  refine maintains_bind (staysWith_quiet (self.quiet_writeRuntimeSpec _ _)) fun _ => ?_
  intro host confined
  have computed := (self.quiet_payload request romPath directory (self.fingerprint request) saves
    (self.saveKey request)).ensures host
  refine ensures_bind.mpr (computed.mono (fun payload after both => ?_)
    (fun _ _ moved => confined.quiet moved) fun _ moved => confined.quiet moved)
  obtain ⟨moved, _, _, _, _, _, _, _, _, _, _, _, rfl⟩ := both
  refine ensures_bind.mpr ((self.ensures_createOrFind (confined.quiet moved)
    (ownedBy_payloadLabels request _ _)).mono (fun created later held => ?_) (fun _ _ => id)
    fun _ => id)
  cases created with
  | inl containerId =>
      exact (self.staysWith_limited (self.limited_launch List.mem_cons_self) later held).mono
        (fun _ _ kept => kept.forget) (fun _ _ kept => kept.forget) fun _ kept => kept.forget
  | inr record => exact held

theorem staysWith_createRuntime (request : CreateRuntimeRequest) :
    StaysWith request.participantId [] base (self.createRuntime request) := by
  refine maintains_bind (staysWith_quiet (self.quiet_validateRequest request)) fun romPath => ?_
  refine maintains_bind (staysWith_quiet (self.quiet_existingContainer _)) fun existing => ?_
  cases existing with
  | some container => exact staysWith_quiet (self.quiet_existingRecord container request _)
  | none => exact self.staysWith_createFresh request romPath _

theorem quiet_inspectRuntime (participantId : UUID) :
    quiet.Holds (self.inspectRuntime participantId) fun _ => True := by
  refine Frame.holds_bind (self.quiet_inspectContainer _) fun container _ => ?_
  refine Frame.holds_bind (quiet_requireOwned container participantId) fun _ _ => ?_
  exact (self.quiet_runtimeRecord container participantId).weaken fun _ _ => trivial

theorem quiet_capacity : quiet.Holds self.capacity fun _ => True :=
  Frame.holds_bind self.quiet_listManagedRuntimes fun _ _ => Frame.holds_pure trivial

theorem staysWith_stopRuntime (participantId : UUID) :
    StaysWith participantId [] base (self.stopRuntime participantId) := by
  intro host confined
  refine ensures_bind.mpr ((self.ensures_inspectContainer confined).mono
    (fun container after inspected => ?_) (fun _ _ => id) fun _ => id)
  refine ensures_bind.mpr (ensures_requireOwned (fun owned => ?_) fun _ => inspected.1)
  have stopped : StaysWith participantId [container.containerId] base _ :=
    self.staysWith_limited (self.limited_stopOwned (List.mem_singleton_self _))
  exact (stopped after (inspected.2 owned)).mono (fun _ _ kept => kept.forget)
    (fun _ _ kept => kept.forget) fun _ kept => kept.forget

theorem staysWith_removeRuntime (participantId : UUID) :
    StaysWith participantId [] base (self.removeRuntime participantId) := by
  intro host confined
  refine ensures_bind.mpr (ensures_tryCatch.mpr ((self.ensures_inspectContainer confined).mono
    (fun container after inspected => ?_) (fun error after held => ?_) fun _ => id))
  · refine ensures_bind.mpr (ensures_requireOwned (fun owned => ?_) fun _ => inspected.1)
    have removed : StaysWith participantId [container.containerId] base _ :=
      self.staysWith_limited (self.limited_removeOwned (List.mem_singleton_self _))
    exact (removed after (inspected.2 owned)).mono (fun _ _ kept => kept.forget)
      (fun _ _ kept => kept.forget) fun _ kept => kept.forget
  · refine ensures_bind.mpr ?_
    exact ((maintains_runIf fun _ => self.staysWith_limited self.limited_unpublish) after held).mono
      (fun _ _ kept => kept) (fun _ _ => id) fun _ => id

end RuntimeService

end Programs

/-! ## Reconciliation -/

theorem labelledParticipant_of_ownedBy {participantId : UUID} {labels : Labels}
    (owned : OwnedBy participantId labels) :
    RuntimeService.labelledParticipant labels = some participantId := by
  rw [RuntimeService.labelledParticipant, owned.2]
  exact UUID.parse_str participantId

/-- Since `base` containers moved only on their own, and files were removed only
of participants without a container. -/
structure Reconciling (managed : List UUID) (base host : Host) : Prop where
  trail : ∃ events, host.history = events ++ base.history ∧
    host.engine = base.engine.drifted (driftsOf events) ∧
    ∀ event ∈ events, ∀ containerId, ¬event.call.halts containerId
  files : ∀ registry name, (∀ participantId, participantId ∉ managed →
    name ≠ registry.fileName participantId) →
    (host.files registry).lookup name = (base.files registry).lookup name
  covered : ∀ container ∈ host.engine.containers, ∀ participantId,
    OwnedBy participantId container.labels → participantId ∈ managed

namespace Reconciling

variable {managed : List UUID} {base host after : Host}

theorem not_halts_of_harmless {call : Call} (harmless : call.harmless = true)
    (containerId : String) : ¬call.halts containerId := by
  rintro (rfl | rfl) <;> simp [Call.harmless] at harmless

theorem covered_within {before later : Engine} (within : before.Within later)
    (covered : ∀ container ∈ before.containers, ∀ participantId,
      OwnedBy participantId container.labels → participantId ∈ managed) :
    ∀ container ∈ later.containers, ∀ participantId,
      OwnedBy participantId container.labels → participantId ∈ managed := by
  intro container member participantId owned
  obtain ⟨earlier, earlierMember, same⟩ := within.containers container member
  exact covered earlier earlierMember participantId (same.labels ▸ owned)

theorem quiet (reconciling : Reconciling managed base host) (moved : Quiet host after) :
    Reconciling managed base after := by
  obtain ⟨events, history, engine, files, harmless⟩ := moved
  obtain ⟨trail, historyBefore, engineBefore, idle⟩ := reconciling.trail
  refine ⟨⟨events ++ trail, ?_, ?_, fun event member => ?_⟩, ?_, ?_⟩
  · rw [history, historyBefore, List.append_assoc]
  · rw [engine, engineBefore, driftsOf_append, Engine.drifted_append]
  · exact (List.mem_append.mp member).elim
      (fun new => not_halts_of_harmless (harmless event new)) (idle event)
  · rw [files]
    exact reconciling.files
  · rw [engine]
    exact covered_within (Engine.within_drifted _ _) reconciling.covered

/-- Removing the file of a participant without a container. -/
theorem unlink {dependencies : Dependencies} {registry : Registry} {participantId : UUID}
    (unmanaged : participantId ∉ managed) :
    (dependencies.invoke (.unlink registry participantId)).Maintains
      (Reconciling managed base) := by
  intro host reconciling
  refine ensures_invoke fun outcome after happens => ?_
  obtain ⟨trail, historyBefore, engineBefore, idle⟩ := reconciling.trail
  have covered : ∀ drifts : List Drift, ∀ container ∈ (host.drifted drifts).engine.containers,
      ∀ participantId, OwnedBy participantId container.labels → participantId ∈ managed :=
    fun drifts => covered_within (Engine.within_drifted _ _) reconciling.covered
  have moved : ∀ (drifts : List Drift) (applied : Bool) answer, ∃ events,
      ⟨.unlink registry participantId, drifts, applied, answer⟩ :: host.history =
        events ++ base.history ∧
      host.engine.drifted drifts = base.engine.drifted (driftsOf events) ∧
      ∀ event ∈ events, ∀ containerId, ¬event.call.halts containerId := by
    intro drifts applied answer
    refine ⟨⟨.unlink registry participantId, drifts, applied, answer⟩ :: trail, ?_, ?_, ?_⟩
    · rw [historyBefore, List.cons_append]
    · rw [driftsOf_cons, Engine.drifted_append, engineBefore]
    · intro event member
      rcases List.mem_cons.mp member with rfl | before
      · rintro containerId (call | call) <;> exact Call.noConfusion call
      · exact idle event before
  have working : ∀ drifts applied answer, Reconciling managed base
      (((Call.unlink registry participantId).effect dependencies host.history.length
        (host.drifted drifts)).record ⟨.unlink registry participantId, drifts,
          applied, answer⟩) := by
    intro drifts applied answer
    refine ⟨moved drifts applied answer, fun other name kept => ?_, covered drifts⟩
    refine Eq.trans ?_ (reconciling.files other name kept)
    by_cases same : other = registry
    · subst same
      simp only [Call.effect, Host.record_files, Host.withFiles_files_self]
      exact AList.lookup_erase_ne (kept participantId unmanaged)
    · simp only [Call.effect, Host.record_files, Host.withFiles_files_other _ _ _ same,
        Host.drifted_files]
  have failing : ∀ drifts, Reconciling managed base
      ((host.drifted drifts).record ⟨.unlink registry participantId, drifts, false, none⟩) :=
    fun drifts => ⟨moved drifts false none, reconciling.files, covered drifts⟩
  cases happens with
  | stopped => exact reconciling
  | returned drifts value _ => exact working drifts true _
  | lost drifts error value _ _ => exact working drifts true none
  | refused drifts error _ => exact failing drifts
  | failed drifts error _ => exact failing drifts

end Reconciling

/-- What a reconciliation may do between two hosts. -/
def ReconciledFrom (base after : Host) : Prop :=
  ∃ events, after.history = events ++ base.history ∧
    after.engine = base.engine.drifted (driftsOf events) ∧
    (∀ event ∈ events, ∀ containerId, ¬event.call.halts containerId) ∧
    ∀ registry name, (∀ participantId, (∀ container ∈ after.engine.containers,
      ¬OwnedBy participantId container.labels) → name ≠ registry.fileName participantId) →
      (after.files registry).lookup name = (base.files registry).lookup name

theorem Reconciling.reconciledFrom {managed : List UUID} {base host : Host}
    (reconciling : Reconciling managed base host) : ReconciledFrom base host := by
  obtain ⟨events, history, engine, idle⟩ := reconciling.trail
  refine ⟨events, history, engine, idle, fun registry name kept => ?_⟩
  refine reconciling.files registry name fun participantId unmanaged => kept participantId ?_
  exact fun container member owned =>
    unmanaged (reconciling.covered container member participantId owned)

theorem reconciledFrom_of_quiet {base after : Host} (moved : Quiet base after) :
    ReconciledFrom base after := by
  obtain ⟨events, history, engine, files, harmless⟩ := moved
  exact ⟨events, history, engine,
    fun event member => Reconciling.not_halts_of_harmless (harmless event member),
    fun _ _ _ => by rw [files]⟩

namespace RuntimeService

variable (self : RuntimeService) {managed : List UUID} {base : Host}

/-- Removing the files of participants without a container. -/
theorem reconciling_orphans {listed : List UUID}
    (remove : UUID → AgentProgram Unit)
    (removes : ∀ participantId ∉ managed, (remove participantId).Maintains
      (Reconciling managed base)) :
    ((listed.filter fun participantId => participantId ∉ managed).forM remove).Maintains
      (Reconciling managed base) :=
  maintains_forM fun participantId member => removes participantId (by
    simpa using (List.mem_filter.mp member).2)

theorem reconciling_metricsRemove {participantId : UUID} (unmanaged : participantId ∉ managed) :
    (self.metricsRemove participantId).Maintains (Reconciling managed base) :=
  maintains_ite (fun _ => maintains_pure _) fun _ => Reconciling.unlink unmanaged

theorem ensures_reconcileRoutes (host : Host) :
    self.reconcileRoutes.Ensures (Post.always (ReconciledFrom host)) host := by
  refine ensures_bind.mpr ((self.ensures_listManagedRuntimes host).mono
    (fun records after listing => ?_) (fun _ _ => reconciledFrom_of_quiet)
    fun _ => reconciledFrom_of_quiet)
  obtain ⟨moved, listed, within, participants⟩ := listing
  have covered : ∀ container ∈ after.engine.containers, ∀ participantId,
      OwnedBy participantId container.labels →
        participantId ∈ records.map fun record => record.participantId := by
    intro container member participantId owned
    obtain ⟨earlier, earlierMember, same⟩ := within.containers container member
    rw [participants]
    refine List.mem_filterMap.mpr ⟨earlier, List.mem_filter.mpr ⟨earlierMember, ?_⟩, ?_⟩
    · simp [ContainerRecord.managed, same.labels, owned.1]
    · rw [same.labels]
      exact labelledParticipant_of_ownedBy owned
  have start : Reconciling (records.map fun record => record.participantId) host after := by
    obtain ⟨events, history, engine, files, harmless⟩ := moved
    exact ⟨⟨events, history, engine, fun event member =>
      Reconciling.not_halts_of_harmless (harmless event member)⟩, fun _ _ _ => by
        rw [files], covered⟩
  have quietly : ∀ {α : Type} {program : AgentProgram α} {onValue : α → Prop},
      quiet.Holds program onValue → program.Maintains
        (Reconciling (records.map fun record => record.participantId) host) :=
    fun holds => holds.maintains fun _ _ moved reconciling => reconciling.quiet moved
  have rest : Program.Maintains (Reconciling (records.map fun record => record.participantId) host)
      (do
        let routed ← self.routesListParticipants
        let orphaned := routed.filter fun participantId =>
          participantId ∉ records.map fun record => record.participantId
        orphaned.forM self.routesRemove
        let targeted ← self.metricsListParticipants
        let orphanedTargets := targeted.filter fun participantId =>
          participantId ∉ records.map fun record => record.participantId
        orphanedTargets.forM self.metricsRemove
        pure (orphaned ∪ orphanedTargets).length : AgentProgram Nat) := by
    refine maintains_bind (quietly (self.quiet_listParticipants .routes)) fun routed => ?_
    refine maintains_bind (reconciling_orphans _ fun _ unmanaged =>
      Reconciling.unlink unmanaged) fun _ => ?_
    refine maintains_bind (quietly self.quiet_metricsListParticipants) fun targeted => ?_
    exact maintains_bind (reconciling_orphans _ fun _ unmanaged =>
      self.reconciling_metricsRemove unmanaged) fun _ => maintains_pure _
  exact (rest after start).mono (fun _ _ => Reconciling.reconciledFrom)
    (fun _ _ => Reconciling.reconciledFrom) fun _ => Reconciling.reconciledFrom

/-! ## Refusals -/

/-- The program raises no `OwnershipError`. -/
def Undisputed {α : Type} (program : AgentProgram α) : Prop :=
  ∀ host, program.Ensures
    ⟨fun _ _ => True, fun error _ => ∀ message, error ≠ .ownership message,
      fun _ => True⟩ host

theorem undisputed_bind {α β : Type} {program : AgentProgram β} {next : β → AgentProgram α}
    (first : Undisputed program) (rest : ∀ value, Undisputed (next value)) :
    Undisputed (program >>= next) := fun host =>
  ensures_bind.mpr ((first host).mono (fun value after _ => rest value after) (fun _ _ => id)
    fun _ => id)

/-- Only `_require_owned` raises it. -/
theorem undisputed_invoke {dependencies : Dependencies} (call : Call) :
    Undisputed (dependencies.invoke call) := by
  refine fun host => ensures_invoke fun outcome after happens => ?_
  have refusal : ∀ error, call.mayRaise error = true →
      ∀ message, error ≠ .ownership message := by
    rintro error allowed message rfl
    cases call <;> simp [Call.mayRaise, Error.isRuntimeAgentError] at allowed
  cases happens with
  | stopped | returned => trivial
  | lost drifts error value _ allowed => exact refusal error allowed
  | failed drifts error allowed => exact refusal error allowed
  | refused drifts error answered => exact Call.answer_error answered

theorem undisputed_unpublish (participantId : UUID) : Undisputed (self.unpublish participantId) :=
  undisputed_bind (undisputed_invoke _) fun _ host =>
    ensures_ite.mpr ⟨fun _ => trivial, fun _ => undisputed_invoke _ host⟩

/-- A refused operation has only looked at the host. -/
def refusing (base : Host) {α : Type} : Post Host Error α where
  returned _ _ := True
  raised error after := ∀ message, error = .ownership message → Quiet base after
  stopped _ := True

theorem Undisputed.refusing {α : Type} {program : AgentProgram α}
    (undisputed : Undisputed program) (base host : Host) : program.Ensures (refusing base) host :=
  (undisputed host).mono (fun _ _ => id) (fun _ _ differs message same =>
    absurd same (differs message))
    fun _ => id

/-- The refusal comes right after the inspection. -/
theorem refusing_owned {α : Type} {participantId : UUID} {record : ContainerRecord}
    {next : Unit → AgentProgram α} (undisputed : Undisputed (next ())) {base host : Host}
    (moved : Quiet base host) :
    (requireOwned record participantId >>= next).Ensures (refusing base) host :=
  ensures_bind.mpr (ensures_requireOwned (fun _ => undisputed.refusing base host)
    fun _ _ _ => moved)

theorem stopRuntime_refuses (participantId : UUID) (host : Host) :
    (self.stopRuntime participantId).Ensures (refusing host) host := by
  refine ensures_bind.mpr (((self.quiet_inspectContainer _).ensures host).mono
    (fun container after moved => ?_) (fun _ _ moved _ _ => moved) fun _ _ => trivial)
  refine refusing_owned ?_ moved.1
  refine undisputed_bind (undisputed_invoke _) fun _ => ?_
  refine undisputed_bind (undisputed_invoke _) fun _ => ?_
  exact undisputed_bind (undisputed_invoke _) fun _ _ => trivial

theorem removeRuntime_refuses (participantId : UUID) (host : Host) :
    (self.removeRuntime participantId).Ensures (refusing host) host := by
  have inspected := ((self.quiet_inspectContainer
    (.byName (containerName participantId))).ensures host).and (undisputed_invoke _ host)
  refine ensures_bind.mpr (ensures_tryCatch.mpr (inspected.mono
    (fun container after both => ?_) (fun error after both => ?_) fun _ _ => trivial))
  · refine refusing_owned ?_ both.1.1
    refine undisputed_bind (fun between => ensures_runIf.mpr
      ⟨fun _ => undisputed_invoke _ between, fun _ => trivial⟩) fun _ => ?_
    exact undisputed_bind (undisputed_invoke _) fun _ => self.undisputed_unpublish participantId
  · have unpublished : Undisputed (Program.runIf error.isNotFound
        (self.unpublish participantId)) := fun between =>
      ensures_runIf.mpr ⟨fun _ => self.undisputed_unpublish participantId between, fun _ =>
        trivial⟩
    exact ensures_bind.mpr ((unpublished after).mono
      (fun _ _ _ message same => absurd same (both.2 message))
      (fun _ _ differs message same => absurd same (differs message)) fun _ => id)

end RuntimeService

/-! ## The frame of an operation -/

/-- The files an operation may write or remove. A reconciliation removes only
files of participants that have no container with their ownership labels. -/
def Operation.mayWrite (operation : Operation) (after : Host) (registry : Registry)
    (name : String) : Prop :=
  match operation with
  | .create request => name = registry.fileName request.participantId ∨
      name = Registry.temporaryName request.participantId
  | .stop participantId | .remove participantId => name = registry.fileName participantId ∨
      name = Registry.temporaryName participantId
  | .reconcile => ∃ participantId, name = registry.fileName participantId ∧
      ∀ container ∈ after.engine.containers, ¬OwnedBy participantId container.labels
  | .inspect _ | .list | .capacity => False

/-- What an operation touches: it stops and removes only containers announced to
it, containers without the participant's ownership labels move only on their own,
and of the files only its own change. -/
structure TouchesOwn (operation : Operation) (before after : Host) : Prop where
  containers : ∃ events, after.history = events ++ before.history ∧
    match operation.participant with
    | some participantId => Throughout (OnlyAnnounced participantId) events ∧
        after.engine.others participantId =
          applyAll (driftsOf events) (before.engine.others participantId)
    | none => (∀ event ∈ events, ∀ containerId, ¬event.call.halts containerId) ∧
        after.engine = before.engine.drifted (driftsOf events)
  files : ∀ registry name, ¬operation.mayWrite after registry name →
    (after.files registry).lookup name = (before.files registry).lookup name

theorem Registry.fileName_injective (registry : Registry) :
    Function.Injective registry.fileName := by
  intro left right same
  have texts := congrArg String.toList same
  simp only [fileName, String.toList_append, List.append_assoc] at texts
  have names := List.append_cancel_right (List.append_cancel_left texts)
  exact UUID.str_injective (String.toList_injective names)

/-- In particular no file of another participant changes. -/
theorem TouchesOwn.published {operation : Operation} {before after : Host}
    (touches : TouchesOwn operation before after) {participantId : UUID}
    (about : operation.participant = some participantId) (registry : Registry) {other : UUID}
    (differs : other ≠ participantId) :
    after.published registry other = before.published registry other := by
  refine touches.files registry _ fun written => ?_
  have foreign : registry.fileName other ≠ registry.fileName participantId := fun same =>
    differs (registry.fileName_injective same)
  have named := registry.fileName_ne_temporaryName other participantId
  cases operation <;> simp only [Operation.participant, Option.some.injEq,
    reduceCtorEq] at about <;>
    subst about <;> simp_all [Operation.mayWrite]

theorem touchesOwn_of_quiet {operation : Operation} {before after : Host}
    (moved : Quiet before after) : TouchesOwn operation before after := by
  constructor
  · cases about : operation.participant with
    | none =>
        obtain ⟨events, history, engine, files, harmless⟩ := moved
        exact ⟨events, history, fun event member =>
          Reconciling.not_halts_of_harmless (harmless event member), engine⟩
    | some participantId =>
        obtain ⟨events, history, others, only, -⟩ :=
          ((Confined.refl participantId before).quiet moved).trail
        exact ⟨events, history, only, others⟩
  · obtain ⟨events, history, engine, files, harmless⟩ := moved
    intro registry name _
    rw [files]

theorem touchesOwn_of_confined {operation : Operation} {before after : Host} {participantId : UUID}
    (about : operation.participant = some participantId)
    (writes : ∀ registry name, (name = registry.fileName participantId ∨
      name = Registry.temporaryName participantId) → operation.mayWrite after registry name)
    (confined : Confined participantId [] before after) : TouchesOwn operation before after := by
  constructor
  · obtain ⟨events, history, others, only, -⟩ := confined.trail
    rw [about]
    exact ⟨events, history, only, others⟩
  · intro registry name foreign
    exact confined.files registry name (fun same => foreign (writes registry name (Or.inl same)))
      fun same => foreign (writes registry name (Or.inr same))

/-- A fact about the world that a program leaves. -/
theorem run_after {α β : Type} {program : AgentProgram β} {transform : β → α}
    {fact : Host → Prop} {host : Host} (ensures : program.Ensures (Post.always fact) host) :
    fact ((transform <$> program) host).2 := by
  rw [Program.map_after]
  exact ensures.after

theorem quiet_after {α : Type} {program : AgentProgram α} {onValue : α → Prop} {host : Host}
    (holds : quiet.Holds program onValue) : program.Ensures (Post.always (Quiet host)) host :=
  (holds.ensures host).mono (fun _ _ both => both.1) (fun _ _ => id) fun _ => id

/-- Each operation touches only its own. -/
theorem Agent.run_touchesOwn (agent : Agent) (step : Step) (host : Host) :
    TouchesOwn step.operation host (agent.run step host).2 := by
  obtain ⟨operation, dependencies⟩ := step
  cases operation with
  | create request =>
      exact touchesOwn_of_confined rfl (fun _ _ => id)
        (run_after ((agent.service dependencies).staysWith_createRuntime request host
          (Confined.refl _ host)))
  | inspect participantId =>
      exact touchesOwn_of_quiet (run_after (quiet_after
        ((agent.service dependencies).quiet_inspectRuntime participantId)))
  | stop participantId =>
      exact touchesOwn_of_confined rfl (fun _ _ => id)
        (run_after ((agent.service dependencies).staysWith_stopRuntime participantId host
          (Confined.refl _ host)))
  | remove participantId =>
      exact touchesOwn_of_confined rfl (fun _ _ => id)
        (run_after ((agent.service dependencies).staysWith_removeRuntime participantId host
          (Confined.refl _ host)))
  | list =>
      exact touchesOwn_of_quiet (run_after (quiet_after
        (agent.service dependencies).quiet_listManagedRuntimes))
  | reconcile =>
      have reconciled : ReconciledFrom host ((Reply.reconciled <$>
          (agent.service dependencies).reconcileRoutes : AgentProgram Reply) host).2 :=
        run_after ((agent.service dependencies).ensures_reconcileRoutes host)
      obtain ⟨events, history, engine, idle, files⟩ := reconciled
      refine ⟨⟨events, history, idle, engine⟩, fun registry name kept => ?_⟩
      refine files registry name fun participantId unmanaged same =>
        kept ⟨participantId, same, ?_⟩
      exact unmanaged
  | capacity =>
      exact touchesOwn_of_quiet
        (run_after (quiet_after (agent.service dependencies).quiet_capacity))

/-- A refused stop or removal has changed nothing: containers moved only on their own. -/
theorem Agent.run_refused (agent : Agent) (step : Step) (host : Host) {participantId : UUID}
    (halting : step.operation = .stop participantId ∨ step.operation = .remove participantId)
    {message : String} (refused : (agent.run step host).1 = .raised (.ownership message)) :
    Quiet host (agent.run step host).2 := by
  have ensures : (agent.run step).Ensures (RuntimeService.refusing host) host := by
    obtain ⟨operation, dependencies⟩ := step
    rcases halting with rfl | rfl
    · exact ensures_map.mpr ((agent.service dependencies).stopRuntime_refuses participantId host)
    · exact ensures_map.mpr ((agent.service dependencies).removeRuntime_refuses participantId host)
  unfold Program.Ensures at ensures
  rcases run : agent.run step host with ⟨outcome, after⟩
  rw [run] at ensures refused
  subst refused
  exact ensures message rfl

/-- After any operations on any host, the next one touches only its own, and an
`OwnershipError` from a stop or a removal has changed nothing. -/
theorem operations_touch_only_own (agent : Agent) (start : Host) (earlier : List Step)
    (step : Step) :
    let before := agent.execute start earlier
    let after := (agent.run step before).2
    TouchesOwn step.operation before after ∧
      ∀ participantId message,
        (step.operation = .stop participantId ∨ step.operation = .remove participantId) →
        (agent.run step before).1 = .raised (.ownership message) → Quiet before after :=
  ⟨agent.run_touchesOwn step _, fun _ _ halting refused =>
    agent.run_refused step _ halting refused⟩

end RetroBrowser.RuntimeAgent
