import Mathlib.Data.List.Nodup
import RetroBrowser.RuntimeAgent.Models.Payload

/-!
Owns the container engine: the existing containers, of this agent and of other
projects, and the identifiers it has handed out. An engine carries the facts
that keep references unambiguous: identifiers and names of existing containers
are distinct, and an identifier is never handed out twice.

References are by identifier or by name. The engine tells them apart by itself:
its identifiers are 64 hexadecimal digits, and the names the agent looks up are
not of that form.
-/

namespace RetroBrowser.RuntimeAgent

open RetroBrowser.Foundation

/-- An existing container: its record and its mounts. -/
structure Container extends ContainerRecord where
  mounts : List Mount
deriving DecidableEq, Repr

inductive Reference where
  | byId (containerId : String)
  | byName (name : String)
deriving DecidableEq, Repr

def Reference.matches (reference : Reference) (container : Container) : Bool :=
  match reference with
  | .byId containerId => container.containerId == containerId
  | .byName name => container.name == name

/-- What a container does on its own: it changes its state or health, or it disappears. -/
inductive Drift where
  | drifts (containerId : String) (state : ContainerState) (healthStatus : HealthStatus)
  | vanishes (containerId : String)
deriving DecidableEq, Repr

/-- The label and the value that `list_managed_containers` filters by. -/
def managedLabel : String := "io.retrobrowser.runtime-agent.managed"

/-- `labels.get("io.retrobrowser.runtime-agent.managed") == "true"`. -/
def ContainerRecord.managed (record : ContainerRecord) : Bool :=
  record.labels.lookup managedLabel == some "true"

structure Engine where
  containers : List Container
  issued : List String
  distinct : (containers.map fun container => container.containerId).Nodup
  named : (containers.map fun container => container.name).Nodup
  recorded : ∀ container ∈ containers, container.containerId ∈ issued
deriving DecidableEq

namespace Engine

variable (engine : Engine)

/-- No containers. -/
def empty : Engine where
  containers := []
  issued := []
  distinct := List.nodup_nil
  named := List.nodup_nil
  recorded := by simp

def find? (reference : Reference) : Option Container :=
  engine.containers.find? reference.matches

/-- Change the state and the health of one container. -/
def change (containerId : String) (state : ContainerState → ContainerState)
    (health : HealthStatus → HealthStatus) (container : Container) : Container :=
  if container.containerId = containerId then
    { container with state := state container.state, healthStatus := health container.healthStatus }
  else container

section Change

variable (containerId : String) (state : ContainerState → ContainerState)
  (health : HealthStatus → HealthStatus) (container : Container)

@[simp] theorem change_containerId :
    (change containerId state health container).containerId = container.containerId := by
  unfold change
  split <;> rfl

@[simp] theorem change_name :
    (change containerId state health container).name = container.name := by
  unfold change
  split <;> rfl

@[simp] theorem change_labels :
    (change containerId state health container).labels = container.labels := by
  unfold change
  split <;> rfl

@[simp] theorem change_mounts :
    (change containerId state health container).mounts = container.mounts := by
  unfold change
  split <;> rfl

theorem change_other (other : container.containerId ≠ containerId) :
    change containerId state health container = container :=
  if_neg other

end Change

def adjust (containerId : String) (state : ContainerState → ContainerState)
    (health : HealthStatus → HealthStatus) : Engine where
  containers := engine.containers.map (change containerId state health)
  issued := engine.issued
  distinct := by simpa [List.map_map, Function.comp_def] using engine.distinct
  named := by simpa [List.map_map, Function.comp_def] using engine.named
  recorded := by
    intro container member
    obtain ⟨before, beforeMember, rfl⟩ := List.mem_map.mp member
    simpa using engine.recorded before beforeMember

def discard (containerId : String) : Engine where
  containers := engine.containers.filter fun container => container.containerId ≠ containerId
  issued := engine.issued
  distinct := engine.distinct.sublist ((List.filter_sublist).map _)
  named := engine.named.sublist ((List.filter_sublist).map _)
  recorded := fun container member => engine.recorded container (List.mem_of_mem_filter member)

def insert (container : Container) (freshId : container.containerId ∉ engine.issued)
    (freshName : container.name ∉ engine.containers.map fun container => container.name) :
    Engine where
  containers := engine.containers ++ [container]
  issued := container.containerId :: engine.issued
  distinct := by
    rw [List.map_append, List.map_singleton]
    refine engine.distinct.append (List.nodup_singleton _) fun id member single => ?_
    rw [List.mem_singleton.mp single] at member
    obtain ⟨other, otherMember, same⟩ := List.mem_map.mp member
    exact freshId (same ▸ engine.recorded other otherMember)
  named := by
    rw [List.map_append, List.map_singleton]
    refine engine.named.append (List.nodup_singleton _) fun name member single => ?_
    exact freshName (List.mem_singleton.mp single ▸ member)
  recorded := by
    intro other member
    rcases List.mem_append.mp member with inside | last
    · exact List.mem_cons_of_mem _ (engine.recorded other inside)
    · rw [List.mem_singleton.mp last]
      exact List.mem_cons_self

/-- The container of a payload, not started yet. -/
def created (containerId name : String) (payload : Payload) : Container where
  containerId := containerId
  name := name
  state := .created
  healthStatus := .none
  labels := payload.labels
  image := payload.image
  mounts := payload.hostConfig.mounts

def started (_ : ContainerState) : ContainerState := .running

/-- Stopping a container that is not active changes nothing. -/
def halted (state : ContainerState) : ContainerState :=
  match state with
  | .running | .paused | .restarting => .exited
  | other => other

/-- One step of what containers do on their own. -/
def drift (engine : Engine) : Drift → Engine
  | .drifts containerId state healthStatus =>
    engine.adjust containerId (fun _ => state) fun _ => healthStatus
  | .vanishes containerId => engine.discard containerId

def drifted (drifts : List Drift) : Engine := drifts.foldl drift engine

/-- The managed containers, in the engine's order. -/
def managed : List Container := engine.containers.filter fun container => container.managed

section Fields

variable {engine : Engine} {containerId : String} {state : ContainerState → ContainerState}
  {health : HealthStatus → HealthStatus} {container : Container}

@[simp] theorem adjust_containers : (engine.adjust containerId state health).containers =
    engine.containers.map (change containerId state health) := rfl

@[simp] theorem adjust_issued :
    (engine.adjust containerId state health).issued = engine.issued := rfl

theorem mem_discard : container ∈ (engine.discard containerId).containers ↔
    container ∈ engine.containers ∧ container.containerId ≠ containerId := by
  simp [discard]

@[simp] theorem discard_issued : (engine.discard containerId).issued = engine.issued := rfl

end Fields

variable {engine}

theorem eq_of_containerId {left right : Container} (leftMember : left ∈ engine.containers)
    (rightMember : right ∈ engine.containers) (same : left.containerId = right.containerId) :
    left = right :=
  List.inj_on_of_nodup_map engine.distinct leftMember rightMember same

theorem eq_of_name {left right : Container} (leftMember : left ∈ engine.containers)
    (rightMember : right ∈ engine.containers) (same : left.name = right.name) : left = right :=
  List.inj_on_of_nodup_map engine.named leftMember rightMember same

/-! ## Engines that only lost containers -/

/-- The same container, perhaps in another state. -/
structure Same (left right : Container) : Prop where
  containerId : left.containerId = right.containerId
  name : left.name = right.name
  labels : left.labels = right.labels
  mounts : left.mounts = right.mounts

theorem same_change (containerId : String) (state : ContainerState → ContainerState)
    (health : HealthStatus → HealthStatus) (container : Container) :
    Same container (change containerId state health container) where
  containerId := (change_containerId ..).symm
  name := (change_name ..).symm
  labels := (change_labels ..).symm
  mounts := (change_mounts ..).symm

/-- Every container of `after` was in `before`, and identifiers stay issued. -/
structure Within (before after : Engine) : Prop where
  containers : ∀ container ∈ after.containers, ∃ earlier ∈ before.containers,
    Same earlier container
  issued : before.issued ⊆ after.issued

theorem Within.refl (engine : Engine) : Within engine engine where
  containers container member := ⟨container, member, rfl, rfl, rfl, rfl⟩
  issued := List.Subset.refl _

theorem Within.trans {before between after : Engine} (first : Within before between)
    (second : Within between after) : Within before after where
  containers := by
    intro container member
    obtain ⟨middle, middleMember, same⟩ := second.containers container member
    obtain ⟨earlier, earlierMember, same'⟩ := first.containers middle middleMember
    exact ⟨earlier, earlierMember, same'.containerId.trans same.containerId,
      same'.name.trans same.name, same'.labels.trans same.labels, same'.mounts.trans same.mounts⟩
  issued := fun _ member => second.issued (first.issued member)

theorem within_adjust (engine : Engine) (containerId : String)
    (state : ContainerState → ContainerState) (health : HealthStatus → HealthStatus) :
    Within engine (engine.adjust containerId state health) where
  containers := by
    intro container member
    obtain ⟨earlier, earlierMember, rfl⟩ := List.mem_map.mp member
    exact ⟨earlier, earlierMember, same_change containerId state health earlier⟩
  issued := List.Subset.refl _

theorem within_discard (engine : Engine) (containerId : String) :
    Within engine (engine.discard containerId) where
  containers container member := ⟨container, (mem_discard.mp member).1, rfl, rfl, rfl, rfl⟩
  issued := List.Subset.refl _

theorem within_drift (engine : Engine) (drift : Drift) : Within engine (engine.drift drift) := by
  cases drift with
  | drifts containerId state healthStatus => exact within_adjust ..
  | vanishes containerId => exact within_discard ..

theorem within_drifted (engine : Engine) (drifts : List Drift) :
    Within engine (engine.drifted drifts) := by
  induction drifts generalizing engine with
  | nil => exact Within.refl engine
  | cons drift rest inductionHypothesis =>
      exact (within_drift engine drift).trans (inductionHypothesis (engine.drift drift))

theorem find?_mem {reference : Reference} {container : Container}
    (found : engine.find? reference = some container) : container ∈ engine.containers :=
  List.mem_of_find?_eq_some found

theorem find?_id {containerId : String} {container : Container}
    (found : engine.find? (.byId containerId) = some container) :
    container.containerId = containerId := by
  simpa [Reference.matches] using List.find?_some found

theorem find?_name {name : String} {container : Container}
    (found : engine.find? (.byName name) = some container) : container.name = name := by
  simpa [Reference.matches] using List.find?_some found

end Engine

end RetroBrowser.RuntimeAgent
