import RetroBrowser.RuntimeAgent.Properties.Removal

/-!
Owns which participants have a runtime at the agent, and what each operation does to them.

Contract: the list says nothing about states and keeps the engine's order. A creation appends the
participant or leaves the list as it is, a removal takes the participant out or leaves it, and
nothing else changes it while no container disappears on its own.
-/

namespace RetroBrowser.RuntimeAgent

open RetroBrowser.Foundation Program

/-! ## Participants of an engine -/

namespace Engine

/-- The participants with a managed container, in the engine's order. -/
def hosted (engine : Engine) : List UUID :=
  engine.managed.filterMap fun container => RuntimeService.labelledParticipant container.labels

/-- A managed container is a participant's and has the participant's name. -/
def Tended (engine : Engine) : Prop :=
  ∀ container ∈ engine.managed, ∃ participantId,
    OwnedBy participantId container.labels ∧ container.name = containerName participantId

variable {engine : Engine} {participantId : UUID} {container : Container}

theorem managed_of_owned (owned : OwnedBy participantId container.labels) :
    container.managed = true := by
  rw [ContainerRecord.managed, owned.1]
  rfl

theorem owner_unique {other : UUID} {labels : Labels} (owned : OwnedBy participantId labels)
    (owned' : OwnedBy other labels) : participantId = other := by
  have left := labelledParticipant_of_ownedBy owned
  rw [labelledParticipant_of_ownedBy owned'] at left
  exact (Option.some.inj left).symm

theorem Tended.name (tended : engine.Tended) (member : container ∈ engine.containers)
    (owned : OwnedBy participantId container.labels) :
    container.name = containerName participantId := by
  have ⟨other, owned', named⟩ :=
    tended container (mem_managed.mpr ⟨member, managed_of_owned owned⟩)
  rw [owner_unique owned owned']
  exact named

theorem Tended.mem_hosted (tended : engine.Tended) : participantId ∈ engine.hosted ↔
    ∃ container ∈ engine.containers, OwnedBy participantId container.labels := by
  constructor
  · intro inside
    have ⟨container, member, labelled⟩ := List.mem_filterMap.mp inside
    have ⟨owner, owned, _⟩ := tended container member
    rw [labelledParticipant_of_ownedBy owned] at labelled
    rw [← Option.some.inj labelled]
    exact ⟨container, (mem_managed.mp member).1, owned⟩
  · intro ⟨container, member, owned⟩
    exact List.mem_filterMap.mpr ⟨container, mem_managed.mpr ⟨member, managed_of_owned owned⟩,
      labelledParticipant_of_ownedBy owned⟩

/-- A participant has one container. -/
theorem Tended.eq_of_owned (tended : engine.Tended) {other : Container}
    (member : container ∈ engine.containers) (member' : other ∈ engine.containers)
    (owned : OwnedBy participantId container.labels)
    (owned' : OwnedBy participantId other.labels) : container = other :=
  eq_of_name member member' ((tended.name member owned).trans (tended.name member' owned').symm)

/-- Nobody has two runtimes. -/
theorem Tended.hosted_nodup (tended : engine.Tended) : engine.hosted.Nodup := by
  have names : engine.hosted.map containerName = engine.managed.map fun container =>
      container.name := by
    rw [hosted, List.map_filterMap, ← List.filterMap_eq_map]
    apply List.filterMap_congr
    intro container member
    have ⟨owner, owned, named⟩ := tended container member
    rw [labelledParticipant_of_ownedBy owned, Function.comp_apply, named]
    rfl
  apply List.Nodup.of_map containerName
  rw [names]
  exact engine.named.sublist ((List.filter_sublist).map _)

theorem tended_survives : Survives Tended := by
  intro before after within tended container member
  have ⟨earlier, earlierMember, same⟩ := within.managed member
  have ⟨owner, owned, named⟩ := tended earlier earlierMember
  exact ⟨owner, same.labels ▸ owned, same.name.symm.trans named⟩

theorem tended_of_unmanaged (unmanaged : engine.managed = []) : engine.Tended := by
  intro container member
  rw [unmanaged] at member
  exact absurd member List.not_mem_nil

section Effects

variable {containerId : String} {state : ContainerState → ContainerState}
  {health : HealthStatus → HealthStatus}

theorem hosted_adjust : (engine.adjust containerId state health).hosted = engine.hosted := by
  unfold hosted managed
  rw [adjust_containers, List.filter_map, List.filterMap_map]
  have managed : (fun container : Container => container.managed) ∘
      change containerId state health = fun container => container.managed := by
    funext container
    simp [ContainerRecord.managed]
  have labelled : (fun container : Container =>
      RuntimeService.labelledParticipant container.labels) ∘ change containerId state health =
        fun container => RuntimeService.labelledParticipant container.labels := by
    funext container
    simp
  rw [managed, labelled]

theorem hosted_insert (freshId : container.containerId ∉ engine.issued)
    (freshName : container.name ∉ engine.containers.map fun container => container.name)
    (owned : OwnedBy participantId container.labels) :
    (engine.insert container freshId freshName).hosted = engine.hosted ++ [participantId] := by
  rw [hosted, managed_insert, if_pos (managed_of_owned owned), List.filterMap_append,
    List.filterMap_cons, labelledParticipant_of_ownedBy owned]
  rfl

theorem tended_insert (tended : engine.Tended) (freshId : container.containerId ∉ engine.issued)
    (freshName : container.name ∉ engine.containers.map fun container => container.name)
    (owned : OwnedBy participantId container.labels)
    (named : container.name = containerName participantId) :
    (engine.insert container freshId freshName).Tended := by
  intro other member
  rw [managed_insert, if_pos (managed_of_owned owned)] at member
  cases List.mem_append.mp member with
  | inl before => exact tended other before
  | inr last =>
      rw [List.mem_singleton.mp last]
      exact ⟨participantId, owned, named⟩

/-- Without the participant's container, its participant is gone. -/
theorem Tended.hosted_discard (tended : engine.Tended) (member : container ∈ engine.containers)
    (owned : OwnedBy participantId container.labels) :
    (engine.discard container.containerId).hosted = engine.hosted.filter
      (· ≠ participantId) := by
  have managed : (engine.discard container.containerId).managed =
      engine.managed.filter fun other => other.containerId ≠ container.containerId := by
    unfold Engine.managed discard
    rw [List.filter_filter, List.filter_filter]
    exact List.filter_congr fun _ _ => Bool.and_comm _ _
  rw [hosted, managed, hosted, List.filterMap_filter, List.filter_filterMap]
  apply List.filterMap_congr
  intro other inside
  have ⟨owner, owned', _⟩ := tended other inside
  rw [labelledParticipant_of_ownedBy owned']
  by_cases same : owner = participantId
  · have equal := tended.eq_of_owned (mem_managed.mp inside).1 member (same ▸ owned') owned
    simp [equal, same, Option.filter]
  · have differs : other.containerId ≠ container.containerId := by
      intro identity
      have equal := eq_of_containerId (mem_managed.mp inside).1 member identity
      exact same (owner_unique (equal ▸ owned') owned)
    simp [differs, same, Option.filter]

theorem hosted_discard_absent (absent : ¬Present containerId engine) :
    (engine.discard containerId).hosted = engine.hosted := by
  have same : (engine.discard containerId).containers = engine.containers := by
    apply List.filter_eq_self.mpr
    intro container member
    exact decide_eq_true fun identity => absent ⟨container, member, identity⟩
  rw [hosted, managed, same]
  rfl

end Effects

end Engine

/-! ## Runs in which no container disappears -/

/-- The container is still there. -/
def Drift.lasts : Drift → Bool
  | .drifts _ _ _ => true
  | .vanishes _ => false

/-- So far no container has disappeared on its own. -/
def Host.Calm (host : Host) : Prop :=
  ∀ event ∈ host.history, event.drifts.all Drift.lasts = true

instance (host : Host) : Decidable host.Calm :=
  inferInstanceAs (Decidable (∀ event ∈ host.history, event.drifts.all Drift.lasts = true))

/-- The fact of the engine holds where no container has disappeared. -/
def Calmly (fact : Engine → Prop) (host : Host) : Prop := host.Calm → fact host.engine

/-- The fact does not depend on states and healths. -/
def Stays (fact : Engine → Prop) : Prop :=
  ∀ (engine : Engine) containerId state health, fact engine →
    fact (engine.adjust containerId state health)

/-- A call that makes no container and removes none. -/
def Call.gentle : Call → Bool
  | .createContainer _ _ | .removeContainer _ => false
  | _ => true

section Calm

variable {fact fact' : Engine → Prop} {host after : Host} {dependencies : Dependencies}

theorem Host.Calm.earlier (calm : after.Calm)
    (grown : ∃ events, after.history = events ++ host.history) :
    host.Calm := by
  have ⟨events, history⟩ := grown
  intro event member
  apply calm event
  rw [history]
  exact List.mem_append_right events member

theorem Calmly.mono (holds : Calmly fact host)
    (implies : ∀ engine, fact engine → fact' engine) :
    Calmly fact' host := fun calm => implies _ (holds calm)

theorem Stays.drifted (stays : Stays fact) {engine : Engine} (holds : fact engine)
    {drifts : List Drift} (lasting : drifts.all Drift.lasts = true) :
    fact (engine.drifted drifts) := by
  induction drifts generalizing engine with
  | nil => exact holds
  | cons drift rest inductionHypothesis =>
      rw [List.all_cons, Bool.and_eq_true] at lasting
      cases drift with
      | drifts containerId state health =>
          exact inductionHypothesis (stays _ _ _ _ holds) lasting.2
      | vanishes containerId => exact Bool.noConfusion lasting.1

/-- The fact holds when a call of a calm run is served. -/
theorem Calmly.served (holds : Calmly fact host) (stays : Stays fact) {event : Event}
    (calm : (after.record event).Calm) (history : after.history = host.history) :
    fact (host.drifted event.drifts).engine := by
  have lasting := calm event List.mem_cons_self
  have before : host.Calm := calm.earlier ⟨[event], by rw [Host.record_history, history]; rfl⟩
  exact stays.drifted (holds before) lasting

theorem Stays.undisturbed (stays : Stays fact) : Undisturbed (Calmly fact) := by
  intro before after ⟨events, history, engine, _, _⟩ holds calm
  rw [engine]
  apply stays.drifted (holds (calm.earlier ⟨events, history⟩))
  rw [List.all_eq_true]
  intro drift member
  have ⟨event, inside, drifts⟩ := List.mem_flatMap.mp member
  have lasting := calm event (history ▸ List.mem_append_left _ (List.mem_reverse.mp inside))
  exact List.all_eq_true.mp lasting drift drifts

theorem Stays.effect (stays : Stays fact) {call : Call} (gentle : call.gentle = true) {index : ℕ}
    (holds : fact host.engine) : fact (call.effect dependencies index host).engine := by
  by_cases harmless : call.harmless = true
  · rw [(Call.effect_harmless harmless).1]
    exact holds
  cases call with
  | createContainer | removeContainer => exact absurd gentle (by simp [Call.gentle])
  | startContainer | stopContainer => exact stays _ _ _ _ holds
  | write | unlink => exact holds
  | replace registry participantId =>
      simp only [Call.effect]
      split <;> exact holds
  | _ => exact absurd rfl harmless

theorem Stays.invoke (stays : Stays fact) {call : Call} (gentle : call.gentle = true) :
    (dependencies.invoke call).Maintains (Calmly fact) := by
  intro host holds
  apply ensures_invoke
  intro outcome after happens
  cases happens with
  | stopped => exact holds
  | returned drifts value =>
      exact fun calm => stays.effect gentle (holds.served stays calm (Call.effect_history call))
  | lost drifts error value =>
      exact fun calm => stays.effect gentle (holds.served stays calm (Call.effect_history call))
  | refused drifts error => exact fun calm => holds.served stays calm rfl
  | failed drifts error => exact fun calm => holds.served stays calm rfl

/-- A program of gentle calls maintains the fact. -/
theorem Stays.limited (stays : Stays fact) {α : Type} {allowed : Call → Prop}
    {program : AgentProgram α} (limited : Limited dependencies allowed program)
    (gentle : ∀ call, allowed call → call.gentle = true) : program.Maintains (Calmly fact) :=
  limited _ stays.undisturbed fun call inside => stays.invoke (gentle call inside)

theorem Stays.quietly (stays : Stays fact) {α : Type} {onValue : α → Prop}
    {program : AgentProgram α} (holds : quiet.Holds program onValue) :
    program.Maintains (Calmly fact) :=
  holds.maintains stays.undisturbed

theorem Call.Tends.gentle {participantId : UUID} {call : Call}
    (tends : call.Tends participantId []) :
    call.gentle = true := by
  cases call with
  | createContainer => exact tends.elim
  | removeContainer => exact absurd tends List.not_mem_nil
  | _ => rfl

end Calm

/-! ## Operations -/

/-- The runtimes of these participants, in this order. -/
def Hosts (participants : List UUID) (engine : Engine) : Prop :=
  engine.Tended ∧ engine.hosted = participants

/-- The list with the participant, who is last where they are new. -/
def including (participantId : UUID) (participants : List UUID) : List UUID :=
  if participantId ∈ participants then participants else participants ++ [participantId]

/-- The list without the participant. -/
def excluding (participantId : UUID) (participants : List UUID) : List UUID :=
  participants.filter (· ≠ participantId)

/-- The container is there, and it is the participant's. -/
def Houses (participantId : UUID) (containerId : String) (engine : Engine) : Prop :=
  ∃ container ∈ engine.containers, container.containerId = containerId ∧
    OwnedBy participantId container.labels

section Facts

variable {participants : List UUID} {participantId : UUID} {containerId : String}
  {engine : Engine} {fact fact' : Engine → Prop}

theorem hosts_stays : Stays (Hosts participants) := by
  intro engine containerId state health ⟨tended, hosted⟩
  constructor
  · exact Engine.tended_survives _ _ (Engine.within_adjust ..) tended
  · rw [Engine.hosted_adjust]
    exact hosted

theorem houses_stays : Stays (Houses participantId containerId) := by
  intro engine changed state health ⟨container, member, identity, owned⟩
  refine ⟨_, List.mem_map_of_mem member, ?_, ?_⟩
  · rw [Engine.change_containerId]
    exact identity
  · rw [Engine.change_labels]
    exact owned

theorem Stays.and (stays : Stays fact) (stays' : Stays fact') :
    Stays fun engine => fact engine ∧ fact' engine :=
  fun engine containerId state health both =>
    ⟨stays engine containerId state health both.1,
      stays' engine containerId state health both.2⟩

theorem Stays.or (stays : Stays fact) (stays' : Stays fact') :
    Stays fun engine => fact engine ∨ fact' engine :=
  fun engine containerId state health either =>
    either.imp (stays engine containerId state health) (stays' engine containerId state health)

theorem Stays.imp {condition : Prop} (stays : Stays fact) :
    Stays fun engine => condition → fact engine :=
  fun engine containerId state health holds given =>
    stays engine containerId state health (holds given)

theorem stays_const (condition : Prop) : Stays fun _ => condition :=
  fun _ _ _ _ holds => holds

theorem Hosts.without (hosts : Hosts participants engine)
    (houses : Houses participantId containerId engine) :
    Hosts (excluding participantId participants) (engine.discard containerId) := by
  have ⟨container, member, identity, owned⟩ := houses
  constructor
  · exact Engine.tended_survives _ _ (Engine.within_discard ..) hosts.1
  · rw [← identity, hosts.1.hosted_discard member owned, hosts.2]
    rfl

theorem excluding_absent (absent : participantId ∉ participants) :
    excluding participantId participants = participants := by
  apply List.filter_eq_self.mpr
  intro other member
  exact decide_eq_true fun same => absent (same ▸ member)

theorem excluding_last (absent : participantId ∉ participants) :
    excluding participantId (participants ++ [participantId]) = participants := by
  have before := excluding_absent absent
  unfold excluding at before ⊢
  rw [List.filter_append, before]
  simp

theorem Houses.present (houses : Houses participantId containerId engine) :
    Present containerId engine := by
  have ⟨container, member, identity, _⟩ := houses
  exact ⟨container, member, identity⟩

end Facts

namespace RuntimeService

variable {self : RuntimeService} {participants : List UUID} {participantId : UUID} {host : Host}

/-- An inspection by name: what it finds is the participant's only where they have a runtime, and
it finds nothing only where they have none. -/
theorem ensures_inspectHosted (self : RuntimeService) (participantId : UUID)
    {fact : Engine → Prop}
    (stays : Stays fact) (tended : ∀ engine, fact engine → engine.Tended)
    (holds : Calmly fact host) :
    (self.inspectContainer (.byName (containerName participantId))).Ensures
      ⟨fun container => Calmly fun engine => fact engine ∧
          (OwnedBy participantId container.labels →
            participantId ∈ engine.hosted ∧ Houses participantId container.containerId engine),
        fun error => Calmly fun engine => fact engine ∧
          (error.isNotFound = true → participantId ∉ engine.hosted),
        Calmly fact⟩ host := by
  apply ensures_invoke
  intro outcome after happens
  cases happens with
  | stopped => exact holds
  | returned drifts record answered =>
      intro calm
      have served := holds.served stays calm rfl
      refine ⟨served, fun owned => ?_⟩
      have ⟨container, found, same⟩ := Call.answer_inspect answered
      subst same
      have member := Engine.find?_mem found
      exact ⟨(tended _ served).mem_hosted.mpr ⟨container, member, owned⟩,
        container, member, rfl, owned⟩
  | lost drifts error value answered allowed =>
      intro calm
      refine ⟨holds.served stays calm rfl, fun missing => ?_⟩
      rw [inspectContainer_silent _ _ missing] at allowed
      exact Bool.noConfusion allowed
  | refused drifts error answered =>
      intro calm
      have served := holds.served stays calm rfl
      refine ⟨served, fun _ inside => ?_⟩
      have ⟨container, member, owned⟩ := (tended _ served).mem_hosted.mp inside
      have absent := List.find?_eq_none.mp (Call.onContainer_error answered).1 container member
      exact absent (beq_iff_eq.mpr ((tended _ served).name member owned))
  | failed drifts error allowed =>
      intro calm
      refine ⟨holds.served stays calm rfl, fun missing => ?_⟩
      rw [inspectContainer_silent _ _ missing] at allowed
      exact Bool.noConfusion allowed

/-! ### Removals -/

section Removal

variable {containerId : String}

/-- Stopping a container that is there. -/
theorem ensures_stopHoused
    (holds : Calmly (fun engine => Hosts participants engine ∧
      Houses participantId containerId engine) host) :
    (self.stopContainer containerId).Ensures
      ⟨fun _ => Calmly fun engine => Hosts participants engine ∧
          Houses participantId containerId engine,
        fun error => Calmly fun engine => Hosts participants engine ∧ error.isNotFound = false,
        Calmly (Hosts participants)⟩ host := by
  have stays : Stays fun engine => Hosts participants engine ∧
      Houses participantId containerId engine := hosts_stays.and houses_stays
  apply ensures_invoke
  intro outcome after happens
  cases happens with
  | stopped => exact holds.mono fun _ => And.left
  | returned drifts value =>
      intro calm
      exact stays _ _ _ _ (holds.served stays calm rfl)
  | lost drifts error value answered allowed =>
      intro calm
      have told : error.isNotFound = false := Bool.eq_false_iff.mpr fun missing => by
        rw [stopContainer_silent _ _ missing] at allowed
        exact Bool.noConfusion allowed
      exact ⟨hosts_stays _ _ _ _ (holds.served stays calm rfl).1, told⟩
  | refused drifts error answered =>
      intro calm
      have served := holds.served stays calm rfl
      exact absurd served.2.present (absent_of_missing (Call.onContainer_error answered).1)
  | failed drifts error allowed =>
      intro calm
      exact ⟨(holds.served stays calm rfl).1, Bool.eq_false_iff.mpr fun missing => by
        rw [stopContainer_silent _ _ missing] at allowed
        exact Bool.noConfusion allowed⟩

/-- Removing a container that is there. -/
theorem ensures_removeHoused
    (holds : Calmly (fun engine => Hosts participants engine ∧
      Houses participantId containerId engine) host) :
    (self.removeContainer containerId).Ensures
      ⟨fun _ => Calmly (Hosts (excluding participantId participants)),
        fun error => Calmly fun engine => (Hosts participants engine ∨
          Hosts (excluding participantId participants) engine) ∧ error.isNotFound = false,
        Calmly (Hosts participants)⟩ host := by
  have stays : Stays fun engine => Hosts participants engine ∧
      Houses participantId containerId engine := hosts_stays.and houses_stays
  apply ensures_invoke
  intro outcome after happens
  cases happens with
  | stopped => exact holds.mono fun _ => And.left
  | returned drifts value =>
      intro calm
      have served := holds.served stays calm rfl
      exact served.1.without served.2
  | lost drifts error value answered allowed =>
      intro calm
      have served := holds.served stays calm rfl
      exact ⟨Or.inr (served.1.without served.2), Bool.eq_false_iff.mpr fun missing => by
        rw [removeContainer_silent _ _ missing] at allowed
        exact Bool.noConfusion allowed⟩
  | refused drifts error answered =>
      intro calm
      have served := holds.served stays calm rfl
      exact absurd served.2.present (absent_of_missing (Call.onContainer_error answered).1)
  | failed drifts error allowed =>
      intro calm
      exact ⟨Or.inl (holds.served stays calm rfl).1, Bool.eq_false_iff.mpr fun missing => by
        rw [removeContainer_silent _ _ missing] at allowed
        exact Bool.noConfusion allowed⟩

theorem unpublish_keeps {fact : Engine → Prop} (stays : Stays fact) :
    (self.unpublish participantId).Maintains (Calmly fact) :=
  stays.limited (self.limited_unpublish) fun _ (tends : Call.Tends participantId [] _) =>
    tends.gentle

/-- What a removal leaves: the participant is out where it returns or raises `NotFoundError`. -/
def removalPost (participants : List UUID) (participantId : UUID) : Post Host Error Unit where
  returned _ := Calmly (Hosts (excluding participantId participants))
  raised error := Calmly fun engine =>
    (Hosts participants engine ∨ Hosts (excluding participantId participants) engine) ∧
      (error.isNotFound = true → Hosts (excluding participantId participants) engine)
  stopped := Calmly fun engine =>
    Hosts participants engine ∨ Hosts (excluding participantId participants) engine

theorem ensures_removeAndUnpublish
    (holds : Calmly (fun engine => Hosts participants engine ∧
      Houses participantId containerId engine) host) :
    Program.Ensures (do
      self.removeContainer containerId
      self.unpublish participantId) (removalPost participants participantId) host := by
  apply ensures_bind.mpr
  apply (ensures_removeHoused holds).mono
  · intro _ later gone
    apply (unpublish_keeps hosts_stays later gone).mono
    · exact fun _ _ => id
    · intro error last gone calm
      exact ⟨Or.inr (gone calm), fun _ => gone calm⟩
    · intro last gone calm
      exact Or.inr (gone calm)
  · intro error later left calm
    have ⟨either, found⟩ := left calm
    exact ⟨either, fun missing => absurd missing (Bool.eq_false_iff.mp found)⟩
  · intro later left calm
    exact Or.inl (left calm)

/-- What follows the inspection and the checks. -/
theorem ensures_removeOwned_hosts {container : ContainerRecord}
    (holds : Calmly (fun engine => Hosts participants engine ∧
      Houses participantId container.containerId engine) host) :
    Program.Ensures (do
      Program.runIf (container.state = .running) (self.stopContainer container.containerId)
      self.removeContainer container.containerId
      self.unpublish participantId) (removalPost participants participantId) host := by
  apply ensures_bind.mpr
  apply ensures_runIf.mpr
  constructor
  · intro _
    apply (ensures_stopHoused holds).mono
    · exact fun _ _ => ensures_removeAndUnpublish
    · intro error later left calm
      have ⟨hosts, found⟩ := left calm
      exact ⟨Or.inl hosts, fun missing => absurd missing (Bool.eq_false_iff.mp found)⟩
    · intro later left calm
      exact Or.inl (left calm)
  · intro _
    exact ensures_removeAndUnpublish holds

/-- A removal takes the participant out, or it raises; `NotFoundError` says that they are out. -/
theorem ensures_removeRuntime_hosts (holds : Calmly (Hosts participants) host) :
    (self.removeRuntime participantId).Ensures (removalPost participants participantId) host := by
  have inspected := self.ensures_inspectHosted participantId hosts_stays (fun _ => And.left) holds
  apply ensures_bind.mpr
  apply ensures_tryCatch.mpr
  apply inspected.mono
  · intro container after found
    apply ensures_bind.mpr
    apply ensures_requireOwned
    · intro owned
      apply ensures_removeOwned_hosts
      intro calm
      exact ⟨(found calm).1, ((found calm).2 owned).2⟩
    · intro message calm
      exact ⟨Or.inl (found calm).1, fun missing => Bool.noConfusion missing⟩
  · intro error after raised
    apply ensures_bind.mpr
    apply ensures_runIf.mpr
    constructor
    · intro missing
      have gone : Calmly (Hosts (excluding participantId participants)) after := by
        intro calm
        have ⟨hosts, absent⟩ := raised calm
        rw [excluding_absent (hosts.2 ▸ absent missing)]
        exact hosts
      apply (unpublish_keeps hosts_stays after gone).mono
      · intro _ last gone calm
        exact ⟨Or.inr (gone calm), fun _ => gone calm⟩
      · intro error last gone calm
        exact ⟨Or.inr (gone calm), fun _ => gone calm⟩
      · intro last gone calm
        exact Or.inr (gone calm)
    · intro found calm
      exact ⟨Or.inl (raised calm).1, fun missing => absurd missing found⟩
  · intro after stopped calm
    exact Or.inl (stopped calm)

end Removal

/-! ### Creations -/

section Creation

variable {α β : Type} {containerId : String} {request : CreateRuntimeRequest}

/-- What a creation leaves. -/
def creationPost (participants : List UUID) (participantId : UUID) : Post Host Error α where
  returned _ := Calmly (Hosts (including participantId participants))
  raised _ := Calmly fun engine =>
    Hosts participants engine ∨ Hosts (including participantId participants) engine
  stopped := Calmly fun engine =>
    Hosts participants engine ∨ Hosts (including participantId participants) engine

/-- The participant has no runtime yet. -/
def Without (participants : List UUID) (participantId : UUID) (engine : Engine) : Prop :=
  Hosts participants engine ∧ participantId ∉ participants

/-- The participant has a runtime now. -/
def With (participants : List UUID) (participantId : UUID) (engine : Engine) : Prop :=
  Hosts (participants ++ [participantId]) engine ∧ participantId ∉ participants

theorem without_stays : Stays (Without participants participantId) :=
  hosts_stays.and (stays_const _)

theorem with_stays : Stays (With participants participantId) := hosts_stays.and (stays_const _)

theorem including_new (absent : participantId ∉ participants) :
    including participantId participants = participants ++ [participantId] := if_neg absent

theorem With.hosts {engine : Engine} (created : With participants participantId engine) :
    Hosts (including participantId participants) engine := by
  rw [including_new created.2]
  exact created.1

/-- A quiet program, and what follows it. -/
theorem ensures_quietly {program : AgentProgram β} {next : β → AgentProgram α}
    {onValue : β → Prop} {post : Post Host Error α} {fact : Engine → Prop}
    (quietly : quiet.Holds program onValue) (stays : Stays fact) (holds : Calmly fact host)
    (raised : ∀ error after, Calmly fact after → post.raised error after)
    (stopped : ∀ after, Calmly fact after → post.stopped after)
    (rest : ∀ value after, onValue value → Calmly fact after →
      (next value).Ensures post after) :
    (program >>= next).Ensures post host := by
  apply ensures_bind.mpr
  apply (quietly.ensures host).mono
  · intro value after ⟨moved, meets⟩
    exact rest value after meets (stays.undisturbed _ _ moved holds)
  · intro error after moved
    exact raised error after (stays.undisturbed _ _ moved holds)
  · intro after moved
    exact stopped after (stays.undisturbed _ _ moved holds)

/-- A new container is the participant's. -/
theorem ensures_createContainer_hosts {payload : Payload}
    (owned : OwnedBy participantId payload.labels)
    (holds : Calmly (Without participants participantId) host) :
    (self.createContainer (containerName participantId) payload).Ensures
      ⟨fun containerId => Calmly fun engine => With participants participantId engine ∧
          Houses participantId containerId engine,
        fun _ => Calmly fun engine => Without participants participantId engine ∨
          With participants participantId engine,
        Calmly (Without participants participantId)⟩ host := by
  have created : ∀ {drifts : List Drift} {containerId : String},
      Without participants participantId (host.drifted drifts).engine →
      (Call.createContainer (containerName participantId) payload).answer self.dependencies
        host.history.length (host.drifted drifts) = .ok containerId →
      With participants participantId ((Call.createContainer (containerName participantId)
        payload).effect self.dependencies host.history.length (host.drifted drifts)).engine ∧
      Houses participantId containerId ((Call.createContainer (containerName participantId)
        payload).effect self.dependencies host.history.length (host.drifted drifts)).engine := by
    intro drifts containerId ⟨⟨tended, hosted⟩, absent⟩ answered
    have ⟨fresh, effect⟩ := Call.answer_create answered
    rw [effect]
    refine ⟨⟨⟨?_, ?_⟩, absent⟩, ?_⟩
    · exact Engine.tended_insert tended fresh.1 fresh.2 owned rfl
    · rw [Host.withEngine_engine, Engine.hosted_insert fresh.1 fresh.2 owned, hosted]
    · exact ⟨_, List.mem_append_right _ (List.mem_singleton_self _), rfl, owned⟩
  apply ensures_invoke
  intro outcome after happens
  cases happens with
  | stopped => exact holds
  | returned drifts containerId answered =>
      intro calm
      exact created (holds.served without_stays calm (Call.effect_history _)) answered
  | lost drifts error containerId answered =>
      intro calm
      have served := holds.served without_stays calm (Call.effect_history _)
      exact Or.inr (created served answered).1
  | refused drifts error =>
      intro calm
      exact Or.inl (holds.served without_stays calm rfl)
  | failed drifts error =>
      intro calm
      exact Or.inl (holds.served without_stays calm rfl)

/-- The container is the participant's, wherever it is. -/
def Mine (participantId : UUID) (containerId : String) (engine : Engine) : Prop :=
  ∀ container ∈ engine.containers, container.containerId = containerId →
    OwnedBy participantId container.labels

theorem mine_survives : Survives (Mine participantId containerId) := by
  intro before after within mine container member identity
  have ⟨earlier, earlierMember, same⟩ := within.containers container member
  rw [← same.labels]
  exact mine earlier earlierMember (same.containerId.trans identity)

/-- During the clean-up: the container is still there or it is gone. -/
def Leaving (participants : List UUID) (participantId : UUID) (containerId : String)
    (engine : Engine) : Prop :=
  Mine participantId containerId engine ∧
    (Without participants participantId engine ∨ With participants participantId engine)

theorem leaving_stays : Stays (Leaving participants participantId containerId) := by
  have mine_stays : Stays (Mine participantId containerId) := fun _ _ _ _ mine =>
    mine_survives _ _ (Engine.within_adjust ..) mine
  exact mine_stays.and (without_stays.or with_stays)

theorem Leaving.discard {engine : Engine}
    (leaving : Leaving participants participantId containerId engine) :
    Leaving participants participantId containerId (engine.discard containerId) := by
  have ⟨mine, either⟩ := leaving
  have mine' := mine_survives _ _ (Engine.within_discard engine containerId) mine
  refine ⟨mine', ?_⟩
  by_cases present : Present containerId engine
  · have ⟨container, member, identity⟩ := present
    have houses : Houses participantId containerId engine :=
      ⟨container, member, identity, mine container member identity⟩
    cases either with
    | inl without =>
        have hosts := without.1.without houses
        rw [excluding_absent without.2] at hosts
        exact Or.inl ⟨hosts, without.2⟩
    | inr created =>
        have hosts := created.1.without houses
        rw [excluding_last created.2] at hosts
        exact Or.inl ⟨hosts, created.2⟩
  · have tended : ∀ {held : List UUID}, Hosts held engine →
        Hosts held (engine.discard containerId) := by
      intro held ⟨tended, hosted⟩
      constructor
      · exact Engine.tended_survives _ _ (Engine.within_discard ..) tended
      · rw [Engine.hosted_discard_absent present, hosted]
    exact either.imp (fun without => ⟨tended without.1, without.2⟩)
      fun created => ⟨tended created.1, created.2⟩

theorem invoke_leaving {call : Call} (tends : call.Tends participantId [containerId]) :
    (self.dependencies.invoke call).Maintains
      (Calmly (Leaving participants participantId containerId)) := by
  cases call with
  | removeContainer removed =>
      have same := List.mem_singleton.mp tends
      subst same
      intro host holds
      apply ensures_invoke
      intro outcome after happens
      cases happens with
      | stopped => exact holds
      | returned drifts value =>
          exact fun calm => (holds.served leaving_stays calm rfl).discard
      | lost drifts error value =>
          exact fun calm => (holds.served leaving_stays calm rfl).discard
      | refused drifts error => exact fun calm => holds.served leaving_stays calm rfl
      | failed drifts error => exact fun calm => holds.served leaving_stays calm rfl
  | createContainer name payload => exact tends.elim
  | _ => exact leaving_stays.invoke rfl

theorem cleanUp_leaves : (self.cleanUp participantId containerId).Maintains
    (Calmly (Leaving participants participantId containerId)) :=
  self.limited_cleanUp (List.mem_singleton_self containerId) _ leaving_stays.undisturbed
    fun _ => invoke_leaving

theorem startAndPublish_keeps {fact : Engine → Prop} (stays : Stays fact) (name : String) :
    (self.startAndPublish request name containerId).Maintains (Calmly fact) := by
  have gentle : ∀ call, Call.Tends request.participantId [] call → call.gentle = true :=
    fun _ => Call.Tends.gentle
  refine maintains_bind (stays.invoke rfl) fun _ => ?_
  exact maintains_bind (stays.limited (self.limited_publish _ _) gentle) fun _ =>
    stays.limited (self.limited_metricsPublish _ _ _ _) gentle

theorem ensures_launch_hosts (name : String)
    (holds : Calmly (fun engine => With participants request.participantId engine ∧
      Houses request.participantId containerId engine) host) :
    (self.launch request name containerId).Ensures
      (creationPost participants request.participantId) host := by
  have stays : Stays fun engine => With participants request.participantId engine ∧
      Houses request.participantId containerId engine := with_stays.and houses_stays
  apply ensures_bind.mpr
  apply ensures_tryCatch.mpr
  apply (startAndPublish_keeps stays name host holds).mono
  · intro _ started held
    apply ensures_quietly (self.quiet_inspectContainer _) stays held
    · exact fun _ _ held calm => Or.inr (held calm).1.hosts
    · exact fun _ held calm => Or.inr (held calm).1.hosts
    · intro container after _ held
      apply ((stays.quietly (self.quiet_runtimeRecord container _)) after held).mono
      · exact fun _ _ held calm => (held calm).1.hosts
      · exact fun _ _ held calm => Or.inr (held calm).1.hosts
      · exact fun _ held calm => Or.inr (held calm).1.hosts
  · intro error failed held
    have leaving : Calmly (Leaving participants request.participantId containerId) failed := by
      intro calm
      have ⟨created, container, member, identity, owned⟩ := held calm
      refine ⟨fun other member' identity' => ?_, Or.inr created⟩
      rw [Engine.eq_of_containerId member' member (identity'.trans identity.symm)]
      exact owned
    have left : ∀ after, Calmly (Leaving participants request.participantId containerId) after →
        Calmly (fun engine => Hosts participants engine ∨
          Hosts (including request.participantId participants) engine) after :=
      fun after leaving calm => (leaving calm).2.imp And.left With.hosts
    apply ensures_bind.mpr
    apply (cleanUp_leaves failed leaving).mono
    · exact fun _ after leaving => left after leaving
    · exact fun _ after leaving => left after leaving
    · exact fun after leaving => left after leaving
  · exact fun _ held calm => Or.inr (held calm).1.hosts

/-- An inspection where it is not known whether the participant has a runtime. -/
theorem ensures_inspectEither
    (holds : Calmly (fun engine => Without participants participantId engine ∨
      With participants participantId engine) host) :
    (self.inspectContainer (.byName (containerName participantId))).Ensures
      ⟨fun container => Calmly fun engine => (Without participants participantId engine ∨
          With participants participantId engine) ∧
            (OwnedBy participantId container.labels → With participants participantId engine),
        fun _ => Calmly fun engine => Without participants participantId engine ∨
          With participants participantId engine,
        Calmly fun engine => Without participants participantId engine ∨
          With participants participantId engine⟩ host := by
  have tended : ∀ engine, Without participants participantId engine ∨
      With participants participantId engine → engine.Tended :=
    fun engine either => either.elim (fun without => without.1.1) fun created => created.1.1
  apply (self.ensures_inspectHosted participantId (without_stays.or with_stays) tended holds).mono
  · intro container after found calm
    have ⟨either, known⟩ := found calm
    refine ⟨either, fun owned => either.resolve_left fun without => ?_⟩
    exact without.2 (without.1.2 ▸ (known owned).1)
  · exact fun error after held calm => (held calm).1
  · exact fun _ => id

/-- A creation that conflicts finds the participant's container only where it is there. -/
theorem ensures_createOrFind_hosts {payload : Payload}
    (owned : OwnedBy request.participantId payload.labels)
    (holds : Calmly (Without participants request.participantId) host) :
    (self.createOrFind request (containerName request.participantId) payload).Ensures
      ⟨fun created => Calmly fun engine => With participants request.participantId engine ∧
          ∀ containerId, created = .inl containerId →
            Houses request.participantId containerId engine,
        fun _ => Calmly fun engine => Without participants request.participantId engine ∨
          With participants request.participantId engine,
        Calmly fun engine => Without participants request.participantId engine ∨
          With participants request.participantId engine⟩ host := by
  have stays : Stays fun engine => Without participants request.participantId engine ∨
      With participants request.participantId engine := without_stays.or with_stays
  apply ensures_tryCatch.mpr
  apply ensures_map.mpr
  apply (ensures_createContainer_hosts owned holds).mono
  · intro containerId after created calm
    refine ⟨(created calm).1, fun other same => ?_⟩
    rw [← Sum.inl.inj same]
    exact (created calm).2
  · intro error after either
    apply ensures_ite.mpr
    constructor
    · intro _
      apply ensures_bind.mpr
      apply (ensures_inspectEither either).mono
      · intro container between found
        apply ensures_map.mpr
        have lasting : Stays fun engine => (Without participants request.participantId engine ∨
            With participants request.participantId engine) ∧
              (OwnedBy request.participantId container.labels →
                With participants request.participantId engine) :=
          stays.and with_stays.imp
        have quietly := self.quiet_existingRecord container request error
        apply (quietly.ensures between).mono
        · intro record later ⟨moved, own⟩ calm
          have kept := lasting.undisturbed _ _ moved found calm
          exact ⟨kept.2 own.1, nofun⟩
        · exact fun _ later moved calm => (lasting.undisturbed _ _ moved found calm).1
        · exact fun later moved calm => (lasting.undisturbed _ _ moved found calm).1
      · exact fun _ _ => id
      · exact fun _ => id
    · exact fun _ => either
  · exact fun after without calm => Or.inl (without calm)

theorem ensures_createFresh_hosts (romPath : PurePath.Resolved)
    (holds : Calmly (Without participants request.participantId) host) :
    (self.createFresh request romPath (containerName request.participantId)).Ensures
      (creationPost participants request.participantId) host := by
  have raised : ∀ (error : Error) (after : Host),
      Calmly (Without participants request.participantId) after →
      Calmly (fun engine => Hosts participants engine ∨
        Hosts (including request.participantId participants) engine) after :=
    fun _ _ without calm => Or.inl (without calm).1
  have stopped := raised (.other "")
  apply ensures_quietly self.quiet_listManagedRuntimes without_stays holds raised stopped
  intro managed listed _ holds
  apply ensures_quietly Frame.holds_raiseIf without_stays holds raised stopped
  intro _ counted _ holds
  apply ensures_quietly (self.quiet_claimPersistence _) without_stays holds raised stopped
  intro saves claimed _ holds
  apply ensures_quietly (self.quiet_runtimeDirectory _) without_stays holds raised stopped
  intro directory provided _ holds
  apply ensures_quietly (self.quiet_writeRuntimeSpec _ _) without_stays holds raised stopped
  intro _ written _ holds
  apply ensures_quietly (self.quiet_payload _ _ _ _ _ _) without_stays holds raised stopped
  intro payload computed made holds
  have owned : OwnedBy request.participantId payload.labels := by
    have ⟨_, _, _, _, _, _, _, _, _, _, _, same⟩ := made
    rw [same]
    exact ownedBy_payloadLabels request _ _
  have either : ∀ {engine : Engine}, Without participants request.participantId engine ∨
      With participants request.participantId engine →
      Hosts participants engine ∨ Hosts (including request.participantId participants) engine :=
    fun held => held.imp And.left With.hosts
  apply ensures_bind.mpr
  apply (ensures_createOrFind_hosts owned holds).mono
  · intro created launched found
    cases created with
    | inl containerId =>
        apply ensures_launch_hosts
        intro calm
        exact ⟨(found calm).1, (found calm).2 containerId rfl⟩
    | inr record => exact fun calm => (found calm).1.hosts
  · exact fun _ after held calm => either (held calm)
  · exact fun after held calm => either (held calm)

/-- A creation that returns includes the participant; one that fails includes them or changes
nothing. -/
theorem ensures_createRuntime_hosts (holds : Calmly (Hosts participants) host) :
    (self.createRuntime request).Ensures (creationPost participants request.participantId)
      host := by
  apply ensures_quietly (self.quiet_validateRequest request) hosts_stays holds
    (fun _ _ hosts calm => Or.inl (hosts calm)) fun _ hosts calm => Or.inl (hosts calm)
  intro romPath checked _ holds
  apply ensures_bind.mpr
  apply ensures_tryCatch.mpr
  apply ensures_map.mpr
  have inspected := self.ensures_inspectHosted request.participantId hosts_stays
    (fun _ => And.left) holds
  apply inspected.mono
  · intro container after found
    have lasting : Stays fun engine => Hosts participants engine ∧
        (OwnedBy request.participantId container.labels →
          request.participantId ∈ participants) :=
      hosts_stays.and (stays_const _)
    have known : Calmly (fun engine => Hosts participants engine ∧
        (OwnedBy request.participantId container.labels →
          request.participantId ∈ participants)) after :=
      fun calm => ⟨(found calm).1, fun owned => (found calm).1.2 ▸ ((found calm).2 owned).1⟩
    apply ((self.quiet_existingRecord container request _).ensures after).mono
    · intro record later ⟨moved, own⟩ calm
      have ⟨hosts, inside⟩ := lasting.undisturbed _ _ moved known calm
      show Hosts (including request.participantId participants) _
      rw [including, if_pos (inside own.1)]
      exact hosts
    · exact fun _ later moved calm => Or.inl (lasting.undisturbed _ _ moved known calm).1
    · exact fun later moved calm => Or.inl (lasting.undisturbed _ _ moved known calm).1
  · intro error after failed
    apply ensures_ite.mpr
    constructor
    · intro missing
      apply ensures_createFresh_hosts
      intro calm
      exact ⟨(failed calm).1, (failed calm).1.2 ▸ (failed calm).2 missing⟩
    · exact fun _ calm => Or.inl (failed calm).1
  · exact fun after held calm => Or.inl (held calm)

end Creation

/-! ### Other operations -/

/-- A list names exactly the participants with a runtime. -/
theorem ensures_listManagedRuntimes_hosts (holds : Calmly (Hosts participants) host) :
    self.listManagedRuntimes.Ensures
      ⟨fun records => Calmly fun engine => Hosts participants engine ∧
          records.map (fun record => record.participantId) = participants,
        fun _ => Calmly (Hosts participants), Calmly (Hosts participants)⟩ host := by
  apply ensures_bind.mpr
  apply (self.ensures_listManagedContainers host).mono
  · intro summaries between ⟨moved, labels⟩
    have hosts := hosts_stays.undisturbed _ _ moved holds
    have named : Calmly (fun engine => Hosts participants engine ∧
        summaries.filterMap (fun summary => labelledParticipant summary.labels) = participants)
        between := by
      intro calm
      refine ⟨hosts calm, ?_⟩
      rw [← (hosts calm).2, Engine.hosted]
      have through : ∀ {γ : Type} (labelsOf : γ → Labels) (items : List γ),
          (items.filterMap fun item => labelledParticipant (labelsOf item)) =
            (items.map labelsOf).filterMap labelledParticipant := by
        intro γ labelsOf items
        rw [List.filterMap_map]
        rfl
      rw [through (fun summary : ContainerRecord => summary.labels), labels, ← through]
    have stays : Stays fun engine => Hosts participants engine ∧
        summaries.filterMap (fun summary => labelledParticipant summary.labels) = participants :=
      hosts_stays.and (stays_const _)
    apply ((self.quiet_managedRuntimes summaries).ensures between).mono
    · intro records after ⟨moved', same⟩ calm
      have ⟨hosts, listed⟩ := stays.undisturbed _ _ moved' named calm
      exact ⟨hosts, same.trans listed⟩
    · exact fun _ after moved' calm => (stays.undisturbed _ _ moved' named calm).1
    · exact fun after moved' calm => (stays.undisturbed _ _ moved' named calm).1
  · exact fun _ after moved => hosts_stays.undisturbed _ _ moved holds
  · exact fun after moved => hosts_stays.undisturbed _ _ moved holds

theorem inspectRuntime_hosts :
    (self.inspectRuntime participantId).Maintains (Calmly (Hosts participants)) :=
  hosts_stays.quietly (self.quiet_inspectRuntime participantId)

theorem stopRuntime_hosts :
    (self.stopRuntime participantId).Maintains (Calmly (Hosts participants)) := by
  refine maintains_bind (hosts_stays.quietly (self.quiet_inspectContainer _)) fun container => ?_
  refine maintains_bind (hosts_stays.quietly (quiet_requireOwned container _)) fun _ => ?_
  refine maintains_bind (hosts_stays.invoke rfl) fun _ => ?_
  refine maintains_bind (hosts_stays.quietly (self.quiet_inspectContainer _)) fun stopped => ?_
  exact hosts_stays.quietly (self.quiet_runtimeRecord stopped _)

theorem reconcileRoutes_hosts : self.reconcileRoutes.Maintains (Calmly (Hosts participants)) := by
  apply hosts_stays.limited self.limited_reconcileRoutes
  intro call ⟨registry, owner, same⟩
  rw [same]
  rfl

theorem capacity_hosts : self.capacity.Maintains (Calmly (Hosts participants)) :=
  hosts_stays.quietly self.quiet_capacity

end RuntimeService

/-! ## Histories grow -/

/-- What has happened stays in the history. -/
def growing : Frame Host where
  Keeps before after := ∃ events, after.history = events ++ before.history
  refl _ := ⟨[], rfl⟩
  trans := by
    intro before between after ⟨first, history⟩ ⟨second, history'⟩
    exact ⟨second ++ first, by rw [history', history, List.append_assoc]⟩

section Growing

variable {α : Type} {onValue : α → Prop} {program : AgentProgram α}
  {dependencies : Dependencies}

theorem growing_invoke (call : Call) :
    growing.Holds (dependencies.invoke call) fun _ => True := by
  intro host
  have happens := invoke_happens dependencies call host
  revert happens
  generalize (dependencies.invoke call host).1 = outcome
  generalize (dependencies.invoke call host).2 = after
  intro happens
  have one : ∀ {later : Host} {event : Event}, later.history = host.history →
      growing.Keeps host (later.record event) := by
    intro later event same
    exact ⟨[event], by rw [Host.record_history, same]; rfl⟩
  cases happens with
  | stopped => exact ⟨growing.refl host, trivial⟩
  | returned drifts value => exact ⟨one (Call.effect_history call), trivial⟩
  | lost drifts error value => exact ⟨one (Call.effect_history call), trivial⟩
  | refused drifts error => exact ⟨one rfl, trivial⟩
  | failed drifts error => exact ⟨one rfl, trivial⟩

theorem grows_of_quiet {before after : Host} (moved : Quiet before after) :
    growing.Keeps before after := by
  have ⟨events, history, _⟩ := moved
  exact ⟨events, history⟩

theorem growing_quiet (holds : quiet.Holds program onValue) : growing.Holds program onValue :=
  holds.imply fun _ _ => grows_of_quiet

theorem growing_limited {allowed : Call → Prop} (limited : Limited dependencies allowed program) :
    growing.Holds program fun _ => True :=
  limited.holds (fun _ _ => grows_of_quiet) fun call _ => growing_invoke call

theorem RuntimeService.growing_createRuntime (self : RuntimeService)
    (request : CreateRuntimeRequest) :
    growing.Holds (self.createRuntime request) fun _ => True :=
  holds_createRuntime (fun _ _ => grows_of_quiet) (fun _ _ => growing_invoke _)
    fun _ containerId => growing_limited
      (self.limited_launch (List.mem_singleton_self containerId))

end Growing

/-! ## Runs -/

/-- The operation neither creates nor removes a runtime. -/
def Operation.keepsRuntimes : Operation → Bool
  | .create _ | .remove _ => false
  | _ => true

namespace Agent

variable (agent : Agent) {participants : List UUID} {host : Host}

theorem run_grows (step : Step) : growing.Holds (agent.run step) fun _ => True := by
  have ⟨operation, dependencies⟩ := step
  cases operation with
  | create request =>
      exact Frame.holds_map ((agent.service dependencies).growing_createRuntime request)
        fun _ _ => trivial
  | inspect participantId =>
      exact Frame.holds_map (growing_quiet ((agent.service dependencies).quiet_inspectRuntime _))
        fun _ _ => trivial
  | stop participantId =>
      exact Frame.holds_map (growing_limited ((agent.service dependencies).limited_stopRuntime _))
        fun _ _ => trivial
  | remove participantId =>
      exact Frame.holds_map (growing_limited ((agent.service dependencies).limited_removeRuntime _))
        fun _ _ => trivial
  | list =>
      exact Frame.holds_map (growing_quiet (agent.service dependencies).quiet_listManagedRuntimes)
        fun _ _ => trivial
  | reconcile =>
      exact Frame.holds_map (growing_limited (agent.service dependencies).limited_reconcileRoutes)
        fun _ _ => trivial
  | capacity =>
      exact Frame.holds_map (growing_quiet (agent.service dependencies).quiet_capacity)
        fun _ _ => trivial

theorem execute_grows (steps : List Step) : growing.Keeps host (agent.execute host steps) := by
  apply agent.execute_keeps (growing.refl host)
  intro between step _ grown
  exact growing.trans grown (agent.run_grows step between).1

/-- What the agent does besides creating and removing leaves the runtimes as they are. -/
theorem execute_hosts {steps : List Step}
    (keeps : ∀ step ∈ steps, step.operation.keepsRuntimes = true)
    (holds : Calmly (Hosts participants) host) :
    Calmly (Hosts participants) (agent.execute host steps) := by
  apply agent.execute_keeps holds
  intro between step member held
  have kept := keeps step member
  have ⟨operation, dependencies⟩ := step
  cases operation with
  | create request => exact Bool.noConfusion kept
  | remove participantId => exact Bool.noConfusion kept
  | inspect participantId =>
      exact (maintains_map RuntimeService.inspectRuntime_hosts between held).after
  | stop participantId =>
      exact (maintains_map RuntimeService.stopRuntime_hosts between held).after
  | list =>
      have quietly := (agent.service dependencies).quiet_listManagedRuntimes
      exact (maintains_map (hosts_stays.quietly quietly) between held).after
  | reconcile => exact (maintains_map RuntimeService.reconcileRoutes_hosts between held).after
  | capacity => exact (maintains_map RuntimeService.capacity_hosts between held).after

end Agent

end RetroBrowser.RuntimeAgent
