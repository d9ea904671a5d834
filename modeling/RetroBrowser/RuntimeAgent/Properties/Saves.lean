import RetroBrowser.RuntimeAgent.Properties.Ownership

/-!
Owns the single writer of a save and the bound on runtimes: every managed
container was made for one of the run's requests, no two of them carry the same
save key, and there are never more of them than the configuration allows.

Contract: the invariant speaks of the engine alone and survives every call but
`create_container`; that call is reached only after the capacity and the save
key have been checked, and no call in between adds a container.
-/

namespace RetroBrowser.RuntimeAgent

open RetroBrowser.Foundation
open RetroBrowser.Foundation.Program

/-! ## Managed containers -/

namespace Engine

variable {engine before after : Engine}

theorem mem_managed {container : Container} : container ∈ engine.managed ↔
    container ∈ engine.containers ∧ container.managed = true := by
  simp [managed]

theorem Same.managed {left right : Container} (same : Same left right) :
    left.managed = right.managed := by
  simp only [ContainerRecord.managed, same.labels]

/-- A managed container was managed before. -/
theorem Within.managed (within : Within before after) {container : Container}
    (member : container ∈ after.managed) :
    ∃ earlier ∈ before.managed, Same earlier container := by
  obtain ⟨inside, managed⟩ := mem_managed.mp member
  obtain ⟨earlier, earlierMember, same⟩ := within.containers container inside
  exact ⟨earlier, mem_managed.mpr ⟨earlierMember, same.managed.trans managed⟩, same⟩

theorem managed_distinct (engine : Engine) :
    (engine.managed.map fun container => container.containerId).Nodup :=
  engine.distinct.sublist ((List.filter_sublist).map _)

/-- Engines that lost containers do not have more managed ones. -/
theorem Within.length_managed (within : Within before after) :
    after.managed.length ≤ before.managed.length := by
  have inside : (after.managed.map fun container => container.containerId) ⊆
      before.managed.map fun container => container.containerId := by
    intro containerId member
    obtain ⟨container, managed, rfl⟩ := List.mem_map.mp member
    obtain ⟨earlier, earlierMember, same⟩ := within.managed managed
    exact List.mem_map.mpr ⟨earlier, earlierMember, same.containerId⟩
  have counted := (List.subperm_of_subset after.managed_distinct inside).length_le
  simpa using counted

theorem managed_insert {container : Container} (freshId : container.containerId ∉ engine.issued)
    (freshName : container.name ∉ engine.containers.map fun container => container.name) :
    (engine.insert container freshId freshName).managed =
      engine.managed ++ if container.managed then [container] else [] := by
  simp only [managed, insert, List.filter_append]
  congr 1
  by_cases managed : container.managed = true <;> simp [managed]

end Engine

/-! ## Engines that lose containers -/

/-- Every call but `create_container` leaves the containers that were there, or fewer. -/
theorem Call.within_effect {dependencies : Dependencies} {index : Nat} {host : Host} {call : Call}
    (creates : ∀ name payload, call ≠ .createContainer name payload) :
    host.engine.Within (call.effect dependencies index host).engine := by
  by_cases harmless : call.harmless = true
  · rw [(effect_harmless harmless).1]
    exact Engine.Within.refl _
  cases call with
  | createContainer name payload => exact absurd rfl (creates name payload)
  | startContainer | stopContainer => exact Engine.within_adjust ..
  | removeContainer => exact Engine.within_discard ..
  | write | unlink => exact Engine.Within.refl _
  | replace registry participantId =>
      simp only [effect]
      split <;> exact Engine.Within.refl _
  | _ => exact absurd rfl harmless

/-- The fact of an engine survives the loss of containers. -/
def Survives (fact : Engine → Prop) : Prop :=
  ∀ before after : Engine, before.Within after → fact before → fact after

variable {fact : Engine → Prop}

theorem Survives.undisturbed (survives : Survives fact) :
    Undisturbed fun host => fact host.engine := by
  rintro before after ⟨events, -, engine, -, -⟩ holds
  rw [engine]
  exact survives _ _ (Engine.within_drifted before.engine _) holds

/-- A surviving fact is maintained by calls that create no container. -/
theorem Survives.maintains_invoke (survives : Survives fact) {dependencies : Dependencies}
    {call : Call} (creates : ∀ name payload, call ≠ .createContainer name payload) :
    (dependencies.invoke call).Maintains fun host => fact host.engine := fun host holds =>
  ensures_invoke fun outcome after happens => by
    have drifted : ∀ drifts : List Drift, fact (host.drifted drifts).engine := fun drifts =>
      survives _ _ (Engine.within_drifted host.engine drifts) holds
    have worked : ∀ drifts : List Drift,
        fact (call.effect dependencies host.history.length (host.drifted drifts)).engine :=
      fun drifts => survives _ _ (Call.within_effect creates) (drifted drifts)
    cases happens with
    | stopped => exact holds
    | returned drifts => exact worked drifts
    | lost drifts => exact worked drifts
    | refused drifts => exact drifted drifts
    | failed drifts => exact drifted drifts

theorem Call.Tends.creates {participantId : UUID} {known : List String} {call : Call}
    (tends : call.Tends participantId known) (name : String) (payload : Payload) :
    call ≠ .createContainer name payload := by
  rintro rfl
  exact tends

/-- So is it by programs about one participant. -/
theorem Survives.limited (survives : Survives fact) {α : Type} {dependencies : Dependencies}
    {allowed : Call → Prop} {program : AgentProgram α}
    (limited : Limited dependencies allowed program)
    (creates : ∀ call, allowed call →
      ∀ name payload, call ≠ .createContainer name payload) :
    program.Maintains fun host => fact host.engine :=
  limited _ survives.undisturbed fun call inside => survives.maintains_invoke (creates call inside)

/-! ## Containers made for requests -/

/-- The container has a mount at the launcher's save directory. -/
def Container.CarriesSaves (container : Container) : Prop :=
  ∃ mount ∈ container.mounts, mount.target = "/run/retro-saves"

namespace RuntimeService

variable (self : RuntimeService)

/-- The container has the labels and the mounts of a payload for this request;
its save directory is the one of the request's save key. -/
def MadeFor (request : CreateRuntimeRequest) (container : Container) : Prop :=
  ∃ romPath directory payload, self.Claimed (self.saveKey request) directory ∧
    self.PayloadOf request romPath (self.fingerprint request) directory (self.saveKey request)
      payload ∧
    container.labels = payload.labels ∧ container.mounts = payload.hostConfig.mounts

variable {self} {request : CreateRuntimeRequest} {container : Container}

theorem MadeFor.same {other : Container} (made : self.MadeFor request container)
    (same : Engine.Same container other) : self.MadeFor request other := by
  obtain ⟨romPath, directory, payload, claimed, computed, labels, mounts⟩ := made
  exact ⟨romPath, directory, payload, claimed, computed, same.labels.symm.trans labels,
    same.mounts.symm.trans mounts⟩

theorem MadeFor.labels (made : self.MadeFor request container) :
    container.labels = payloadLabels request (self.fingerprint request) (self.saveKey request) := by
  obtain ⟨_, _, _, _, ⟨_, _, _, _, _, _, _, _, _, _, _, rfl⟩, labels, _⟩ := made
  exact labels

theorem MadeFor.participant (made : self.MadeFor request container) :
    labelledParticipant container.labels = some request.participantId := by
  rw [made.labels]
  exact labelledParticipant_of_ownedBy (ownedBy_payloadLabels request _ _)

/-- The label of the save key. -/
theorem lookup_saveKeyLabel (request : CreateRuntimeRequest) (fingerprint : String)
    (saveKey : Option Digest) :
    (payloadLabels request fingerprint saveKey).lookup saveKeyLabel =
      saveKey.map Digest.hexdigest := by
  cases saveKey <;> simp [payloadLabels, List.lookup, managedLabel, participantLabel, sessionLabel,
    fingerprintLabel, subfolderLabel, saveKeyLabel]

theorem containerRom_ne (suffix : PurePath.Text) :
    self.containerRom suffix ≠ "/run/retro-saves" := by
  intro same
  have seventh := congrArg (fun text : String => text.toList[6]?) same
  simp [containerRom] at seventh

/-- A container carries a save mount just when its request has a save key. -/
theorem MadeFor.carriesSaves (made : self.MadeFor request container) :
    container.CarriesSaves ↔ (self.saveKey request).isSome = true := by
  obtain ⟨romPath, directory, payload, claimed,
    ⟨romRoot, dockerRomRoot, dockerUserDataRoot, userDataRelative, saves, env,
      -, -, -, mounted, -, rfl⟩, -, mounts⟩ := made
  have own : ∀ mount ∈ [self.romMount romPath dockerRomRoot (romPath.relativeTo romRoot),
      userDataMount dockerUserDataRoot userDataRelative], mount.target ≠ "/run/retro-saves" := by
    intro mount member
    rcases List.mem_cons.mp member with rfl | userData
    · exact containerRom_ne romPath.suffix
    · rw [List.mem_singleton.mp userData]
      show "/run/retro-session" ≠ "/run/retro-saves"
      decide
  unfold Container.CarriesSaves
  rw [mounts]
  unfold Claimed at claimed
  cases key : self.saveKey request with
  | none =>
      rw [key] at claimed
      obtain rfl : saves = [] := by rw [claimed] at mounted; exact mounted
      refine ⟨fun ⟨mount, member, target⟩ => absurd target (own mount ?_),
        fun some => by simp at some⟩
      simpa [payloadDocument] using member
  | some key' =>
      rw [key] at claimed
      obtain ⟨saved, rfl, -⟩ := claimed
      obtain ⟨saveDataRoot, root, dockerRoot, -, -, rfl, -⟩ := mounted
      exact ⟨fun _ => rfl, fun _ => ⟨_, List.mem_append_right _ List.mem_cons_self, rfl⟩⟩

end RuntimeService

/-! ## The key material -/

/-- What a save belongs to. -/
structure SaveIdentity where
  userId : String
  coreProfile : String
  romSha256 : String
deriving DecidableEq, Repr

def CreateRuntimeRequest.saveIdentity (request : CreateRuntimeRequest) : SaveIdentity :=
  ⟨request.userId, request.coreProfile, request.romSha256⟩

theorem toList_loop (bytes : ByteArray) (index : Nat) (read : List UInt8) :
    ByteArray.toList.loop bytes index read = read.reverse ++ bytes.data.toList.drop index := by
  fun_induction ByteArray.toList.loop bytes index read with
  | case1 index read inside inductionHypothesis =>
      have within : index < bytes.data.toList.length := by simpa using inside
      rw [inductionHypothesis, List.reverse_cons, List.append_assoc,
        List.drop_eq_getElem_cons within]
      have byte : bytes.get! index = bytes.data.toList[index] := by
        rw [Array.getElem_toList]
        exact getElem!_pos bytes.data index (by simpa using within)
      rw [byte]
      rfl
  | case2 index read outside =>
      rw [List.drop_eq_nil_of_le (by simpa using outside), List.append_nil]

/-- Different texts have different bytes. -/
theorem encode_injective : Function.Injective encode := by
  intro left right same
  unfold encode at same
  rw [ByteArray.toList, ByteArray.toList, toList_loop, toList_loop] at same
  simp only [List.reverse_nil, List.nil_append, List.drop_zero] at same
  exact String.toByteArray_inj.mp (ByteArray.ext (Array.toList_inj.mp same))

/-- The zero character. -/
def separator : Char := '\x00'

/-- A text whose characters are all accepted has no character that is not. -/
theorem not_mem_of_all {accepts : Char → Bool} {text : List Char} {character : Char}
    (all : text.all accepts = true) (rejected : accepts character = false) : character ∉ text :=
  fun member => by simp [List.all_eq_true.mp all character member] at rejected

/-- The fields in the material do not contain the separator. -/
theorem CreateRuntimeRequest.valid_plain {tables : PythonText.CharacterTables}
    {request : CreateRuntimeRequest} (valid : request.valid tables = true) :
    separator ∉ request.userId.toList ∧ separator ∉ request.coreProfile.toList ∧
      separator ∉ request.romSha256.toList := by
  simp only [CreateRuntimeRequest.valid, safeId, coreProfileId, Pattern.sha256,
    Bool.and_eq_true] at valid
  obtain ⟨⟨⟨⟨⟨⟨⟨⟨⟨⟨⟨⟨⟨-, userId⟩, -⟩, -⟩, -⟩, -⟩, -, digest⟩,
    -, profile⟩, -⟩, -⟩, -⟩, -⟩, -⟩, -⟩ := valid
  refine ⟨not_mem_of_all (Pattern.leads_all (fun character alphanumeric => ?_) userId)
    (by decide),
    not_mem_of_all (Pattern.leads_all (fun character alphanumeric => ?_) profile) (by decide),
    not_mem_of_all digest (by decide)⟩
  · rw [alphanumeric, Bool.true_or]
  · rw [Pattern.isSlug, alphanumeric, Bool.true_or]

/-- The joined fields can be told apart. -/
theorem persistenceMaterial_injective {tables : PythonText.CharacterTables}
    {left right : CreateRuntimeRequest} (leftValid : left.valid tables = true)
    (rightValid : right.valid tables = true)
    (same : RuntimeService.persistenceMaterial left = RuntimeService.persistenceMaterial right) :
    left.saveIdentity = right.saveIdentity := by
  have fields : ∀ {request : CreateRuntimeRequest}, request.valid tables = true →
      (RuntimeService.persistenceMaterial request).toList.splitOn separator =
        ["retrobrowser-save-v1".toList, request.userId.toList, request.coreProfile.toList,
          request.romSha256.toList] := by
    intro request valid
    obtain ⟨userId, profile, digest⟩ := CreateRuntimeRequest.valid_plain valid
    unfold RuntimeService.persistenceMaterial
    rw [String.toList_intercalate]
    refine List.splitOn_intercalate separator ?_ (List.cons_ne_nil _ _)
    simp only [List.map_cons, List.map_nil, List.forall_mem_cons]
    exact ⟨by decide, userId, profile, digest, by simp⟩
  have split := congrArg (fun text : String => text.toList.splitOn separator) same
  simp only [fields leftValid, fields rightValid, List.cons.injEq, String.toList_inj,
    true_and, and_true] at split
  simp only [CreateRuntimeRequest.saveIdentity, split]

theorem RuntimeService.persistenceMaterial_congr {left right : CreateRuntimeRequest}
    (same : left.saveIdentity = right.saveIdentity) :
    persistenceMaterial left = persistenceMaterial right := by
  simp only [CreateRuntimeRequest.saveIdentity, SaveIdentity.mk.injEq] at same
  simp only [persistenceMaterial, same]

/-- The save key of a host tells the triples apart, as far as the hash does. -/
theorem persistenceKey_eq_iff (service : RuntimeService) {left right : CreateRuntimeRequest}
    (leftValid : left.valid service.library.tables = true)
    (rightValid : right.valid service.library.tables = true)
    (leftHost : left.netplay.role = .host) (rightHost : right.netplay.role = .host)
    (noCollision : service.library.sha256 (encode (RuntimeService.persistenceMaterial left)) =
        service.library.sha256 (encode (RuntimeService.persistenceMaterial right)) →
      encode (RuntimeService.persistenceMaterial left) =
        encode (RuntimeService.persistenceMaterial right)) :
    service.persistenceKey left = service.persistenceKey right ↔
      left.saveIdentity = right.saveIdentity := by
  simp only [RuntimeService.persistenceKey, leftHost, rightHost, ne_eq, not_true_eq_false, if_false,
    Option.some.injEq]
  constructor
  · intro same
    exact persistenceMaterial_injective leftValid rightValid (encode_injective (noCollision same))
  · intro same
    rw [RuntimeService.persistenceMaterial_congr same]

/-! ## The invariant -/

/-- Every managed container was made as `made` says, no two of them carry the same
save key, and there are at most `limit` of them. -/
structure SingleWriter (made : Container → Prop) (limit : Nat) (engine : Engine) : Prop where
  made : ∀ container ∈ engine.managed, made container
  single : ∀ left ∈ engine.managed, ∀ right ∈ engine.managed, ∀ key,
    left.labels.lookup saveKeyLabel = some key → right.labels.lookup saveKeyLabel = some key →
      left = right
  bounded : engine.managed.length ≤ limit

/-- There is room for one more container with this save key. -/
structure Admits (made : Container → Prop) (limit : Nat) (saveKey : Option Digest)
    (engine : Engine) : Prop where
  sound : SingleWriter made limit engine
  room : engine.managed.length < limit
  free : ∀ key, saveKey = some key → ∀ container ∈ engine.managed,
    container.labels.lookup saveKeyLabel ≠ some key.hexdigest

section Invariant

variable {made : Container → Prop} {limit : Nat} {saveKey : Option Digest} {engine : Engine}

theorem SingleWriter.survives
    (stable : ∀ left right, Engine.Same left right → made left → made right) :
    Survives (SingleWriter made limit) := by
  intro before after within sound
  refine ⟨fun container member => ?_,
    fun left leftMember right rightMember key leftKey rightKey => ?_,
    within.length_managed.trans sound.bounded⟩
  · obtain ⟨earlier, earlierMember, same⟩ := within.managed member
    exact stable earlier container same (sound.made earlier earlierMember)
  · obtain ⟨earlier, earlierMember, same⟩ := within.managed leftMember
    obtain ⟨earlier', earlierMember', same'⟩ := within.managed rightMember
    have one : earlier = earlier' := by
      refine sound.single earlier earlierMember earlier' earlierMember' key ?_ ?_
      · rw [same.labels, leftKey]
      · rw [same'.labels, rightKey]
    refine Engine.eq_of_containerId (Engine.mem_managed.mp leftMember).1
      (Engine.mem_managed.mp rightMember).1 ?_
    rw [← same.containerId, ← same'.containerId, one]

theorem Admits.survives
    (stable : ∀ left right, Engine.Same left right → made left → made right) :
    Survives (Admits made limit saveKey) := by
  intro before after within admits
  refine ⟨SingleWriter.survives stable before after within admits.sound,
    within.length_managed.trans_lt admits.room, fun key claimed container member => ?_⟩
  obtain ⟨earlier, earlierMember, same⟩ := within.managed member
  rw [← same.labels]
  exact admits.free key claimed earlier earlierMember

/-- A container that was admitted keeps the invariant. -/
theorem Admits.insert (admits : Admits made limit saveKey engine) {container : Container}
    (freshId : container.containerId ∉ engine.issued)
    (freshName : container.name ∉ engine.containers.map fun container => container.name)
    (own : made container)
    (labelled : container.labels.lookup saveKeyLabel = saveKey.map Digest.hexdigest) :
    SingleWriter made limit (engine.insert container freshId freshName) := by
  have alone : ∀ other ∈ engine.managed, ∀ key, other.labels.lookup saveKeyLabel =
    some key →
      container.labels.lookup saveKeyLabel ≠ some key := by
    intro other member key otherKey ownKey
    rw [labelled, Option.map_eq_some_iff] at ownKey
    obtain ⟨digest, claimed, rfl⟩ := ownKey
    exact admits.free digest claimed other member otherKey
  have members : ∀ other ∈ (engine.insert container freshId freshName).managed,
      other ∈ engine.managed ∨ other = container := by
    intro other member
    rw [Engine.managed_insert] at member
    refine (List.mem_append.mp member).imp id fun new => ?_
    split at new
    · exact List.mem_singleton.mp new
    · exact absurd new (by simp)
  refine ⟨fun other member => ?_,
    fun left leftMember right rightMember key leftKey rightKey => ?_, ?_⟩
  · rcases members other member with before | rfl
    · exact admits.sound.made other before
    · exact own
  · rcases members left leftMember with leftBefore | rfl
    · rcases members right rightMember with rightBefore | rfl
      · exact admits.sound.single left leftBefore right rightBefore key leftKey rightKey
      · exact absurd rightKey (alone left leftBefore key leftKey)
    · rcases members right rightMember with rightBefore | rfl
      · exact absurd leftKey (alone right rightBefore key rightKey)
      · rfl
  · have room := admits.room
    rw [Engine.managed_insert, List.length_append]
    split <;> simp <;> omega

end Invariant

/-! ## Creating a container -/

namespace RuntimeService

section Creation

variable (self : RuntimeService) {made : Container → Prop} {request : CreateRuntimeRequest}

/-- The listing counts every managed container that is left. -/
theorem length_managed_le {listed engine : Engine} (within : listed.Within engine)
    (labelled : ∀ container ∈ engine.managed,
      (labelledParticipant container.labels).isSome = true) :
    engine.managed.length ≤
      (listed.managed.filterMap fun container => labelledParticipant container.labels).length := by
  rw [List.length_filterMap_eq_countP, List.countP_eq_length_filter]
  have inside : (engine.managed.map fun container => container.containerId) ⊆
      (listed.managed.filter fun container => (labelledParticipant container.labels).isSome).map
        fun container => container.containerId := by
    intro containerId member
    obtain ⟨container, managed, rfl⟩ := List.mem_map.mp member
    obtain ⟨earlier, earlierMember, same⟩ := within.managed managed
    refine List.mem_map.mpr ⟨earlier, List.mem_filter.mpr ⟨earlierMember, ?_⟩,
      same.containerId⟩
    rw [same.labels]
    exact labelled container managed
  simpa using (List.subperm_of_subset engine.managed_distinct inside).length_le

/-- A listing that is short of the limit shows that there is room. -/
theorem ensures_capacity
    (stable : ∀ left right, Engine.Same left right → made left → made right)
    (labelled : ∀ container, made container →
      (labelledParticipant container.labels).isSome = true) {limit : Nat} {host : Host}
    (sound : SingleWriter made limit host.engine) :
    self.listManagedRuntimes.Ensures
      ⟨fun records after => SingleWriter made limit after.engine ∧
          after.engine.managed.length ≤ records.length,
        fun _ after => SingleWriter made limit after.engine,
        fun after => SingleWriter made limit after.engine⟩ host := by
  have kept : Undisturbed fun host => SingleWriter made limit host.engine :=
    (SingleWriter.survives stable).undisturbed
  refine (self.ensures_listManagedRuntimes host).mono (fun records after both => ?_)
    (fun _ after moved => kept host after moved sound) fun after moved =>
      kept host after moved sound
  obtain ⟨moved, listed, within, participants⟩ := both
  have sound' := kept host after moved sound
  have counted := congrArg List.length participants
  rw [List.length_map] at counted
  refine ⟨sound', ?_⟩
  rw [counted]
  exact length_managed_le within fun container member => labelled container (sound'.made _ member)

/-- A save directory is claimed only while no managed container carries its key. -/
theorem ensures_claimPersistence
    (stable : ∀ left right, Engine.Same left right → made left → made right) {limit : Nat}
    {host : Host} (sound : SingleWriter made limit host.engine)
    (room : host.engine.managed.length < limit) (saveKey : Option Digest) :
    (self.claimPersistence saveKey).Ensures
      ⟨fun claimed after => Admits made limit saveKey after.engine ∧
        self.Claimed saveKey claimed, fun _ after => SingleWriter made limit after.engine,
        fun after => SingleWriter made limit after.engine⟩ host := by
  unfold claimPersistence
  cases saveKey with
  | none => exact ⟨⟨sound, room, fun key claimed => by simp at claimed⟩, rfl⟩
  | some key =>
      have kept : Undisturbed fun host => SingleWriter made limit host.engine :=
    (SingleWriter.survives stable).undisturbed
      have available : (self.requireAvailablePersistence key).Ensures
          ⟨fun _ after => Admits made limit (some key) after.engine,
            fun _ after => SingleWriter made limit after.engine,
            fun after => SingleWriter made limit after.engine⟩ host := by
        refine ensures_bind.mpr ((self.ensures_listManagedContainers host).mono
          (fun summaries after listed => ?_) (fun _ after moved => kept host after moved sound)
          fun after moved => kept host after moved sound)
        obtain ⟨moved, labels⟩ := listed
        have sound' := kept host after moved sound
        refine ensures_raiseIf.mpr ⟨fun _ => sound', fun unused => ⟨sound', ?_, ?_⟩⟩
        · obtain ⟨events, -, engine, -⟩ := moved
          rw [engine]
          exact (Engine.within_drifted host.engine _).length_managed.trans_lt room
        · intro key' same container member carries
          obtain rfl := Option.some.inj same
          have listedLabels : container.labels ∈ summaries.map fun summary => summary.labels := by
            rw [labels]
            exact List.mem_map_of_mem member
          obtain ⟨summary, summaryMember, same'⟩ := List.mem_map.mp listedLabels
          exact unused ⟨summary, summaryMember, same' ▸ carries⟩
      refine ensures_bind.mpr
        (available.mono (fun _ after admits => ?_) (fun _ _ => id) fun _ => id)
      have prepared := (self.quiet_persistenceDirectory key).ensures after
      have kept' : Undisturbed fun host => Admits made limit (some key) host.engine :=
        (Admits.survives stable).undisturbed
      exact ensures_bind.mpr (prepared.mono
        (fun directory later both => ⟨kept' after later both.1 admits, directory, rfl, both.2⟩)
        (fun _ later moved => (kept' after later moved admits).sound)
        fun later moved => (kept' after later moved admits).sound)

/-- Creating the container of an admitted request keeps the invariant. -/
theorem ensures_createOrFind_single
    (stable : ∀ left right, Engine.Same left right → made left → made right) {limit : Nat}
    {host : Host} (admits : Admits made limit (self.saveKey request) host.engine) {name : String}
    {payload : Payload}
    (own : ∀ container : Container, container.labels = payload.labels →
      container.mounts = payload.hostConfig.mounts → made container)
    (labelled : payload.labels.lookup saveKeyLabel =
      (self.saveKey request).map Digest.hexdigest) :
    (self.createOrFind request name payload).Ensures
      (Post.always fun after => SingleWriter made limit after.engine) host := by
  have kept : Undisturbed fun host => SingleWriter made limit host.engine :=
    (SingleWriter.survives stable).undisturbed
  have survives : Survives (Admits made limit (self.saveKey request)) := Admits.survives stable
  have created : (self.createContainer name payload).Ensures
      (Post.always fun after => SingleWriter made limit after.engine) host := by
    refine ensures_invoke fun outcome after happens => ?_
    have drifted : ∀ drifts : List Drift,
        Admits made limit (self.saveKey request) (host.drifted drifts).engine := fun drifts =>
      survives _ _ (Engine.within_drifted host.engine drifts) admits
    have inserted : ∀ drifts containerId,
        (Call.createContainer name payload).answer self.dependencies host.history.length
          (host.drifted drifts) = .ok containerId →
        SingleWriter made limit ((Call.createContainer name payload).effect self.dependencies
          host.history.length (host.drifted drifts)).engine := by
      intro drifts containerId answered
      obtain ⟨fresh, effect⟩ := Call.answer_create answered
      rw [effect]
      exact (drifted drifts).insert fresh.1 fresh.2 (own _ rfl rfl) labelled
    cases happens with
    | stopped => exact admits.sound
    | returned drifts containerId answered => exact inserted drifts containerId answered
    | lost drifts error containerId answered => exact inserted drifts containerId answered
    | refused drifts error => exact (drifted drifts).sound
    | failed drifts error => exact (drifted drifts).sound
  refine ensures_tryCatch.mpr
    (ensures_map.mpr (created.mono (fun _ _ => id) (fun error after sound => ?_)
    fun _ => id))
  have found : quiet.Holds (do
      let existing ← self.inspectContainer (.byName name)
      Sum.inr <$> self.existingRecord existing request error :
        AgentProgram (String ⊕ RuntimeRecord))
      fun _ => True :=
    Frame.holds_bind (self.quiet_inspectContainer _) fun existing _ =>
      Frame.holds_map (self.quiet_existingRecord existing request error) fun _ _ => trivial
  exact ensures_ite.mpr ⟨fun _ => found.maintains kept after sound, fun _ => sound⟩

theorem ensures_createFresh_single
    (stable : ∀ left right, Engine.Same left right → made left → made right)
    (labelled : ∀ container, made container →
      (labelledParticipant container.labels).isSome = true)
    (own : ∀ container, self.MadeFor request container → made container) {host : Host}
    (sound : SingleWriter made self.config.maxRuntimes host.engine) (romPath : PurePath.Resolved)
    (name : String) :
    (self.createFresh request romPath name).Ensures
      (Post.always fun after => SingleWriter made self.config.maxRuntimes after.engine) host := by
  have kept : Undisturbed fun host =>
      Admits made self.config.maxRuntimes (self.saveKey request) host.engine :=
    (Admits.survives stable).undisturbed
  refine ensures_bind.mpr ((self.ensures_capacity stable labelled sound).mono
    (fun managed after counted => ?_) (fun _ _ => id) fun _ => id)
  refine ensures_bind.mpr (ensures_raiseIf.mpr ⟨fun _ => counted.1, fun below => ?_⟩)
  have room : after.engine.managed.length < self.config.maxRuntimes :=
    counted.2.trans_lt (not_le.mp below)
  refine ensures_bind.mpr ((self.ensures_claimPersistence stable counted.1 room _).mono
    (fun saves between claimed => ?_) (fun _ _ => id) fun _ => id)
  obtain ⟨admits, claims⟩ := claimed
  refine ensures_bind.mpr (((self.quiet_runtimeDirectory _).ensures between).mono
    (fun directory provided both => ?_)
    (fun _ later moved => (kept between later moved admits).sound)
    fun later moved => (kept between later moved admits).sound)
  have admits := kept between provided both.1 admits
  refine ensures_bind.mpr (((self.quiet_writeRuntimeSpec _ _).ensures provided).mono
    (fun _ written both => ?_) (fun _ later moved => (kept provided later moved admits).sound)
    fun later moved => (kept provided later moved admits).sound)
  have admits := kept provided written both.1 admits
  refine ensures_bind.mpr (((self.quiet_payload request romPath directory _ saves _).ensures
    written).mono (fun payload computed both => ?_)
    (fun _ later moved => (kept written later moved admits).sound)
    fun later moved => (kept written later moved admits).sound)
  have admits := kept written computed both.1 admits
  have madeFor : ∀ container : Container, container.labels = payload.labels →
      container.mounts = payload.hostConfig.mounts → self.MadeFor request container :=
    fun container labels mounts => ⟨romPath, saves, payload, claims, both.2, labels, mounts⟩
  have key : payload.labels.lookup saveKeyLabel = (self.saveKey request).map Digest.hexdigest := by
    obtain ⟨_, _, _, _, _, _, _, _, _, _, _, rfl⟩ := both.2
    exact lookup_saveKeyLabel request _ _
  refine ensures_bind.mpr ((self.ensures_createOrFind_single stable admits
    (fun container labels mounts => own container (madeFor container labels mounts)) key).mono
    (fun created launched sound => ?_) (fun _ _ => id) fun _ => id)
  cases created with
  | inl containerId =>
      exact (SingleWriter.survives stable).limited
        (self.limited_launch (List.mem_singleton_self containerId))
        (fun _ tends => tends.creates) launched sound
  | inr record => exact sound

theorem maintains_createRuntime_single
    (stable : ∀ left right, Engine.Same left right → made left → made right)
    (labelled : ∀ container, made container →
      (labelledParticipant container.labels).isSome = true)
    (own : ∀ container, self.MadeFor request container → made container) :
    (self.createRuntime request).Maintains
      fun host => SingleWriter made self.config.maxRuntimes host.engine := by
  have kept : Undisturbed fun host => SingleWriter made self.config.maxRuntimes host.engine :=
    (SingleWriter.survives stable).undisturbed
  refine maintains_bind ((self.quiet_validateRequest request).maintains kept) fun romPath => ?_
  refine maintains_bind ((self.quiet_existingContainer _).maintains kept) fun existing => ?_
  cases existing with
  | some container => exact (self.quiet_existingRecord container request _).maintains kept
  | none => exact fun host sound =>
      self.ensures_createFresh_single stable labelled own sound romPath _

end Creation

end RuntimeService

/-! ## Runs -/

namespace Agent

variable (agent : Agent)

/-- The container was made for a request of these steps. -/
def Made (steps : List Step) (request : CreateRuntimeRequest) (container : Container) : Prop :=
  ∃ step ∈ steps, step.operation = .create request ∧
    (agent.service step.dependencies).MadeFor request container

/-- The container carries the save mount of a request with this identity. -/
def SavesOf (steps : List Step) (identity : SaveIdentity) (container : Container) : Prop :=
  container.CarriesSaves ∧
    ∃ request, agent.Made steps request container ∧ request.saveIdentity = identity

variable {agent} {steps : List Step}

/-- A container with a save mount is a host's, and its label is the key of the material. -/
theorem Made.save {request : CreateRuntimeRequest} {container : Container}
    (made : agent.Made steps request container) (carries : container.CarriesSaves) :
    request.netplay.role = .host ∧ container.labels.lookup saveKeyLabel =
      some
        (agent.library.sha256 (encode (RuntimeService.persistenceMaterial request))).hexdigest := by
  obtain ⟨step, -, -, made⟩ := made
  have claimed := made.carriesSaves.mp carries
  rw [made.labels, RuntimeService.lookup_saveKeyLabel]
  unfold RuntimeService.saveKey at claimed ⊢
  split at claimed
  · next configured =>
    rw [if_pos configured]
    unfold RuntimeService.persistenceKey at claimed ⊢
    split at claimed
    · simp at claimed
    · next host =>
      rw [if_neg host]
      exact ⟨not_not.mp host, rfl⟩
  · simp at claimed

/-- The invariant of a run: what its managed containers were made for. -/
abbrev Sound (agent : Agent) (steps : List Step) (host : Host) : Prop :=
  SingleWriter (fun container => ∃ request, agent.Made steps request container)
    agent.config.maxRuntimes host.engine

/-- Every operation keeps the invariant at every moment. -/
theorem run_maintains_sound {step : Step} (member : step ∈ steps) :
    (agent.run step).Maintains (agent.Sound steps) := by
  have stable : ∀ left right, Engine.Same left right →
      (∃ request, agent.Made steps request left) →
        ∃ request, agent.Made steps request right := by
    rintro left right same ⟨request, other, otherMember, create, made⟩
    exact ⟨request, other, otherMember, create, made.same same⟩
  have labelled : ∀ container : Container, (∃ request, agent.Made steps request container) →
      (RuntimeService.labelledParticipant container.labels).isSome = true := by
    rintro container ⟨request, other, otherMember, create, made⟩
    rw [made.participant]
    rfl
  have survives :
    Survives (SingleWriter (fun container => ∃ request, agent.Made steps request container)
      agent.config.maxRuntimes) := SingleWriter.survives stable
  obtain ⟨operation, dependencies⟩ := step
  have tends : ∀ (participantId : UUID) call, (∃ known, Call.Tends participantId known call) →
      ∀ name payload, call ≠ .createContainer name payload :=
    fun _ _ ⟨_, tends⟩ => tends.creates
  cases operation with
  | create request =>
      exact maintains_map
        ((agent.service dependencies).maintains_createRuntime_single stable labelled
        fun container made => ⟨request, _, member, rfl, made⟩)
  | inspect participantId =>
      exact maintains_map (((agent.service dependencies).quiet_inspectRuntime _).maintains
        survives.undisturbed)
  | stop participantId =>
      exact maintains_map (survives.limited ((agent.service dependencies).limited_stopRuntime _)
        (tends participantId))
  | remove participantId =>
      exact maintains_map (survives.limited ((agent.service dependencies).limited_removeRuntime _)
        (tends participantId))
  | list =>
      exact maintains_map ((agent.service dependencies).quiet_listManagedRuntimes.maintains
        survives.undisturbed)
  | reconcile =>
      refine maintains_map
        (survives.limited (agent.service dependencies).limited_reconcileRoutes ?_)
      rintro call ⟨registry, owner, rfl⟩ name payload
      simp
  | capacity =>
      have quietly := (agent.service dependencies).quiet_capacity
      exact maintains_map (quietly.maintains survives.undisturbed)

theorem execute_sound (agent : Agent) {start : Host} (unmanaged : start.engine.managed = [])
    (steps : List Step) : agent.Sound steps (agent.execute start steps) := by
  have begins : agent.Sound steps start := by
    refine ⟨?_, ?_, ?_⟩ <;> simp [unmanaged]
  have round : ∀ host, ∀ step ∈ steps, agent.Sound steps host →
      agent.Sound steps (agent.run step host).2 :=
    fun host step member sound => (run_maintains_sound member host sound).after
  exact agent.execute_keeps begins round

end Agent

/-- From a host without managed containers, after any operations (the last one
perhaps stopped in the middle): every managed container was made for a request of
the run; containers that carry the save mount of the same user, core profile and
ROM are one; host requests share a save key just when they agree on the three; only
containers of hosts carry a save mount; and the limit on runtimes holds. -/
theorem saves_have_single_writer (agent : Agent) (start : Host)
    (unmanaged : start.engine.managed = []) (steps : List Step) :
    let managed := (agent.execute start steps).engine.managed
    (∀ container ∈ managed, ∃ request, agent.Made steps request container) ∧
    (∀ identity, ∀ left ∈ managed, ∀ right ∈ managed,
      agent.SavesOf steps identity left →
      agent.SavesOf steps identity right → left = right) ∧
    (∀ (dependencies : Dependencies) (left right : CreateRuntimeRequest),
      left.valid agent.library.tables = true → right.valid agent.library.tables = true →
      left.netplay.role = .host → right.netplay.role = .host →
      (agent.library.sha256 (encode (RuntimeService.persistenceMaterial left)) =
          agent.library.sha256 (encode (RuntimeService.persistenceMaterial right)) →
        encode (RuntimeService.persistenceMaterial left) =
          encode (RuntimeService.persistenceMaterial right)) →
      ((agent.service dependencies).persistenceKey left =
          (agent.service dependencies).persistenceKey right ↔
        left.saveIdentity = right.saveIdentity)) ∧
    (∀ container ∈ managed, ∀ request, agent.Made steps request container →
      container.CarriesSaves → request.netplay.role = .host) ∧
    managed.length ≤ agent.config.maxRuntimes := by
  intro managed
  have sound := agent.execute_sound unmanaged steps
  refine ⟨sound.made, ?_, fun dependencies left right =>
    persistenceKey_eq_iff (agent.service dependencies),
    fun container member request made carries => (made.save carries).1, sound.bounded⟩
  rintro identity left leftMember right rightMember ⟨leftCarries, leftRequest, leftMade, rfl⟩
    ⟨rightCarries, rightRequest, rightMade, same⟩
  have leftKey := (leftMade.save leftCarries).2
  have rightKey := (rightMade.save rightCarries).2
  rw [RuntimeService.persistenceMaterial_congr same] at rightKey
  exact sound.single left leftMember right rightMember _ leftKey rightKey

section Example

/-- A second participant of the same user who hosts the same game. -/
def secondRequest : CreateRuntimeRequest :=
  { exampleRequest with participantId := 3, streamSubfolder := "/stream/0b" }

def otherUserRequest : CreateRuntimeRequest := { secondRequest with userId := "user-2" }

/-- The second host is turned away, and a host of another user has another save key. -/
theorem second_host_has_no_save :
    let steps :
    List Step := [⟨.create exampleRequest, .working⟩, ⟨.create secondRequest, .working⟩]
    let managed := (exampleAgent.execute Host.empty steps).engine.managed
    managed.map (fun container => container.name) =
        ["retrobrowser-runtime-00000000000000000000000000000002"] ∧
      (∀ container ∈ managed, ∃ request, exampleAgent.Made steps request container) ∧
      managed.length ≤ 8 ∧
      (exampleAgent.service .working).persistenceKey secondRequest ≠
        (exampleAgent.service .working).persistenceKey otherUserRequest := by
  intro steps managed
  obtain ⟨made, -, keys, -, bounded⟩ :=
    saves_have_single_writer exampleAgent Host.empty rfl steps
  refine ⟨by decide +kernel, made, bounded, fun same => ?_⟩
  have identity :=
    (keys .working secondRequest otherUserRequest (by decide +kernel) (by decide +kernel)
    rfl rfl (fun collision => absurd collision (by decide +kernel))).mp same
  exact absurd identity (by decide)

end Example

end RetroBrowser.RuntimeAgent
