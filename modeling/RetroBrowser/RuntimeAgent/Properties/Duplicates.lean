import RetroBrowser.Foundation.JsonText
import RetroBrowser.RuntimeAgent.Properties.Identifiers
import RetroBrowser.RuntimeAgent.Properties.Publication

/-!
Owns what becomes of a repeated creation: as long as the container of the first
one exists, the second returns that container's record if the two requests are the
same and raises `ConflictError` if they are not, and it only looks.

Contract: the fingerprint tells requests apart as far as the hash does; identifiers
keep their name and labels through every run; a creation that finds a container
makes only observing calls.
-/

namespace RetroBrowser.RuntimeAgent

open RetroBrowser.Foundation
open RetroBrowser.Foundation.Program
open RetroBrowser.Foundation.Frame

/-! ## The fingerprint -/

namespace Library

variable (library : Library)

/-- The hash tells these two texts apart. -/
def Separates (left right : List UInt8) : Prop :=
  library.sha256 left = library.sha256 right → left = right

/-- The members of the document whose hash is the fingerprint. -/
def fingerprintMembers (request : CreateRuntimeRequest) : List (String × Json) := [
  ("schema_version", .number 1),
  ("session_id", .string (UUID.str request.sessionId)),
  ("participant_id", .string (UUID.str request.participantId)),
  ("user_id", .string request.userId),
  ("player_name", .string request.playerName),
  ("image", .string request.image),
  ("rom_path", .string request.romPath),
  ("rom_sha256", .string request.romSha256),
  ("core_profile", .string request.coreProfile),
  ("netplay", RuntimeService.netplayDump request.netplay),
  ("stream_subfolder", .string request.streamSubfolder),
  ("stream_network", .string request.streamNetwork),
  ("netplay_network", .string request.netplayNetwork),
  ("gpu_profile", .string request.gpuProfile.text),
  ("selkies_master_token_sha256",
    .string (library.sha256 (encode request.selkiesMasterToken)).hexdigest)]

/-- What is hashed for the fingerprint. -/
def fingerprintText (request : CreateRuntimeRequest) : List UInt8 :=
  encode (String.ofList (Json.object (library.fingerprintMembers request)).dumpsSorted)

/-- The hash tells the two requests apart: their tokens and their documents. -/
structure SeparatesRequests (left right : CreateRuntimeRequest) : Prop where
  tokens : library.Separates (encode left.selkiesMasterToken) (encode right.selkiesMasterToken)
  documents : library.Separates (library.fingerprintText left) (library.fingerprintText right)

end Library

theorem NetplayRole.text_injective : Function.Injective NetplayRole.text := by
  intro left right same
  cases left <;> cases right <;> simp_all [NetplayRole.text]

theorem GpuProfile.text_injective : Function.Injective GpuProfile.text := by
  intro left right same
  cases left <;> cases right <;> simp_all [GpuProfile.text]

section Fingerprint

variable {library : Library} {left right : CreateRuntimeRequest}

/-- An optional host. -/
def netplayHost : Option String → Json
  | some host => .string host
  | none => .null

/-- The members of a Netplay part. -/
def netplayMembers (netplay : NetplayRequest) : List (String × Json) := [
  ("role", .string netplay.role.text),
  ("host", netplayHost netplay.host),
  ("port", .number netplay.port)]

theorem exact_netplayMembers (netplay : NetplayRequest) :
    (Json.object (netplayMembers netplay)).exact = true := by
  cases host : netplay.host <;>
    simp [netplayMembers, netplayHost, Json.exact, Json.exactMembers, host]

theorem exact_fingerprintMembers (request : CreateRuntimeRequest) :
    (Json.object (library.fingerprintMembers request)).exact = true := by
  have netplay : (RuntimeService.netplayDump request.netplay).exact = true :=
    exact_netplayMembers request.netplay
  simp [Library.fingerprintMembers, Json.exact, Json.exactMembers, netplay]

/-- The dump of a Netplay part tells all its fields. -/
theorem netplayDump_injective {left right : NetplayRequest}
    (same : (RuntimeService.netplayDump left).sortKeys =
      (RuntimeService.netplayDump right).sortKeys) :
    left = right := by
  have members : (Json.object (netplayMembers left)).sortKeys =
      (Json.object (netplayMembers right)).sortKeys := same
  have roles := Json.field_of_sortKeys members "role" (fun netplay => .string netplay.role.text)
    fun _ _ => by simp [netplayMembers]
  have hosts := Json.field_of_sortKeys members "host" (fun netplay => netplayHost netplay.host)
    fun _ _ => by simp [netplayMembers]
  have ports := Json.field_of_sortKeys members "port" (fun netplay => .number netplay.port)
    fun _ _ => by simp [netplayMembers]
  simp only [Json.sortKeys, Json.string.injEq, Json.number.injEq, Nat.cast_inj] at roles ports
  have role : left.role = right.role := NetplayRole.text_injective roles
  have host : left.host = right.host := by
    cases leftHost : left.host <;> cases rightHost : right.host <;>
      simp_all [netplayHost, Json.sortKeys]
  cases left
  cases right
  simp_all

/-- The document tells all the fields of a request, the token as far as its hash does. -/
theorem fingerprintMembers_injective
    (tokens : library.Separates (encode left.selkiesMasterToken) (encode right.selkiesMasterToken))
    (same : (Json.object (library.fingerprintMembers left)).sortKeys =
      (Json.object (library.fingerprintMembers right)).sortKeys) : left = right := by
  have texts : ∀ (key : String) (field : CreateRuntimeRequest → String),
      (∀ request other, (key, other) ∈ library.fingerprintMembers request ↔
        other = .string (field request)) → field left = field right := by
    intro key field own
    have fields := Json.field_of_sortKeys same key (fun request => .string (field request)) own
    simpa [Json.sortKeys] using fields
  have netplays := Json.field_of_sortKeys same "netplay"
    (fun request => RuntimeService.netplayDump request.netplay)
    fun _ _ => by simp [Library.fingerprintMembers]
  have sessionId := texts "session_id" (fun request => UUID.str request.sessionId)
    fun _ _ => by simp [Library.fingerprintMembers]
  have participantId := texts "participant_id" (fun request => UUID.str request.participantId)
    fun _ _ => by simp [Library.fingerprintMembers]
  have userId := texts "user_id" (fun request => request.userId)
    fun _ _ => by simp [Library.fingerprintMembers]
  have playerName := texts "player_name" (fun request => request.playerName)
    fun _ _ => by simp [Library.fingerprintMembers]
  have image := texts "image" (fun request => request.image)
    fun _ _ => by simp [Library.fingerprintMembers]
  have romPath := texts "rom_path" (fun request => request.romPath)
    fun _ _ => by simp [Library.fingerprintMembers]
  have romSha256 := texts "rom_sha256" (fun request => request.romSha256)
    fun _ _ => by simp [Library.fingerprintMembers]
  have coreProfile := texts "core_profile" (fun request => request.coreProfile)
    fun _ _ => by simp [Library.fingerprintMembers]
  have streamSubfolder := texts "stream_subfolder" (fun request => request.streamSubfolder)
    fun _ _ => by simp [Library.fingerprintMembers]
  have streamNetwork := texts "stream_network" (fun request => request.streamNetwork)
    fun _ _ => by simp [Library.fingerprintMembers]
  have netplayNetwork := texts "netplay_network" (fun request => request.netplayNetwork)
    fun _ _ => by simp [Library.fingerprintMembers]
  have gpuProfile := texts "gpu_profile" (fun request => request.gpuProfile.text)
    fun _ _ => by simp [Library.fingerprintMembers]
  have token := texts "selkies_master_token_sha256"
    (fun request => (library.sha256 (encode request.selkiesMasterToken)).hexdigest)
    fun _ _ => by simp [Library.fingerprintMembers]
  have tokens := encode_injective (tokens (Digest.hexdigest_injective token))
  have netplay := netplayDump_injective netplays
  have session := UUID.str_injective sessionId
  have participant := UUID.str_injective participantId
  have gpu := GpuProfile.text_injective gpuProfile
  cases left
  cases right
  simp_all

theorem fingerprint_eq (service : RuntimeService) (request : CreateRuntimeRequest) :
    service.fingerprint request =
      (service.library.sha256 (service.library.fingerprintText request)).hexdigest := rfl

/-- Requests have the same fingerprint just when they are the same. -/
theorem fingerprint_eq_iff (service : RuntimeService)
    (separates : service.library.SeparatesRequests left right) :
    service.fingerprint left = service.fingerprint right ↔ left = right := by
  constructor
  · intro same
    rw [fingerprint_eq, fingerprint_eq] at same
    have documents := separates.documents (Digest.hexdigest_injective same)
    have texts := String.ofList_injective (encode_injective documents)
    exact fingerprintMembers_injective separates.tokens (Json.dumpsSorted_injective
      (exact_fingerprintMembers left) (exact_fingerprintMembers right) texts)
  · intro same
    rw [same]

end Fingerprint

/-! ## Looking only -/

/-- The call changes nothing. -/
def Call.observes : Call → Bool
  | .inspectContainer _ | .listManagedContainers | .isPublished _ _ | .glob _ | .resolve _
  | .isFile _ | .isDirectory _ | .read _ => true
  | _ => false

theorem Call.effect_observes {dependencies : Dependencies} {index : Nat} {host : Host} {call : Call}
    (observes : call.observes = true) : call.effect dependencies index host = host := by
  cases call <;> first | rfl | exact absurd observes (by simp [Call.observes])

/-- From `before` to `after` there were observing calls only: containers moved on
their own, as the plan says, and no file changed. -/
def Observed (dependencies : Dependencies) (before after : Host) : Prop :=
  ∃ events, after.history = events ++ before.history ∧
    after.engine = before.engine.drifted (driftsOf events) ∧ after.files = before.files ∧
    after.userFiles = before.userFiles ∧
    ∀ event ∈ events, event.call.observes = true ∧
      ∃ index, event.drifts = dependencies.drifts index

def observing (dependencies : Dependencies) : Frame Host where
  Keeps := Observed dependencies
  refl _ := ⟨[], rfl, rfl, rfl, rfl, by simp⟩
  trans := by
    intro before between after ⟨first, history, engine, files, userFiles, observes⟩
      ⟨second, history', engine', files', userFiles', observes'⟩
    refine ⟨second ++ first, by rw [history', history, List.append_assoc], ?_, files'.trans files,
      userFiles'.trans userFiles, fun event member => ?_⟩
    · rw [engine', engine, driftsOf_append, Engine.drifted_append]
    · exact (List.mem_append.mp member).elim (observes' event) (observes event)

section Observing

variable {dependencies : Dependencies}

theorem observing_invoke {call : Call} (observes : call.observes = true) :
    (observing dependencies).Holds (dependencies.invoke call) fun _ => True := by
  intro host
  have moved : ∀ applied answer, Observed dependencies host
      ((host.drifted (dependencies.drifts host.history.length)).record
        ⟨call, dependencies.drifts host.history.length, applied, answer⟩) := by
    intro applied answer
    refine ⟨[⟨call, dependencies.drifts host.history.length, applied, answer⟩],
      rfl, ?_, rfl, rfl, ?_⟩
    · simp [driftsOf]
    · simp [observes]
  unfold Dependencies.invoke
  dsimp only
  rw [Call.effect_observes observes]
  split
  · exact ⟨(observing dependencies).refl host, trivial⟩
  · split <;> exact ⟨moved _ _, trivial⟩

theorem Observed.keeps {before after : Host} (observed : Observed dependencies before after)
    {container : Container} (member : container ∈ before.engine.containers)
    (spares : dependencies.Spares container.containerId) :
    ∃ later ∈ after.engine.containers, Engine.Same container later := by
  have ⟨events, _, engine, _, _, observes⟩ := observed
  rw [engine]
  refine Engine.drifted_keeps member fun vanishes => ?_
  have ⟨event, inside, drift⟩ := List.mem_flatMap.mp vanishes
  have ⟨_, index, planned⟩ := observes event (List.mem_reverse.mp inside)
  exact spares index (planned ▸ drift)

end Observing

namespace RuntimeService

variable (self : RuntimeService)

theorem observing_resolveExistingFileBeneath (candidate root : String) :
    (observing self.dependencies).Holds (self.resolveExistingFileBeneath candidate root)
      fun _ => True := by
  refine holds_bind (observing_invoke rfl) fun resolvedRoot _ => ?_
  refine holds_bind (observing_invoke rfl) fun resolvedCandidate _ => ?_
  refine holds_bind (observing_invoke rfl) fun regular _ => ?_
  refine holds_bind holds_raiseIf fun _ _ => ?_
  exact holds_bind holds_raiseIf fun _ _ => holds_pure trivial

/-- Checking a request only reads. -/
theorem observing_validateRequest (request : CreateRuntimeRequest) :
    (observing self.dependencies).Holds (self.validateRequest request) fun _ => True := by
  refine holds_bind holds_raiseIf fun _ _ => ?_
  refine holds_bind holds_raiseIf fun _ _ => ?_
  refine holds_bind holds_raiseIf fun _ _ => ?_
  refine holds_bind holds_raiseIf fun _ _ => ?_
  refine holds_bind (self.observing_resolveExistingFileBeneath _ _) fun romPath _ => ?_
  have reads : (observing self.dependencies).Holds (self.sha256File romPath) fun _ => True :=
    holds_bind (observing_invoke rfl) fun _ _ => holds_pure trivial
  exact holds_bind reads fun digest _ => holds_bind holds_raiseIf fun _ _ => holds_pure trivial

end RuntimeService

/-! ## Finding the container -/

/-- The engine answers the inspection of the participant's container, and the
process goes on meanwhile. -/
structure Dependencies.Answers (dependencies : Dependencies) (participantId : UUID) : Prop where
  inspects : dependencies.GoesOn (.inspectContainer (.byName (containerName participantId)))
  faultless : dependencies.Faultless (.inspectContainer (.byName (containerName participantId)))
  looks : dependencies.GoesOn (.isPublished .routes participantId)

/-- The record of a container as an inspection shows it. -/
def recordOf (shown : ContainerRecord) (participantId : UUID) (routed : Bool) : RuntimeRecord where
  participantId := participantId
  containerId := shown.containerId
  containerName := shown.name
  state := shown.state
  healthStatus := shown.healthStatus
  streamSubfolder := (shown.labels.lookup subfolderLabel).getD ""
  orphaned := !routed

/-- The record is that of the container, as it was at a moment after `before`. -/
def Shows (dependencies : Dependencies) (before : Host) (container : Container)
    (participantId : UUID) (record : RuntimeRecord) : Prop :=
  ∃ moment, Observed dependencies before moment ∧ ∃ shown ∈ moment.engine.containers,
    Engine.Same container shown ∧ record = recordOf shown.toContainerRecord participantId
      (before.published .routes participantId).isSome

namespace RuntimeService

variable {self : RuntimeService} {request : CreateRuntimeRequest} {container : Container}
variable {host : Host}

/-- An inspection that raises without a fault has missed the container. -/
theorem ensures_missed (reference : Reference) (host : Host) :
    (self.inspectContainer reference).Ensures
      ⟨fun _ _ => True, fun error _ => error.isNotFound = true ∨
          ¬self.dependencies.Faultless (.inspectContainer reference),
        fun _ => ¬self.dependencies.GoesOn (.inspectContainer reference)⟩ host := by
  refine ensures_invoke fun outcome after happens => ?_
  cases happens with
  | stopped stops => exact fun goesOn => by simp [goesOn _] at stops
  | returned => trivial
  | lost drifts error value answers allowed goesOn plan =>
      exact Or.inr fun faultless => by simp [faultless _] at plan
  | refused drifts error answers =>
      rw [(Call.onContainer_error answers).2]
      exact Or.inl rfl
  | failed drifts error allowed goesOn applied plan =>
      exact Or.inr fun faultless => by simp [faultless _] at plan

/-- An existing container is found unless the plan gets in the way. -/
theorem ensures_existing (member : container ∈ host.engine.containers)
    (spares : self.dependencies.Spares container.containerId) :
    (self.existingContainer container.name).Ensures
      ⟨fun found after => Observed self.dependencies host after ∧
          ∃ shown ∈ after.engine.containers, Engine.Same container shown ∧
            found = some shown.toContainerRecord,
        fun _ after => Observed self.dependencies host after ∧
          ¬self.dependencies.Faultless (.inspectContainer (.byName container.name)),
        fun after => Observed self.dependencies host after ∧
          ¬self.dependencies.GoesOn (.inspectContainer (.byName container.name))⟩ host := by
  have moved : (observing self.dependencies).Holds (self.inspectContainer (.byName container.name))
      fun _ => True := observing_invoke rfl
  have inspected := ((moved.ensures host).and (self.ensures_inspectName container.name host)).and
    (ensures_missed (.byName container.name) host)
  refine ensures_tryCatch.mpr (ensures_map.mpr (inspected.mono (fun record after facts => ?_)
    (fun error after facts => ?_) fun after facts => ⟨facts.1.1, facts.2⟩))
  · have ⟨⟨⟨observed, _⟩, _, other, otherMember, named, shows⟩, _⟩ := facts
    have ⟨later, laterMember, same⟩ := observed.keeps member spares
    have equal : other = later := Engine.eq_of_name otherMember laterMember
      (named.trans same.name)
    exact ⟨observed, later, laterMember, same, by rw [← shows, equal]⟩
  · have ⟨⟨observed, gone⟩, missed⟩ := facts
    have ⟨later, laterMember, same⟩ := observed.keeps member spares
    have there : error.isNotFound ≠ true := fun missing =>
      gone missing later laterMember same.name.symm
    exact ensures_ite.mpr ⟨fun missing => absurd missing there, fun _ =>
      ⟨observed, missed.resolve_left there⟩⟩

/-- `routes.exists` tells whether the route is published. -/
theorem ensures_routesExists (participantId : UUID) (host : Host) :
    (self.routesExists participantId).Ensures
      ⟨fun routed after => Observed self.dependencies host after ∧
          routed = (host.published .routes participantId).isSome,
        fun _ _ => False,
        fun after => Observed self.dependencies host after ∧
          ¬self.dependencies.GoesOn (.isPublished .routes participantId)⟩ host := by
  have moved : (observing self.dependencies).Holds (self.routesExists participantId)
      fun _ => True := observing_invoke rfl
  suffices answered : (self.routesExists participantId).Ensures
      ⟨fun routed _ => routed = (host.published .routes participantId).isSome, fun _ _ => False,
        fun _ => ¬self.dependencies.GoesOn (.isPublished .routes participantId)⟩ host from
    ((moved.ensures host).and answered).mono (fun _ _ facts => ⟨facts.1.1, facts.2⟩)
      (fun _ _ facts => facts.2) fun _ facts => facts
  refine ensures_invoke fun outcome after happens => ?_
  cases happens with
  | stopped stops => exact fun goesOn => by simp [goesOn _] at stops
  | returned drifts routed answers => exact (Except.ok.inj answers).symm
  | lost drifts error value answers allowed => simp [Call.mayRaise] at allowed
  | refused drifts error answers => simp [Call.answer] at answers
  | failed drifts error allowed => simp [Call.mayRaise] at allowed

/-- What becomes of a creation that finds a container of the participant. -/
def finds (service : RuntimeService) (request : CreateRuntimeRequest) (container : Container)
    (mismatch : Error) (before : Host) : Post Host Error RuntimeRecord where
  returned record after := Observed service.dependencies before after ∧
    container.labels.lookup fingerprintLabel = some (service.fingerprint request) ∧
    Shows service.dependencies before container request.participantId record
  raised error after := Observed service.dependencies before after ∧
    (container.labels.lookup fingerprintLabel ≠ some (service.fingerprint request) ∧
        error = mismatch ∨ ¬service.dependencies.Answers request.participantId)
  stopped after := Observed service.dependencies before after ∧
    ¬service.dependencies.Answers request.participantId

theorem ensures_existingRecord {before : Host} {shown : Container} {mismatch : Error}
    (observed : Observed self.dependencies before host) (member : shown ∈ host.engine.containers)
    (same : Engine.Same container shown) (owned : OwnedBy request.participantId container.labels) :
    (self.existingRecord shown.toContainerRecord request mismatch).Ensures
      (self.finds request container mismatch before) host := by
  refine ensures_bind.mpr (ensures_bind.mpr (ensures_raiseIf.mpr ⟨fun foreign => ?_, fun _ =>
    ensures_raiseIf.mpr ⟨fun foreign => ?_, fun _ => ?_⟩⟩))
  · exact absurd (same.labels ▸ owned.1) foreign
  · exact absurd (same.labels ▸ owned.2) foreign
  refine ensures_bind.mpr (ensures_raiseIf.mpr ⟨fun differs => ?_, fun agrees => ?_⟩)
  · exact ⟨observed, Or.inl ⟨by rw [same.labels]; exact differs, rfl⟩⟩
  refine ensures_bind.mpr ((ensures_routesExists request.participantId host).mono
    (fun routed after facts => ?_) (fun _ _ => False.elim) fun after facts => ?_)
  · refine ⟨(observing _).trans observed facts.1, ?_, host, observed, shown, member, same, ?_⟩
    · rw [same.labels]
      exact not_not.mp agrees
    · have ⟨_, _, _, files, _⟩ := observed
      rw [facts.2, Host.published, Host.published, files]
      rfl
  · exact ⟨(observing _).trans observed facts.1, fun answers => facts.2 answers.looks⟩

/-- A creation that finds the participant's container only looks: it returns the
container's record if the fingerprint is the request's, and refuses if it is not. -/
theorem createRuntime_finds {romPath : PurePath.Resolved}
    (accepted : (self.validateRequest request host).1 = .returned romPath)
    (member : container ∈ host.engine.containers)
    (named : container.name = containerName request.participantId)
    (owned : OwnedBy request.participantId container.labels)
    (spares : self.dependencies.Spares container.containerId) :
    (self.createRuntime request).Ensures
      (self.finds request container (.conflict "runtime ID already exists with a different request")
        host) host := by
  have checked := ((self.observing_validateRequest request).ensures host).and
    (ensures_run (self.validateRequest request) host)
  refine ensures_bind.mpr (checked.mono (fun value between facts => ?_) (fun _ _ facts => ?_)
    fun _ facts => ?_)
  · have ⟨⟨observed, _⟩, _⟩ := facts
    have ⟨later, laterMember, same⟩ := observed.keeps member spares
    rw [same.containerId] at spares
    have existing := ensures_existing laterMember spares
    rw [← same.name, named] at existing
    refine ensures_bind.mpr (existing.mono (fun found after facts => ?_) (fun _ _ facts => ?_)
      fun _ facts => ?_)
    · have ⟨observed', shown, shownMember, same', equal⟩ := facts
      rw [equal]
      exact ensures_existingRecord ((observing _).trans observed observed') shownMember
        (same.trans same') owned
    · exact ⟨(observing _).trans observed facts.1, Or.inr fun answers =>
        facts.2 answers.faultless⟩
    · exact ⟨(observing _).trans observed facts.1, fun answers => facts.2 answers.inspects⟩
  · rw [show self.validateRequest request host = _ from facts.2] at accepted
    simp at accepted
  · rw [show self.validateRequest request host = _ from facts.2] at accepted
    simp at accepted

end RuntimeService

/-! ## What a stopped creation leaves behind -/

/-- Looking starts no container. -/
theorem Observed.started {dependencies : Dependencies} {before after : Host} {containerId : String}
    (observed : Observed dependencies before after) (started : after.Started containerId) :
    before.Started containerId := by
  have ⟨events, history, _, _, _, observes⟩ := observed
  have ⟨event, member, starts, applied⟩ := started
  rw [history] at member
  rcases List.mem_append.mp member with new | old
  · have looks := (observes event new).1
    rw [starts] at looks
    exact absurd looks Bool.false_ne_true
  · exact ⟨event, old, starts, applied⟩

/-- The label of the fingerprint. -/
theorem lookup_fingerprintLabel (request : CreateRuntimeRequest) (fingerprint : String)
    (saveKey : Option Digest) :
    (RuntimeService.payloadLabels request fingerprint saveKey).lookup fingerprintLabel =
      some fingerprint := by
  cases saveKey <;> simp [RuntimeService.payloadLabels, List.lookup, managedLabel, participantLabel,
    sessionLabel, fingerprintLabel]

/-- A creation that finds a container of the same request returns its record, also where
nothing has started the container or published a route for it. -/
theorem RuntimeService.createRuntime_overlooks {self : RuntimeService}
    {request : CreateRuntimeRequest} {container : Container} {host : Host}
    {romPath : PurePath.Resolved}
    (accepted : (self.validateRequest request host).1 = .returned romPath)
    (member : container ∈ host.engine.containers)
    (named : container.name = containerName request.participantId)
    (owned : OwnedBy request.participantId container.labels)
    (spares : self.dependencies.Spares container.containerId)
    (labelled : container.labels.lookup fingerprintLabel = some (self.fingerprint request))
    (answers : self.dependencies.Answers request.participantId) :
    ∃ record after, self.createRuntime request host = (.returned record, after) ∧
      record.containerId = container.containerId ∧
      (after.Started container.containerId → host.Started container.containerId) ∧
      after.files = host.files := by
  have finds := createRuntime_finds accepted member named owned spares
  unfold Program.Ensures at finds
  rcases run : self.createRuntime request host with ⟨outcome, after⟩
  rw [run] at finds
  cases outcome with
  | returned record =>
      have ⟨observed, _, moment, _, shown, _, shows, equal⟩ := finds
      have ⟨_, _, _, files, _⟩ := observed
      refine ⟨record, after, rfl, ?_, observed.started, files⟩
      rw [equal]
      exact shows.containerId.symm
  | raised error =>
      rcases finds.2 with ⟨differs, _⟩ | silent
      · exact absurd labelled differs
      · exact absurd answers silent
  | stopped => exact absurd answers finds.2

section Example

/-- The process stops before it starts a container. -/
def Dependencies.interrupted : Dependencies :=
  { Dependencies.working with
    stops := fun _ call =>
      match call with
      | .startContainer _ => true
      | _ => false }

def interruptedSteps : List Step :=
  [⟨.create exampleRequest, .interrupted⟩, ⟨.reconcile, .working⟩]

/-- The host after a creation that was stopped there, and a restart. -/
def interruptedHost : Host := exampleAgent.execute Host.empty interruptedSteps

/-- Every container there was made for the request. -/
theorem interruptedHost_labelled {container : Container}
    (managed : container ∈ interruptedHost.engine.managed) :
    container.labels.lookup fingerprintLabel =
      some ((exampleAgent.service .working).fingerprint exampleRequest) := by
  have ⟨request, step, listed, create, made⟩ :=
    (exampleAgent.execute_sound rfl interruptedSteps).made container managed
  have same : request = exampleRequest := by
    rcases List.mem_cons.mp listed with first | second
    · rw [first] at create
      exact (Operation.create.inj create).symm
    · rw [List.mem_singleton.mp second] at create
      exact absurd create (by simp)
  rw [made.labels, same]
  exact lookup_fingerprintLabel _ _ _

/-- The next creation finds the container that was left behind and returns its record; nothing
has started the container, and there is no route. -/
theorem interrupted_creation_is_returned :
    ∃ record after, (exampleAgent.service .working).createRuntime exampleRequest interruptedHost =
        (.returned record, after) ∧
      record.containerId = exampleRecord.containerId ∧
      ¬after.Started exampleRecord.containerId ∧
      after.published .routes exampleRequest.participantId = none := by
  obtain ⟨⟨container, member, named, owned, identity⟩, accepted, unstarted, unrouted⟩ :
      (∃ container ∈ interruptedHost.engine.containers,
        container.name = containerName exampleRequest.participantId ∧
        OwnedBy exampleRequest.participantId container.labels ∧
        container.containerId = exampleRecord.containerId) ∧
      ((exampleAgent.service .working).validateRequest exampleRequest interruptedHost).1 =
        .returned exampleRomPath ∧
      ¬interruptedHost.Started exampleRecord.containerId ∧
      interruptedHost.published .routes exampleRequest.participantId = none := by decide +kernel
  have managed : container ∈ interruptedHost.engine.managed :=
    Engine.mem_managed.mpr ⟨member, by simp [ContainerRecord.managed, owned.1]⟩
  have labelled := interruptedHost_labelled managed
  generalize interruptedHost = host at *
  obtain ⟨record, after, run, same, earlier, files⟩ :=
    RuntimeService.createRuntime_overlooks accepted member named owned
      (fun _ => List.not_mem_nil) labelled ⟨fun _ => rfl, fun _ => rfl, fun _ => rfl⟩
  rw [identity] at same earlier
  refine ⟨record, after, run, same, fun started => unstarted (earlier started), ?_⟩
  rw [← unrouted, Host.published, Host.published, files]

end Example

/-! ## The container of a creation -/

namespace RuntimeService

variable {self : RuntimeService} {request : CreateRuntimeRequest}

/-- A container with the identifier is the participant's and carries the
fingerprint of the request. -/
structure Marks (service : RuntimeService) (request : CreateRuntimeRequest) (containerId : String)
    (engine : Engine) : Prop where
  issued : containerId ∈ engine.issued
  marked : ∀ container ∈ engine.containers, container.containerId = containerId →
    container.name = containerName request.participantId ∧
      OwnedBy request.participantId container.labels ∧
      container.labels.lookup fingerprintLabel = some (service.fingerprint request)

theorem Marks.later {containerId : String} {before after : Engine}
    (marks : self.Marks request containerId before) (inherits : before.Inherits after) :
    self.Marks request containerId after := by
  refine ⟨inherits.issued marks.issued, fun container member identity => ?_⟩
  have ⟨earlier, earlierMember, same⟩ := inherits.containers container member
    (identity ▸ marks.issued)
  rw [← same.name, ← same.labels]
  exact marks.marked earlier earlierMember (same.containerId.trans identity)

/-- An existing container bears the marks its labels show. -/
theorem marks_of_member {engine : Engine} {container : Container}
    (member : container ∈ engine.containers)
    (named : container.name = containerName request.participantId)
    (owned : OwnedBy request.participantId container.labels)
    (labelled : container.labels.lookup fingerprintLabel = some (self.fingerprint request)) :
    self.Marks request container.containerId engine := by
  refine ⟨engine.recorded container member, fun other otherMember identity => ?_⟩
  rw [Engine.eq_of_containerId otherMember member identity]
  exact ⟨named, owned, labelled⟩

/-- A creation that returns tells the identifier of a marked container. -/
def yieldsMarked (service : RuntimeService) (request : CreateRuntimeRequest) :
    Post Host Error RuntimeRecord where
  returned record after := service.Marks request record.containerId after.engine
  raised _ _ := True
  stopped _ := True

/-- The record of an existing container with the right fingerprint. -/
theorem existingRecord_marked {host : Host} {container : Container}
    (member : container ∈ host.engine.containers)
    (named : container.name = containerName request.participantId) (mismatch : Error) :
    (self.existingRecord container.toContainerRecord request mismatch).Ensures
      (self.yieldsMarked request) host := by
  refine ensures_bind.mpr (ensures_requireOwned (fun owned => ?_) fun _ => trivial)
  refine ensures_bind.mpr (ensures_raiseIf.mpr ⟨fun _ => trivial, fun agrees => ?_⟩)
  have marks : self.Marks request container.containerId host.engine :=
    marks_of_member member named owned (not_not.mp agrees)
  have kept := inheriting_quiet (self.quiet_runtimeRecord container.toContainerRecord
    request.participantId)
  refine (kept.ensures host).mono (fun record after facts => ?_) (fun _ _ _ => trivial)
    fun _ _ => trivial
  have later := marks.later facts.1
  have identity : record.containerId = container.containerId := facts.2.2.1
  rw [← identity] at later
  exact later

theorem createOrFind_marked {host : Host} {payload : Payload}
    (labels : ∃ saveKey, payload.labels =
      payloadLabels request (self.fingerprint request) saveKey) :
    (self.createOrFind request (containerName request.participantId) payload).Ensures
      ⟨fun created after =>
          match created with
          | .inl containerId => self.Marks request containerId after.engine
          | .inr record => self.Marks request record.containerId after.engine,
        fun _ _ => True, fun _ => True⟩ host := by
  refine ensures_tryCatch.mpr (ensures_map.mpr (ensures_invoke fun outcome after happens => ?_))
  have found : ∀ error : Error, ∀ between : Host, (do
      let existing ← self.inspectContainer (.byName (containerName request.participantId))
      self.existingRecord existing request error : AgentProgram RuntimeRecord).Ensures
        (self.yieldsMarked request) between := by
    intro error between
    refine ensures_bind.mpr ((self.ensures_inspectName _ between).mono
      (fun record later facts => ?_) (fun _ _ _ => trivial) fun _ _ => trivial)
    have ⟨_, container, member, named, shows⟩ := facts
    rw [← shows]
    exact existingRecord_marked member named error
  have handled : ∀ error : Error, (if error.isConflict then do
      let existing ← self.inspectContainer (.byName (containerName request.participantId))
      Sum.inr <$> self.existingRecord existing request error
    else throw error : AgentProgram (String ⊕ RuntimeRecord)).Ensures
      ⟨fun created after =>
          match created with
          | .inl containerId => self.Marks request containerId after.engine
          | .inr record => self.Marks request record.containerId after.engine,
        fun _ _ => True, fun _ => True⟩ after := by
    intro error
    refine ensures_ite.mpr ⟨fun _ => ?_, fun _ => trivial⟩
    refine ensures_bind.mpr ((ensures_bind.mp (found error after)).mono
      (fun existing later inner => ensures_map.mpr inner) (fun _ _ _ => trivial) fun _ _ => trivial)
  cases happens with
  | stopped => trivial
  | returned drifts containerId answered =>
      have ⟨fresh, effect⟩ := Call.answer_create answered
      have ⟨saveKey, labelled⟩ := labels
      show self.Marks request containerId _
      rw [Host.record_engine, effect]
      refine ⟨List.mem_cons_self, fun container member identity => ?_⟩
      rcases List.mem_append.mp member with before | new
      · exact absurd (identity ▸ (host.drifted drifts).engine.recorded container before) fresh.1
      · rw [List.mem_singleton.mp new, Engine.created, labelled]
        exact ⟨rfl, ownedBy_payloadLabels request _ saveKey,
          lookup_fingerprintLabel request _ saveKey⟩
  | lost drifts error => exact handled error
  | refused drifts error => exact handled error
  | failed drifts error => exact handled error

/-- The record of a launched container tells its identifier. -/
theorem launch_identity {host : Host} {name containerId : String} :
    (self.launch request name containerId).Ensures
      ⟨fun record _ => record.containerId = containerId, fun _ _ => True,
        fun _ => True⟩ host := by
  refine ensures_bind.mpr (ensures_of_forall (fun _ between => ?_) (fun _ _ => trivial)
    fun _ => trivial)
  refine ensures_bind.mpr (ensures_invoke fun outcome after happens => ?_)
  cases happens with
  | returned drifts record answered =>
      have ⟨container, found, shows⟩ := Call.answer_inspect answered
      have kept := (self.quiet_runtimeRecord record request.participantId).ensures
      refine (kept _).mono (fun value later facts => ?_) (fun _ _ _ => trivial) fun _ _ => trivial
      have identity : value.containerId = record.containerId := facts.2.2.1
      show value.containerId = containerId
      rw [identity, ← shows]
      exact Engine.find?_id found
  | _ => trivial

theorem launch_marked {host : Host} {name containerId : String}
    (marks : self.Marks request containerId host.engine) :
    (self.launch request name containerId).Ensures (self.yieldsMarked request) host := by
  have limited : Limited self.dependencies (Call.Tends request.participantId [containerId])
      (self.launch request name containerId) :=
    self.limited_launch (List.mem_singleton_self containerId)
  refine (((inheriting_limited limited).ensures host).and launch_identity).mono
    (fun record after facts => ?_) (fun _ _ _ => trivial) fun _ _ => trivial
  have later := marks.later facts.1.1
  rw [← facts.2] at later
  exact later

/-- Every creation that returns tells the identifier of a marked container. -/
theorem createRuntime_marked (host : Host) :
    (self.createRuntime request).Ensures (self.yieldsMarked request) host := by
  refine ensures_bind.mpr (ensures_of_forall (fun romPath between => ?_) (fun _ _ => trivial)
    fun _ => trivial)
  have existing : (self.existingContainer (containerName request.participantId)).Ensures
      ⟨fun found after => ∀ record, found = some record →
        ∃ container ∈ after.engine.containers,
          container.name = containerName request.participantId ∧
            container.toContainerRecord = record,
        fun _ _ => True, fun _ => True⟩ between := by
    refine ensures_tryCatch.mpr (ensures_map.mpr ((self.ensures_inspectName _ between).mono
      (fun record after facts => ?_) (fun error after _ => ?_) fun _ _ => trivial))
    · intro other equal
      rw [← Option.some.inj equal]
      exact facts.2
    · exact ensures_ite.mpr ⟨fun _ _ equal => by simp at equal, fun _ => trivial⟩
  refine ensures_bind.mpr (existing.mono (fun found after facts => ?_) (fun _ _ _ => trivial)
    fun _ _ => trivial)
  cases found with
  | some record =>
      have ⟨container, member, named, shows⟩ := facts record rfl
      rw [← shows]
      exact existingRecord_marked member named _
  | none =>
      have skip : ∀ {α : Type} {program : AgentProgram α}
          {next : α → AgentProgram RuntimeRecord} {before : Host},
          (∀ value between, (next value).Ensures (self.yieldsMarked request) between) →
          (program >>= next).Ensures (self.yieldsMarked request) before := fun rest =>
        ensures_bind.mpr (ensures_of_forall rest (fun _ _ => trivial) fun _ => trivial)
      refine skip fun managed _ => skip fun _ _ => skip fun saves _ => ?_
      refine skip fun directory _ => skip fun _ host => ?_
      have computed := (self.quiet_payload request romPath directory (self.fingerprint request)
        saves (self.saveKey request)).ensures host
      refine ensures_bind.mpr (computed.mono (fun payload _ facts => ?_) (fun _ _ _ => trivial)
        fun _ _ => trivial)
      have ⟨_, _, _, _, _, _, _, _, _, _, _, equal⟩ := facts.2
      have labels : payload.labels =
          payloadLabels request (self.fingerprint request) (self.saveKey request) := by
            rw [equal]; rfl
      refine ensures_bind.mpr
        ((createOrFind_marked ⟨_, labels⟩).mono (fun created after marks => ?_)
        (fun _ _ _ => trivial) fun _ _ => trivial)
      cases created with
      | inl containerId => exact launch_marked marks
      | inr record => exact marks

end RuntimeService

/-! ## Runs -/

namespace Agent

variable {agent : Agent} {start : Host} {earlier between : List Step} {creation : Step}
variable {request : CreateRuntimeRequest} {record : RuntimeRecord}

/-- The container of a creation bears its marks after any further operations. -/
theorem marks_later (creates : creation.operation = .create request)
    (created : (agent.run creation (agent.execute start earlier)).1 = .returned (.runtime record))
    (dependencies : Dependencies) :
    (agent.service dependencies).Marks request record.containerId
      (agent.execute start (earlier ++ creation :: between)).engine := by
  have ⟨operation, dependencies'⟩ := creation
  cases creates
  have marked : (agent.run ⟨.create request, dependencies'⟩).Ensures
      ⟨fun reply after => ∀ record, reply = .runtime record →
          (agent.service dependencies).Marks request record.containerId after.engine,
        fun _ _ => True, fun _ => True⟩ (agent.execute start earlier) := by
    have ensures : ((agent.service dependencies').createRuntime request).Ensures
        ((agent.service dependencies').yieldsMarked request) (agent.execute start earlier) :=
      RuntimeService.createRuntime_marked _
    refine ensures_map.mpr (ensures.mono (fun record after marks other equal => ?_)
      (fun _ _ _ => trivial) fun _ _ => trivial)
    rw [← Reply.runtime.inj equal]
    exact ⟨marks.issued, marks.marked⟩
  rw [execute_append]
  exact (marked.ofReturned created record rfl).later (agent.execute_inherits _ between)

end Agent

/-- After any operations, a creation that succeeded and any operations since, while
its container exists and stays: a second creation for the same participant, whose
checks pass, only looks. It returns only if it is the same request; and when the
engine answers, it returns the container's record if it is the same request, else it
raises `ConflictError`. -/
theorem duplicates_recognised (agent : Agent) (start : Host) (steps earlier between : List Step)
    (creation repeated : Step) (first second : CreateRuntimeRequest)
    (parts : steps = earlier ++ creation :: between)
    (creates : creation.operation = .create first) (repeats : repeated.operation = .create second)
    (participant : second.participantId = first.participantId)
    (separates : agent.library.SeparatesRequests first second) (record : RuntimeRecord)
    (created : (agent.run creation (agent.execute start earlier)).1 = .returned (.runtime record))
    (container : Container) (member : container ∈ (agent.execute start steps).engine.containers)
    (identity : container.containerId = record.containerId)
    (spares : repeated.dependencies.Spares container.containerId) (romPath : PurePath.Resolved)
    (accepted : ((agent.service repeated.dependencies).validateRequest second
      (agent.execute start steps)).1 = .returned romPath) :
    let before := agent.execute start steps
    let outcome := agent.run repeated before
    Observed repeated.dependencies before outcome.2 ∧
      (∀ reply, outcome.1 = .returned reply → first = second) ∧
      (repeated.dependencies.Answers second.participantId →
        (first = second ↔ ∃ again, outcome.1 = .returned (.runtime again) ∧
          Shows repeated.dependencies before container second.participantId again) ∧
        (first ≠ second → outcome.1 =
          .raised (.conflict "runtime ID already exists with a different request"))) := by
  obtain ⟨operation, dependencies⟩ := repeated
  obtain rfl : operation = .create second := repeats
  intro before outcome
  have marks : (agent.service dependencies).Marks first record.containerId before.engine := by
    have later : (agent.service dependencies).Marks first record.containerId
        (agent.execute start (earlier ++ creation :: between)).engine :=
      Agent.marks_later creates created dependencies
    rw [← parts] at later
    exact later
  have ⟨named, owned, labelled⟩ := marks.marked container member identity
  rw [← participant] at named owned
  have same : (agent.service dependencies).fingerprint first =
      (agent.service dependencies).fingerprint second ↔ first = second :=
    fingerprint_eq_iff (agent.service dependencies) separates
  have finds : (agent.run ⟨.create second, dependencies⟩).Ensures
      ⟨fun reply after => Observed dependencies before after ∧ first = second ∧
          ∃ again, reply = .runtime again ∧
            Shows dependencies before container second.participantId again,
        fun error after => Observed dependencies before after ∧ (first ≠ second ∧
          error = .conflict "runtime ID already exists with a different request" ∨
            ¬dependencies.Answers second.participantId),
        fun after => Observed dependencies before after ∧
          ¬dependencies.Answers second.participantId⟩ before := by
    refine ensures_map.mpr ((RuntimeService.createRuntime_finds accepted member named owned
      spares).mono (fun again after facts => ?_) (fun error after facts => ?_) fun _ facts => facts)
    · have ⟨observed, agrees, shows⟩ := facts
      rw [labelled] at agrees
      exact ⟨observed, same.mp (Option.some.inj agrees), again, rfl, shows⟩
    · have ⟨observed, refused⟩ := facts
      refine ⟨observed, refused.imp_left fun both => ⟨fun equal => both.1 ?_, both.2⟩⟩
      rw [labelled, same.mpr equal]
  have ends : Post.Holds _ outcome := finds
  clear_value outcome
  have ⟨ended, after⟩ := outcome
  cases ended with
  | returned reply =>
      have ⟨observed, equal, again, replied, shows⟩ := ends
      refine ⟨observed, fun _ _ => equal, fun _ =>
        ⟨⟨fun _ => ⟨again, by rw [replied], shows⟩,
        fun _ => equal⟩, fun differs => absurd equal differs⟩⟩
  | raised error =>
      have ⟨observed, refused⟩ := ends
      refine ⟨observed, by simp, fun answers => ?_⟩
      have ⟨differs, raised⟩ := refused.resolve_right fun silent => silent answers
      exact ⟨⟨fun equal => absurd equal differs, by simp⟩, fun _ => by rw [raised]⟩
  | stopped =>
      exact ⟨ends.1, by simp, fun answers => absurd answers ends.2⟩

section Example

/-- The same request again returns the record of the container, and nothing has changed. -/
theorem repeated_creation_finds :
    let before := exampleAgent.execute Host.empty exampleSteps
    let outcome := exampleAgent.run ⟨.create exampleRequest, .working⟩ before
    ∃ container ∈ before.engine.containers, ∃ again,
      outcome.1 = .returned (.runtime again) ∧
      Shows .working before container exampleRequest.participantId again ∧
      Observed .working before outcome.2 := by
  have ⟨container, member, identity⟩ : ∃ container ∈
      (exampleAgent.execute Host.empty exampleSteps).engine.containers,
        container.containerId = exampleRecord.containerId := by decide +kernel
  have ⟨observed, _, answered⟩ :=
    duplicates_recognised exampleAgent Host.empty exampleSteps [] []
      ⟨.create exampleRequest, .working⟩ ⟨.create exampleRequest, .working⟩
      exampleRequest exampleRequest rfl rfl rfl rfl ⟨fun _ => rfl, fun _ => rfl⟩
      exampleRecord (by decide +kernel) container member identity
      (fun _ => List.not_mem_nil) exampleRomPath (by decide +kernel)
  have ⟨again, returned, shows⟩ :=
    (answered ⟨fun _ => rfl, fun _ => rfl, fun _ => rfl⟩).1.mp rfl
  exact ⟨container, member, again, returned, shows, observed⟩

end Example

end RetroBrowser.RuntimeAgent
