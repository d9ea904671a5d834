import RetroBrowser.RuntimeAgent.Calls

/-!
Owns the quiet programs of the agent: they change neither containers nor
registries, so that containers move only on their own while such a program runs.
Reading the host, checking a request, preparing directories and the
specification, and computing the payload are all quiet.
-/

namespace RetroBrowser.RuntimeAgent

open RetroBrowser.Foundation
open RetroBrowser.Foundation.Frame

/-- What containers did on their own during some events, in order of time. -/
def driftsOf (events : List Event) : List Drift := events.reverse.flatMap fun event => event.drifts

theorem driftsOf_append (later earlier : List Event) :
    driftsOf (later ++ earlier) = driftsOf earlier ++ driftsOf later := by
  simp [driftsOf]

theorem driftsOf_cons (event : Event) (earlier : List Event) :
    driftsOf (event :: earlier) = driftsOf earlier ++ event.drifts := by
  simp [driftsOf]

theorem Engine.drifted_append (engine : Engine) (first second : List Drift) :
    engine.drifted (first ++ second) = (engine.drifted first).drifted second :=
  List.foldl_append

/-- From `before` to `after` there were harmless calls only. -/
def Quiet (before after : Host) : Prop :=
  ∃ events, after.history = events ++ before.history ∧
    after.engine = before.engine.drifted (driftsOf events) ∧ after.files = before.files ∧
    ∀ event ∈ events, event.call.harmless = true

def quiet : Frame Host where
  Keeps := Quiet
  refl _ := ⟨[], rfl, rfl, rfl, by simp⟩
  trans := by
    rintro before between after ⟨first, history, engine, files, harmless⟩
      ⟨second, history', engine', files', harmless'⟩
    refine ⟨second ++ first, by rw [history', history, List.append_assoc], ?_,
      files'.trans files, fun event member => ?_⟩
    · rw [engine', engine, driftsOf_append, Engine.drifted_append]
    · exact (List.mem_append.mp member).elim (harmless' event) (harmless event)

/-- An event of a harmless call. -/
theorem quiet_record {host after : Host} {event : Event} (harmless : event.call.harmless = true)
    (engine : after.engine = host.engine.drifted event.drifts) (files : after.files = host.files)
    (history : after.history = host.history) : Quiet host (after.record event) := by
  refine ⟨[event], by simp [history], ?_, files, by simpa using harmless⟩
  simpa [driftsOf] using engine

variable {dependencies : Dependencies}

/-- A harmless call is quiet, and what it answers may be used. -/
theorem quiet_invoke {call : Call} (harmless : call.harmless = true)
    {onValue : call.Answer → Prop}
    (answers : ∀ index host value, call.answer dependencies index host = .ok value →
      onValue value) : quiet.Holds (dependencies.invoke call) onValue := by
  intro host
  have happens := invoke_happens dependencies call host
  revert happens
  generalize (dependencies.invoke call host).1 = outcome
  generalize (dependencies.invoke call host).2 = after
  intro happens
  have unchanged : ∀ drifts : List Drift,
      (call.effect dependencies host.history.length (host.drifted drifts)).engine =
          (host.drifted drifts).engine ∧
        (call.effect dependencies host.history.length (host.drifted drifts)).files =
          (host.drifted drifts).files := fun drifts => Call.effect_harmless harmless
  cases happens with
  | stopped => exact ⟨quiet.refl host, trivial⟩
  | returned drifts value answered =>
      exact ⟨quiet_record harmless (unchanged drifts).1 (unchanged drifts).2
        (Call.effect_history call), answers _ _ value answered⟩
  | lost drifts error value _ _ =>
      exact ⟨quiet_record harmless (unchanged drifts).1 (unchanged drifts).2
        (Call.effect_history call), trivial⟩
  | refused drifts error _ => exact ⟨quiet_record harmless rfl rfl rfl, trivial⟩
  | failed drifts error _ => exact ⟨quiet_record harmless rfl rfl rfl, trivial⟩

theorem quiet_call {call : Call} (harmless : call.harmless = true) :
    quiet.Holds (dependencies.invoke call) fun _ => True :=
  quiet_invoke harmless fun _ _ _ _ => trivial

/-- The labels that `_require_owned` asks for. -/
def OwnedBy (participantId : UUID) (labels : Labels) : Prop :=
  labels.lookup managedLabel = some "true" ∧
    labels.lookup participantLabel = some (UUID.str participantId)

instance (participantId : UUID) (labels : Labels) : Decidable (OwnedBy participantId labels) :=
  inferInstanceAs (Decidable (_ ∧ _))

namespace RuntimeService

variable (self : RuntimeService)

/-! ## Reading the host -/

/-- The file system resolves the path in this way at some call. -/
def Resolves (path : PurePath.Text) (resolved : PurePath.Resolved) : Prop :=
  ∃ index, (self.dependencies.fileSystem index).resolve path = some resolved

/-- The file has this content at some call. -/
def Reads (path : PurePath.Text) (content : List UInt8) : Prop :=
  ∃ index, (self.dependencies.fileSystem index).read path = some content

theorem onFile_ok {α : Type} {content : Option α} {value : α}
    (answered : Call.onFile content = .ok value) : content = some value := by
  cases content with
  | none => simp [Call.onFile] at answered
  | some held => rw [Except.ok.inj answered]

theorem quiet_resolve (path : PurePath.Text) :
    quiet.Holds (self.resolve path) (self.Resolves path) :=
  quiet_invoke rfl fun index _ _ answered => ⟨index, onFile_ok answered⟩

theorem quiet_inspectContainer (reference : Reference) :
    quiet.Holds (self.inspectContainer reference) fun _ => True :=
  quiet_call rfl

theorem quiet_requireOwned (record : ContainerRecord) (participantId : UUID) :
    quiet.Holds (requireOwned record participantId) fun _ =>
      OwnedBy participantId record.labels := by
  refine holds_bind holds_raiseIf fun _ managed => ?_
  exact holds_raiseIf.weaken fun _ labelled => ⟨not_not.mp managed, not_not.mp labelled⟩

theorem quiet_runtimeRecord (container : ContainerRecord) (participantId : UUID) :
    quiet.Holds (self.runtimeRecord container participantId) fun record =>
      record.participantId = participantId ∧ record.containerId = container.containerId ∧
        record.streamSubfolder = (container.labels.lookup subfolderLabel).getD "" :=
  holds_bind (quiet_call rfl) fun _ _ => holds_pure ⟨rfl, rfl, rfl⟩

/-- The records are those of the summaries whose label is an identifier. -/
theorem quiet_managedRuntimes (summaries : List ContainerRecord) :
    quiet.Holds (self.managedRuntimes summaries) fun records =>
      records.map (fun record => record.participantId) =
        summaries.filterMap fun summary => labelledParticipant summary.labels := by
  induction summaries with
  | nil => exact holds_pure rfl
  | cons summary rest inductionHypothesis =>
      unfold managedRuntimes
      cases labelled : labelledParticipant summary.labels with
      | none =>
          refine inductionHypothesis.weaken fun records same => ?_
          rw [same, List.filterMap_cons, labelled]
      | some participantId =>
          refine holds_bind (self.quiet_inspectContainer _) fun container _ => ?_
          refine holds_bind (quiet_requireOwned container participantId) fun _ _ => ?_
          refine holds_bind (self.quiet_runtimeRecord container participantId) fun record own => ?_
          refine holds_bind inductionHypothesis fun records same => holds_pure ?_
          rw [List.map_cons, same, own.1, List.filterMap_cons, labelled]

/-- The engine's list shows the labels of the managed containers. -/
theorem ensures_listManagedContainers (host : Host) :
    self.listManagedContainers.Ensures
      ⟨fun summaries after => Quiet host after ∧ summaries.map (fun summary => summary.labels) =
          after.engine.managed.map fun container => container.labels,
        fun _ after => Quiet host after, fun after => Quiet host after⟩ host := by
  have moved : quiet.Holds self.listManagedContainers fun _ => True := quiet_call rfl
  have labels : self.listManagedContainers.Ensures
      ⟨fun summaries after => summaries.map (fun summary => summary.labels) =
          after.engine.managed.map fun container => container.labels,
        fun _ _ => True, fun _ => True⟩ host := by
    refine ensures_invoke fun outcome after happens => ?_
    cases happens with
    | returned drifts summaries answered =>
        obtain rfl := Except.ok.inj answered
        exact List.map_map
    | _ => trivial
  exact ((moved.ensures host).and labels).mono (fun _ _ both => ⟨both.1.1, both.2⟩)
    (fun _ _ both => both.1) fun _ both => both.1

/-- The list shows the managed containers of some moment before it returned. -/
theorem ensures_listManagedRuntimes (host : Host) :
    self.listManagedRuntimes.Ensures
      ⟨fun records after => Quiet host after ∧ ∃ listed :
        Engine, listed.Within after.engine ∧
          records.map (fun record => record.participantId) =
            listed.managed.filterMap fun container => labelledParticipant container.labels,
        fun _ after => Quiet host after, fun after => Quiet host after⟩ host := by
  have listing := self.ensures_listManagedContainers host
  refine Program.ensures_bind.mpr (listing.mono (fun summaries between listed => ?_) (fun _ _ => id)
    fun _ => id)
  refine ((self.quiet_managedRuntimes summaries).ensures between).mono
    (fun records after both => ⟨quiet.trans listed.1 both.1, between.engine, ?_, ?_⟩)
    (fun _ _ moved => quiet.trans listed.1 moved) fun _ moved => quiet.trans listed.1 moved
  · obtain ⟨events, -, engine, -⟩ := both.1
    rw [engine]
    exact Engine.within_drifted between.engine _
  · have labels := listed.2
    rw [both.2]
    have through : ∀ {α : Type} (labelsOf : α → Labels) (items : List α),
        (items.filterMap fun item => labelledParticipant (labelsOf item)) =
          (items.map labelsOf).filterMap labelledParticipant := fun labelsOf items => by
      rw [List.filterMap_map]
      rfl
    rw [through, labels, ← through]

theorem quiet_listManagedRuntimes : quiet.Holds self.listManagedRuntimes fun _ => True :=
  holds_bind (quiet_call rfl) fun summaries _ =>
    (self.quiet_managedRuntimes summaries).weaken fun _ _ => trivial

theorem quiet_existingContainer (name : String) :
    quiet.Holds (self.existingContainer name) fun _ => True := by
  refine holds_tryCatch ?_ fun error => ?_
  · exact holds_map (self.quiet_inspectContainer _) fun _ _ => trivial
  · exact holds_ite (fun _ => holds_pure trivial) fun _ => holds_throw error

theorem quiet_existingRecord (existing : ContainerRecord) (request : CreateRuntimeRequest)
    (mismatch : Error) :
    quiet.Holds (self.existingRecord existing request mismatch) fun record =>
      OwnedBy request.participantId existing.labels ∧
        record.participantId = request.participantId ∧
        record.containerId = existing.containerId ∧
        record.streamSubfolder = (existing.labels.lookup subfolderLabel).getD "" := by
  refine holds_bind (quiet_requireOwned existing request.participantId) fun _ owned => ?_
  refine holds_bind holds_raiseIf fun _ _ => ?_
  exact (self.quiet_runtimeRecord existing request.participantId).weaken fun _ own =>
    ⟨owned, own⟩

theorem quiet_listParticipants (registry : Registry) :
    quiet.Holds (self.listParticipants registry) fun _ => True :=
  holds_bind (quiet_call rfl) fun _ _ => holds_pure trivial

theorem quiet_metricsListParticipants : quiet.Holds self.metricsListParticipants fun _ => True :=
  holds_ite (fun _ => holds_pure trivial) fun _ => self.quiet_listParticipants .targets

/-! ## Checking a request -/

/-- The request names this file, which lies beneath the ROM root and has the
requested digest. -/
structure Verified (request : CreateRuntimeRequest) (romPath : PurePath.Resolved) : Prop where
  image : request.image = self.config.approvedImage
  networks : [request.streamNetwork, request.netplayNetwork] ⊆ self.config.approvedNetworks
  gpuProfile : request.gpuProfile ∈ self.config.gpuProfiles
  requested : self.Resolves request.romPath.toList romPath
  beneath : ∃ root, self.Resolves self.config.romRoot.toList root ∧
    romPath.isRelativeTo root = true
  digest : ∃ content, self.Reads romPath.str content ∧
    (self.library.sha256 content).hexdigest = request.romSha256

theorem quiet_resolveExistingFileBeneath (candidate root : String) :
    quiet.Holds (self.resolveExistingFileBeneath candidate root) fun path =>
      self.Resolves candidate.toList path ∧
        ∃ resolvedRoot, self.Resolves root.toList resolvedRoot ∧
          path.isRelativeTo resolvedRoot = true := by
  refine holds_bind (self.quiet_resolve root.toList) fun resolvedRoot rootResolves => ?_
  refine holds_bind (self.quiet_resolve candidate.toList) fun resolved resolves => ?_
  refine holds_bind (quiet_call rfl) fun regular _ => ?_
  refine holds_bind holds_raiseIf fun _ _ => ?_
  refine holds_bind holds_raiseIf fun _ beneath => ?_
  exact holds_pure ⟨resolves, resolvedRoot, rootResolves, by simpa using beneath⟩

theorem quiet_sha256File (path : PurePath.Resolved) :
    quiet.Holds (self.sha256File path) fun digest => ∃ content, self.Reads path.str content ∧
      (self.library.sha256 content).hexdigest = digest := by
  have reads : quiet.Holds (self.dependencies.invoke (.read path.str)) (self.Reads path.str) :=
    quiet_invoke rfl fun index _ _ answered => ⟨index, onFile_ok answered⟩
  exact holds_bind reads fun content holds => holds_pure ⟨content, holds, rfl⟩

theorem quiet_validateRequest (request : CreateRuntimeRequest) :
    quiet.Holds (self.validateRequest request) (self.Verified request) := by
  refine holds_bind holds_raiseIf fun _ image => ?_
  refine holds_bind holds_raiseIf fun _ networks => ?_
  refine holds_bind holds_raiseIf fun _ _ => ?_
  refine holds_bind holds_raiseIf fun _ gpuProfile => ?_
  refine holds_bind (self.quiet_resolveExistingFileBeneath _ _) fun romPath resolved => ?_
  refine holds_bind (self.quiet_sha256File romPath) fun digest read => ?_
  refine holds_bind holds_raiseIf fun _ matches' => ?_
  obtain ⟨content, reads, hashed⟩ := read
  exact holds_pure
    { image := not_not.mp image
      networks := not_not.mp networks
      gpuProfile := not_not.mp gpuProfile
      requested := resolved.1
      beneath := resolved.2
      digest := ⟨content, reads, hashed.trans (not_not.mp matches')⟩ }

/-! ## Preparing directories, specification and payload -/

theorem quiet_giveMode (path : PurePath.Text) (own shared : Nat) :
    quiet.Holds (self.giveMode path own shared) fun _ => True :=
  holds_ite (fun _ => quiet_call rfl) fun _ => holds_runIf fun _ => quiet_call rfl

theorem quiet_givePermissions (path : PurePath.Text) (own shared : Nat) :
    quiet.Holds (self.givePermissions path own shared) fun _ => True :=
  holds_bind (self.quiet_giveMode path own shared) fun _ _ =>
    holds_runIf fun _ => quiet_call rfl

theorem quiet_runtimeDirectory (participantId : UUID) :
    quiet.Holds (self.runtimeDirectory participantId) fun _ => True := by
  refine holds_bind (self.quiet_resolve _) fun root _ => ?_
  refine holds_bind (holds_runIf fun _ => ?_) fun _ _ => ?_
  · exact holds_bind (quiet_call rfl) fun _ _ => holds_raiseIf.weaken fun _ _ => trivial
  · refine holds_bind (quiet_call rfl) fun _ _ => ?_
    refine holds_bind (self.quiet_resolve _) fun resolved _ => ?_
    refine holds_bind holds_raiseIf fun _ _ => ?_
    exact holds_bind (self.quiet_givePermissions _ _ _) fun _ _ => holds_pure trivial

theorem quiet_openSaves (path : PurePath.Text) :
    quiet.Holds (self.openSaves path) fun _ => True := by
  refine holds_ite (fun _ => ?_) fun _ => quiet_call rfl
  exact holds_bind (quiet_call rfl) fun _ _ => quiet_call rfl

/-- The save directory of a key, beneath the save-data root. -/
def SavesIn (saveKey : Digest) (directory : PurePath.Resolved) : Prop :=
  ∃ saveDataRoot root, self.config.saveDataRoot = some saveDataRoot ∧
    self.Resolves saveDataRoot.toList root ∧
    self.Resolves (root.child saveKey.hexdigest.toList (proper_hexdigest saveKey)).str directory

theorem quiet_persistenceDirectory (saveKey : Digest) :
    quiet.Holds (self.persistenceDirectory saveKey) (self.SavesIn saveKey) := by
  unfold persistenceDirectory
  cases configured : self.config.saveDataRoot with
  | none => exact holds_throw _
  | some saveDataRoot =>
      refine holds_bind (self.quiet_resolve _) fun root rootResolves => ?_
      refine holds_bind (self.quiet_resolve _) fun romRoot _ => ?_
      refine holds_bind holds_raiseIf fun _ _ => ?_
      refine holds_bind (quiet_call rfl) fun _ _ => ?_
      refine holds_bind (self.quiet_resolve _) fun resolved resolves => ?_
      refine holds_bind holds_raiseIf fun _ _ => ?_
      refine holds_bind (self.quiet_openSaves _) fun _ _ => ?_
      exact holds_pure ⟨saveDataRoot, root, configured, rootResolves, resolves⟩

theorem quiet_requireAvailablePersistence (saveKey : Digest) :
    quiet.Holds (self.requireAvailablePersistence saveKey) fun _ => True :=
  holds_bind (quiet_call rfl) fun _ _ => holds_raiseIf.weaken fun _ _ => trivial

/-- A claimed directory is the save directory of the key. -/
def Claimed (saveKey : Option Digest) (claimed : Option PurePath.Resolved) : Prop :=
  match saveKey with
  | none => claimed = none
  | some key => ∃ directory, claimed = some directory ∧ self.SavesIn key directory

theorem quiet_claimPersistence (saveKey : Option Digest) :
    quiet.Holds (self.claimPersistence saveKey) (self.Claimed saveKey) := by
  unfold claimPersistence
  cases saveKey with
  | none => exact holds_pure rfl
  | some key =>
      refine holds_bind (self.quiet_requireAvailablePersistence key) fun _ _ => ?_
      refine holds_bind (self.quiet_persistenceDirectory key) fun directory saves => ?_
      exact holds_pure ⟨directory, rfl, saves⟩

theorem quiet_writeRuntimeSpec (request : CreateRuntimeRequest) (directory : PurePath.Resolved) :
    quiet.Holds (self.writeRuntimeSpec request directory) fun _ => True := by
  refine holds_bind (quiet_call rfl) fun _ _ => ?_
  exact holds_bind (quiet_call rfl) fun _ _ => self.quiet_givePermissions _ _ _

/-- `configured or str(root.resolve(strict=True))`. -/
def DockerRoot (configured : Option String) (root : String) (text : PurePath.Text) : Prop :=
  (∃ value, configured = some value ∧ value.isEmpty = false ∧ text = value.toList) ∨
    ((∀ value, configured = some value → value.isEmpty = true) ∧
      ∃ resolved, self.Resolves root.toList resolved ∧ text = resolved.str)

theorem quiet_dockerRoot (configured : Option String) (root : String) :
    quiet.Holds (self.dockerRoot configured root) (self.DockerRoot configured root) := by
  unfold dockerRoot
  cases configured with
  | none =>
      refine holds_bind (self.quiet_resolve _) fun resolved resolves => ?_
      exact holds_pure (Or.inr ⟨by simp, resolved, resolves, rfl⟩)
  | some value =>
      refine holds_ite (fun unset => ?_) fun set => ?_
      · refine holds_bind (self.quiet_resolve _) fun resolved resolves => ?_
        exact holds_pure (Or.inr ⟨by simpa using unset, resolved, resolves, rfl⟩)
      · exact holds_pure (Or.inl ⟨value, rfl, by simpa using set, rfl⟩)

theorem quiet_relativeTo (path root : PurePath.Resolved) :
    quiet.Holds (relativeTo path root) fun relative =>
      path.isRelativeTo root = true ∧ relative = path.relativeTo root :=
  holds_ite (fun beneath => holds_pure ⟨beneath, rfl⟩) fun _ => holds_throw _

/-- The mounts of a save directory: none without one, else a single writable one. -/
def SaveMounts (persistenceDirectory : Option PurePath.Resolved) (mounts : List Mount) : Prop :=
  match persistenceDirectory with
  | none => mounts = []
  | some directory => ∃ saveDataRoot root dockerRoot,
      self.config.saveDataRoot = some saveDataRoot ∧ self.Resolves saveDataRoot.toList root ∧
      mounts = [{ source := String.ofList (dockerPath dockerRoot (directory.relativeTo root))
                  target := "/run/retro-saves"
                  readOnly := false }] ∧
      dockerRoot = match self.config.dockerSaveDataRoot with
        | some text => if text.isEmpty then root.str else text.toList
        | none => root.str

theorem quiet_saveMounts (persistenceDirectory : Option PurePath.Resolved) :
    quiet.Holds (self.saveMounts persistenceDirectory) (self.SaveMounts persistenceDirectory) := by
  unfold saveMounts SaveMounts
  cases persistenceDirectory with
  | none => exact holds_pure rfl
  | some directory =>
      cases configured : self.config.saveDataRoot with
      | none => exact holds_throw _
      | some saveDataRoot =>
          refine holds_bind (self.quiet_resolve _) fun root resolves => ?_
          refine holds_bind (quiet_relativeTo directory root) fun relative beneath => ?_
          obtain ⟨-, rfl⟩ := beneath
          exact holds_pure ⟨saveDataRoot, root, _, rfl, resolves, rfl, rfl⟩

/-- What a payload consists of. -/
def PayloadOf (request : CreateRuntimeRequest) (romPath : PurePath.Resolved)
    (fingerprint : String) (persistenceDirectory : Option PurePath.Resolved)
    (saveKey : Option Digest) (payload : Payload) : Prop :=
  ∃ romRoot dockerRomRoot dockerUserDataRoot userDataRelative saves env,
    self.Resolves self.config.romRoot.toList romRoot ∧ romPath.isRelativeTo romRoot = true ∧
    self.DockerRoot self.config.dockerRomRoot self.config.romRoot dockerRomRoot ∧
    self.SaveMounts persistenceDirectory saves ∧ self.environment request = .ok env ∧
    payload = self.payloadDocument request env (payloadLabels request fingerprint saveKey)
      ([self.romMount romPath dockerRomRoot (romPath.relativeTo romRoot),
        userDataMount dockerUserDataRoot userDataRelative] ++ saves)

theorem quiet_payload (request : CreateRuntimeRequest)
    (romPath runtimeDirectory : PurePath.Resolved) (fingerprint : String)
    (persistenceDirectory : Option PurePath.Resolved) (saveKey : Option Digest) :
    quiet.Holds (self.payload request romPath runtimeDirectory fingerprint persistenceDirectory
      saveKey) (self.PayloadOf request romPath fingerprint persistenceDirectory saveKey) := by
  refine holds_bind (self.quiet_resolve _) fun romRoot romResolves => ?_
  refine holds_bind (quiet_relativeTo romPath romRoot) fun romRelative beneath => ?_
  refine holds_bind (self.quiet_resolve _) fun userDataRoot _ => ?_
  refine holds_bind (quiet_relativeTo runtimeDirectory userDataRoot) fun userRelative _ => ?_
  refine holds_bind (self.quiet_dockerRoot _ _) fun dockerRomRoot docker => ?_
  refine holds_bind (self.quiet_dockerRoot _ _) fun dockerUserDataRoot _ => ?_
  refine holds_bind (self.quiet_saveMounts _) fun saves mounted => ?_
  refine holds_bind (holds_ofExcept _ fun env accepted => accepted) fun env accepted => ?_
  obtain ⟨inside, rfl⟩ := beneath
  exact holds_pure ⟨romRoot, dockerRomRoot, dockerUserDataRoot, userRelative, saves, env,
    romResolves, inside, docker, mounted, accepted, rfl⟩

/-! ## Creations -/

section Creation

variable {self} {request : CreateRuntimeRequest} {frame : Frame Host}
variable (quietly : ∀ before after, Quiet before after → frame.Keeps before after)
variable (creates : ∀ name payload, frame.Holds (self.createContainer name payload) fun _ => True)
variable (launches : ∀ name containerId,
  frame.Holds (self.launch request name containerId) fun _ => True)

include quietly creates

theorem holds_createOrFind (name : String) (payload : Payload) :
    frame.Holds (self.createOrFind request name payload) fun _ => True := by
  refine holds_tryCatch (holds_map (creates name payload) fun _ _ => trivial) fun error => ?_
  refine holds_ite (fun _ => ?_) fun _ => holds_throw error
  refine holds_bind ((self.quiet_inspectContainer _).imply quietly) fun existing _ => ?_
  exact holds_map ((self.quiet_existingRecord existing request error).imply quietly)
    fun _ _ => trivial

include launches

theorem holds_createFresh (romPath : PurePath.Resolved) (name : String) :
    frame.Holds (self.createFresh request romPath name) fun _ => True := by
  refine holds_bind (self.quiet_listManagedRuntimes.imply quietly) fun managed _ => ?_
  refine holds_bind holds_raiseIf fun _ _ => ?_
  refine holds_bind ((self.quiet_claimPersistence _).imply quietly) fun saves _ => ?_
  refine holds_bind ((self.quiet_runtimeDirectory _).imply quietly) fun directory _ => ?_
  refine holds_bind ((self.quiet_writeRuntimeSpec _ _).imply quietly) fun _ _ => ?_
  refine holds_bind ((self.quiet_payload _ _ _ _ _ _).imply quietly) fun payload _ => ?_
  refine holds_bind (holds_createOrFind quietly creates name payload) fun created _ => ?_
  cases created with
  | inl containerId => exact launches name containerId
  | inr record => exact holds_pure trivial

/-- A frame that quiet programs, `create_container` and the launch keep is kept by a
creation. -/
theorem holds_createRuntime : frame.Holds (self.createRuntime request) fun _ => True := by
  refine holds_bind ((self.quiet_validateRequest request).imply quietly) fun romPath _ => ?_
  refine holds_bind ((self.quiet_existingContainer _).imply quietly) fun existing _ => ?_
  cases existing with
  | some container =>
      exact ((self.quiet_existingRecord container request _).imply quietly).weaken
        fun _ _ => trivial
  | none => exact holds_createFresh quietly creates launches romPath _

end Creation

end RuntimeService

end RetroBrowser.RuntimeAgent
