import RetroBrowser.Foundation.Digits
import RetroBrowser.Foundation.Json
import RetroBrowser.Foundation.Sha2
import RetroBrowser.RuntimeAgent.Host

/-!
Owns the Runtime Agent's service as programs over the host: the checks of a
request, the runtime specification, the container payload and the operations
create, inspect, stop, remove, list, reconcile and capacity, each with its calls
in the order of the source and its error paths.

The lifecycle lock makes create and remove operations that follow one another.
-/

namespace RetroBrowser.RuntimeAgent

open RetroBrowser.Foundation

def participantLabel : String := "io.retrobrowser.participant-id"
def sessionLabel : String := "io.retrobrowser.session-id"
def fingerprintLabel : String := "io.retrobrowser.runtime-request-sha256"
def subfolderLabel : String := "io.retrobrowser.stream-subfolder"
def saveKeyLabel : String := "io.retrobrowser.save-key"

/-- The hashes and character tables of the standard library. -/
structure Library where
  sha256 : List UInt8 → Digest
  hmacSha256 : List UInt8 → List UInt8 → Digest
  tables : PythonText.CharacterTables

/-- The hashes as they are. -/
def Library.standard (tables : PythonText.CharacterTables) : Library :=
  ⟨Sha2.sha256, Sha2.hmacSha256, tables⟩

/-- `text.encode()`. -/
def encode (text : String) : List UInt8 := text.toUTF8.toList

/-- The service: its configuration, the standard library and the dependencies of
the current operation. -/
structure RuntimeService where
  config : AgentConfig
  library : Library
  dependencies : Dependencies

/-- `container_name`. -/
def containerName (participantId : UUID) : String :=
  "retrobrowser-runtime-" ++ UUID.hex participantId

namespace RuntimeService

variable (self : RuntimeService)

/-! ## Calls -/

def createContainer (name : String) (payload : Payload) : AgentProgram String :=
  self.dependencies.invoke (.createContainer name payload)

def startContainer (containerId : String) : AgentProgram Unit :=
  self.dependencies.invoke (.startContainer containerId)

def inspectContainer (reference : Reference) : AgentProgram ContainerRecord :=
  self.dependencies.invoke (.inspectContainer reference)

def stopContainer (containerId : String) : AgentProgram Unit :=
  self.dependencies.invoke (.stopContainer containerId)

def removeContainer (containerId : String) : AgentProgram Unit :=
  self.dependencies.invoke (.removeContainer containerId)

def listManagedContainers : AgentProgram (List ContainerRecord) :=
  self.dependencies.invoke .listManagedContainers

def resolve (path : PurePath.Text) : AgentProgram PurePath.Resolved :=
  self.dependencies.invoke (.resolve path)

def chmod (path : PurePath.Text) (mode : Nat) : AgentProgram Unit :=
  self.dependencies.invoke (.changeMode path mode)

/-- `_assign_runtime_owner`. -/
def assignRuntimeOwner (path : PurePath.Text) : AgentProgram Unit :=
  self.dependencies.invoke (.changeOwner path)

/-! ## Routes and metrics targets -/

/-- A temporary file that then replaces the participant's file. -/
def publish (registry : Registry) (participantId : UUID) (document : Document) :
    AgentProgram Unit := do
  self.dependencies.invoke (.write registry participantId document)
  self.dependencies.invoke (.replace registry participantId)

/-- The identifiers that the file names of a registry stand for. -/
def listParticipants (registry : Registry) : AgentProgram (List UUID) := do
  let names ← self.dependencies.invoke (.glob registry)
  pure (names.filterMap UUID.parse).dedup

/-- The document of `FileRouteProvider.publish`. -/
def route (participantId : UUID) (subfolder containerName : String) : Route :=
  let pathRule := s!"PathPrefix(`{subfolder}`)"
  { key := s!"runtime-{UUID.str participantId}"
    entryPoints := ["web"]
    rule :=
      match self.config.routeHost with
      | some host => if host.isEmpty then pathRule else s!"Host(`{host}`) && {pathRule}"
      | none => pathRule
    middlewares := ["runtime-response-headers"]
    responseHeaders := [("Referrer-Policy", "no-referrer"), ("X-Robots-Tag", "noindex, nofollow")]
    contentTypeNosniff := true
    passHostHeader := true
    healthPath := s!"{subfolder}/api/health"
    healthInterval := "5s"
    healthTimeout := "2s"
    url := s!"http://{containerName}:8080" }

def routesPublish (participantId : UUID) (subfolder containerName : String) : AgentProgram Unit :=
  self.publish .routes participantId (.route (self.route participantId subfolder containerName))

def routesRemove (participantId : UUID) : AgentProgram Unit :=
  self.dependencies.invoke (.unlink .routes participantId)

def routesExists (participantId : UUID) : AgentProgram Bool :=
  self.dependencies.invoke (.isPublished .routes participantId)

def routesListParticipants : AgentProgram (List UUID) := self.listParticipants .routes

/-- The document of `MetricsTargetProvider.publish`. -/
def metricsTarget (participantId sessionId : UUID) (coreProfile containerName : String)
    (metricsToken : String) : MetricsTarget where
  targets := [s!"{containerName}:9091"]
  labels := [("job", "selkies"), ("session_id", UUID.str sessionId),
    ("participant_id", UUID.str participantId), ("core_profile", coreProfile),
    ("__metrics_path__", "/metrics"), ("__param_token", metricsToken)]

/-- Without a root directory nothing is published. -/
def metricsPublish (participantId sessionId : UUID) (coreProfile containerName : String)
    (metricsToken : String) : AgentProgram Unit :=
  if self.config.metricsTargetRoot.isNone then pure ()
  else self.publish .targets participantId
    (.target (metricsTarget participantId sessionId coreProfile containerName metricsToken))

def metricsRemove (participantId : UUID) : AgentProgram Unit :=
  if self.config.metricsTargetRoot.isNone then pure ()
  else self.dependencies.invoke (.unlink .targets participantId)

def metricsListParticipants : AgentProgram (List UUID) :=
  if self.config.metricsTargetRoot.isNone then pure [] else self.listParticipants .targets

/-! ## Checks of a request -/

/-- `resolve_existing_file_beneath`. -/
def resolveExistingFileBeneath (candidate root : String) : AgentProgram PurePath.Resolved := do
  let resolvedRoot ← self.resolve root.toList
  let resolvedCandidate ← self.resolve candidate.toList
  let regular ← self.dependencies.invoke (.isFile resolvedCandidate.str)
  Program.raiseIf (regular = false) (.value "ROM path is not a regular file")
  Program.raiseIf (resolvedCandidate.isRelativeTo resolvedRoot = false)
    (.value "ROM path escapes the approved ROM root")
  pure resolvedCandidate

/-- `sha256_file`. -/
def sha256File (path : PurePath.Resolved) : AgentProgram String := do
  let content ← self.dependencies.invoke (.read path.str)
  pure (self.library.sha256 content).hexdigest

/-- `_validate_request`. -/
def validateRequest (request : CreateRuntimeRequest) : AgentProgram PurePath.Resolved := do
  let requestedNetworks := [request.streamNetwork, request.netplayNetwork]
  Program.raiseIf (request.image ≠ self.config.approvedImage)
    (.value "image is not the approved digest-qualified runtime image")
  Program.raiseIf (¬requestedNetworks ⊆ self.config.approvedNetworks)
    (.value "runtime requested a network outside the allowlist")
  Program.raiseIf ("host" ∈ requestedNetworks) (.value "host networking is forbidden")
  Program.raiseIf (request.gpuProfile ∉ self.config.gpuProfiles)
    (.value "GPU profile is not approved")
  let romPath ← self.resolveExistingFileBeneath request.romPath self.config.romRoot
  let digest ← self.sha256File romPath
  Program.raiseIf (digest ≠ request.romSha256) (.value "ROM SHA-256 does not match")
  pure romPath

/-- `request.netplay.model_dump(mode="json")`. -/
def netplayDump (netplay : NetplayRequest) : Json :=
  .object [("role", .string netplay.role.text),
    ("host", match netplay.host with
      | some host => .string host
      | none => .null),
    ("port", .number netplay.port)]

/-- `_fingerprint`. -/
def fingerprint (request : CreateRuntimeRequest) : String :=
  let data := Json.object [
    ("schema_version", .number 1),
    ("session_id", .string (UUID.str request.sessionId)),
    ("participant_id", .string (UUID.str request.participantId)),
    ("user_id", .string request.userId),
    ("player_name", .string request.playerName),
    ("image", .string request.image),
    ("rom_path", .string request.romPath),
    ("rom_sha256", .string request.romSha256),
    ("core_profile", .string request.coreProfile),
    ("netplay", netplayDump request.netplay),
    ("stream_subfolder", .string request.streamSubfolder),
    ("stream_network", .string request.streamNetwork),
    ("netplay_network", .string request.netplayNetwork),
    ("gpu_profile", .string request.gpuProfile.text),
    ("selkies_master_token_sha256",
      .string (self.library.sha256 (encode request.selkiesMasterToken)).hexdigest)]
  (self.library.sha256 (encode (String.ofList data.dumpsSorted))).hexdigest

/-- `_metrics_token`. -/
def metricsToken (request : CreateRuntimeRequest) : String :=
  (self.library.hmacSha256 (encode request.selkiesMasterToken)
    (encode "retrobrowser-metrics-proxy-v1")).hexdigest

/-! ## Directories -/

/-- The text of a digest is a proper name. -/
theorem proper_hexdigest (digest : Digest) : PurePath.Proper '/' digest.hexdigest.toList := by
  have whole : digest.hexdigest.toList = hexText 64 digest.toNat := String.toList_ofList
  rw [whole]
  have long : (hexText 64 digest.toNat).length = 64 := hexText_length 64 _
  refine ⟨fun empty => by simp [empty] at long, fun dot => by simp [dot] at long,
    fun slash => ?_⟩
  obtain ⟨value, small, same⟩ := mem_hexText slash
  revert value
  decide

/-- The mode of a user-data directory or file: the owner's alone where the agent
manages permissions, else the wider one; none where directories are provisioned. -/
def giveMode (path : PurePath.Text) (own shared : Nat) : AgentProgram Unit :=
  if self.config.preprovisionedUserData = false ∧ self.config.manageUserDataPermissions then
    self.chmod path own
  else Program.runIf (self.config.preprovisionedUserData = false) (self.chmod path shared)

def givePermissions (path : PurePath.Text) (own shared : Nat) : AgentProgram Unit := do
  self.giveMode path own shared
  Program.runIf
    (self.config.preprovisionedUserData = false ∧ self.config.manageUserDataPermissions)
    (self.assignRuntimeOwner path)

/-- `_runtime_directory`. -/
def runtimeDirectory (participantId : UUID) : AgentProgram PurePath.Resolved := do
  let root ← self.resolve self.config.userDataRoot.toList
  let directory := root.child (UUID.str participantId).toList (UUID.proper_str participantId)
  Program.runIf self.config.preprovisionedUserData do
    let provisioned ← self.dependencies.invoke (.isDirectory directory.str)
    Program.raiseIf (provisioned = false)
      (.value "participant user-data directory was not pre-provisioned")
  let directoryMode := if self.config.manageUserDataPermissions then 0o700 else 0o777
  self.dependencies.invoke (.makeDirectory directory.str directoryMode)
  let resolved ← self.resolve directory.str
  Program.raiseIf (resolved.isRelativeTo root = false)
    (.value "generated user-data path escaped the approved root")
  self.givePermissions resolved.str 0o700 0o755
  pure resolved

/-- What is hashed for the save key. -/
def persistenceMaterial (request : CreateRuntimeRequest) : String :=
  "\x00".intercalate ["retrobrowser-save-v1", request.userId, request.coreProfile,
    request.romSha256]

/-- `_persistence_key`. -/
def persistenceKey (request : CreateRuntimeRequest) : Option Digest :=
  if request.netplay.role ≠ .host then none
  else some (self.library.sha256 (encode (persistenceMaterial request)))

/-- The permissions of a save directory. -/
def openSaves (path : PurePath.Text) : AgentProgram Unit :=
  if self.config.manageUserDataPermissions then do
    self.chmod path 0o700
    self.assignRuntimeOwner path
  else self.chmod path 0o777

/-- `_persistence_directory`. -/
def persistenceDirectory (saveKey : Digest) : AgentProgram PurePath.Resolved := do
  match self.config.saveDataRoot with
  | none => throw (.value "persistent saves are not configured")
  | some saveDataRoot => do
    let root ← self.resolve saveDataRoot.toList
    let romRoot ← self.resolve self.config.romRoot.toList
    Program.raiseIf (root = romRoot ∨ root.isRelativeTo romRoot = true ∨
        romRoot.isRelativeTo root = true)
      (.value "save-data root must not overlap the read-only ROM root")
    let directory := root.child saveKey.hexdigest.toList (proper_hexdigest saveKey)
    let directoryMode := if self.config.manageUserDataPermissions then 0o700 else 0o755
    self.dependencies.invoke (.makeDirectory directory.str directoryMode)
    let resolved ← self.resolve directory.str
    Program.raiseIf (resolved.isRelativeTo root = false)
      (.value "generated save-data path escaped the approved root")
    self.openSaves resolved.str
    pure resolved

/-- `_require_available_persistence`. -/
def requireAvailablePersistence (saveKey : Digest) : AgentProgram Unit := do
  let summaries ← self.listManagedContainers
  Program.raiseIf
    (∃ summary ∈ summaries, summary.labels.lookup saveKeyLabel = some saveKey.hexdigest)
    (.conflict "persistent save is already mounted by another runtime")

/-- `_docker_path`. -/
def dockerPath (root : PurePath.Text) (relative : List PurePath.Text) : PurePath.Text :=
  if '\\' ∈ root ∨ PurePath.Windows.drive root ≠ [] then PurePath.Windows.joined root relative
  else PurePath.Posix.joined root relative

/-! ## Specification and payload -/

/-- `container_rom` for a suffix. -/
def containerRom (suffix : PurePath.Text) : String :=
  "/run/roms/game" ++ String.ofList (self.library.tables.lower suffix)

/-- The document of `_write_runtime_spec`. -/
def specification (request : CreateRuntimeRequest) : Json :=
  .object [
    ("schema_version", .number 1),
    ("session_id", .string (UUID.str request.sessionId)),
    ("participant_id", .string (UUID.str request.participantId)),
    ("user_id", .string request.userId),
    ("player_name", .string request.playerName),
    ("game", .object [
      ("canonical_path",
        .string (self.containerRom (PurePath.Posix.suffix request.romPath.toList))),
      ("expected_sha256", .string request.romSha256)]),
    ("emulator", .object [("core_profile", .string request.coreProfile)]),
    ("netplay", netplayDump request.netplay),
    ("stream", .object [
      ("subfolder", .string request.streamSubfolder),
      ("display_profile", .string "hd-720p60")]),
    ("persistence", .object [
      ("save_mode", .string
        (if self.config.saveDataRoot.isSome ∧ request.netplay.role = .host then
          "host-authoritative" else "ephemeral"))])]

/-- The text of the specification file. -/
def specText (request : CreateRuntimeRequest) : List Char :=
  (self.specification request).dumpsSorted ++ ['\n']

/-- `_write_runtime_spec`. -/
def writeRuntimeSpec (request : CreateRuntimeRequest) (directory : PurePath.Resolved) :
    AgentProgram Unit := do
  let destination := directory.str ++ "/runtime-spec.json".toList
  let temporary := directory.str ++ "/.runtime-spec.json.tmp".toList
  self.dependencies.invoke (.writeText temporary (self.specText request))
  self.dependencies.invoke (.replaceText temporary destination)
  self.givePermissions destination 0o600 0o644

/-- `str(value).lower()` of a boolean. -/
def flag (value : Bool) : String := if value then "true" else "false"

/-- `_webrtc_environment`. -/
def webrtcEnvironment (request : CreateRuntimeRequest) : Except Error (List String) :=
  if self.config.selkiesMode ≠ .webrtc then .ok []
  else
    match self.config.turnRestUri, self.config.turnRestApiKey, self.config.stunHost with
    | some turnRestUri, some turnRestApiKey, some stunHost =>
      .ok [
        s!"SELKIES_TURN_REST_URI={turnRestUri}",
        s!"SELKIES_TURN_REST_API_KEY={turnRestApiKey}",
        s!"SELKIES_TURN_REST_USERNAME={self.config.turnRestUsername}-{UUID.hex
          request.participantId}",
        s!"SELKIES_TURN_PROTOCOL={self.config.turnProtocol.text}",
        s!"SELKIES_TURN_TLS={flag self.config.turnTls}",
        s!"SELKIES_STUN_HOST={stunHost}",
        s!"SELKIES_STUN_PORT={self.config.stunPort}",
        "SELKIES_ENABLE_WEBRTC_STATISTICS=true",
        "SELKIES_WEBRTC_STATISTICS_DIR=/tmp"]
    | _, _, _ => .error (.value "WebRTC configuration is incomplete")

/-- `_environment`. -/
def environment (request : CreateRuntimeRequest) : Except Error (List String) := do
  let useCpu := flag (request.gpuProfile = .cpu)
  let fixed := [
    "START_LXQT=false",
    s!"SELKIES_ALLOWED_ORIGINS={self.config.allowedOrigins}",
    "SELKIES_ENABLE_HTTPS=false",
    "SELKIES_ENABLE_BASIC_AUTH=false",
    s!"SELKIES_MODE={self.config.selkiesMode.text}",
    "SELKIES_ENABLE_DUAL_MODE=false",
    "SELKIES_ENCODER=h264enc",
    s!"SELKIES_USE_CPU={useCpu}",
    "SELKIES_AUTO_GPU=false",
    "SELKIES_FRAMERATE=60-60",
    "SELKIES_MANUAL_RESOLUTION=true",
    "SELKIES_MANUAL_WIDTH=1280",
    "SELKIES_MANUAL_HEIGHT=720",
    "SELKIES_ENABLE_RESIZE=false",
    "SELKIES_USE_CSS_SCALING=true|locked",
    "SELKIES_SECOND_SCREEN=false",
    "SELKIES_AUDIO_ENABLED=true",
    "SELKIES_MICROPHONE_ENABLED=false",
    "SELKIES_GAMEPAD_ENABLED=true",
    "SELKIES_UINPUT_GAMEPAD=false",
    "SELKIES_WEBCAM_ENABLED=false",
    "SELKIES_WEBCAM_DEVICE=false",
    "SELKIES_WEBCAM_PIPEWIRE=false",
    "SELKIES_ENABLE_CLIPBOARD=false",
    "SELKIES_ENABLE_BINARY_CLIPBOARD=false",
    "SELKIES_COMMAND_ENABLED=false",
    "SELKIES_FILE_TRANSFERS=none",
    "SELKIES_ENABLE_SHARING=false",
    "SELKIES_ENABLE_COLLAB=false",
    "SELKIES_UI_SIDEBAR_SHOW_CLIPBOARD=false",
    "SELKIES_UI_SIDEBAR_SHOW_FILES=false",
    "SELKIES_UI_SIDEBAR_SHOW_SHARING=false",
    "SELKIES_UI_SIDEBAR_SHOW_WEBCAM=false",
    "SELKIES_ENABLE_INTERNAL_TURN=false",
    s!"SELKIES_MASTER_TOKEN={request.selkiesMasterToken}",
    s!"SELKIES_SUBFOLDER={request.streamSubfolder}"]
  let metrics :=
    if self.config.metricsTargetRoot.isSome then
      ["SELKIES_ENABLE_METRICS_HTTP=true",
        s!"RETROBROWSER_METRICS_TOKEN={self.metricsToken request}"]
    else []
  let webrtc ← self.webrtcEnvironment request
  pure (fixed ++ metrics ++ webrtc)

/-- The labels of a payload. -/
def payloadLabels (request : CreateRuntimeRequest) (fingerprint : String)
    (saveKey : Option Digest) : Labels :=
  [(managedLabel, "true"), (participantLabel, UUID.str request.participantId),
    (sessionLabel, UUID.str request.sessionId), (fingerprintLabel, fingerprint),
    (subfolderLabel, request.streamSubfolder)] ++
    match saveKey with
    | some key => [(saveKeyLabel, key.hexdigest)]
    | none => []

/-- The health check's commands. -/
def healthCommand (request : CreateRuntimeRequest) : String :=
  let healthUrl := s!"http://127.0.0.1:8080{request.streamSubfolder}/api/health"
  let hosting := request.netplay.role = .host
  let netplayState := if hosting then "0A" else "01"
  let netplayColumn := if hosting then "1" else "2"
  let netplayPort := String.ofList
    ((digits 16 4 request.netplay.port).map fun digit => (Nat.digitChar digit).toUpper)
  let netplayProbe := "import pathlib,sys;" ++ s!"p='{netplayPort}';s='{netplayState}';" ++
    "rows=sum((pathlib.Path(f'/proc/net/\x7bn\x7d').read_text().splitlines()[1:] " ++
    "for n in ('tcp','tcp6')),[]);" ++
    s!"sys.exit(0 if any((c:=r.split())[{netplayColumn}].endswith(':'+p) " ++
    "and c[3]==s for r in rows) else 1)"
  "pgrep -x retroarch >/dev/null && " ++ "python3 -c \"import urllib.request; " ++
    s!"urllib.request.urlopen('{healthUrl}', timeout=2)\" && " ++ s!"python3 -c \"{netplayProbe}\""

/-- `configured or str(root.resolve(strict=True))`: an empty text counts as unset. -/
def dockerRoot (configured : Option String) (root : String) : AgentProgram PurePath.Text := do
  match configured with
  | some text =>
    if text.isEmpty then do
      let resolved ← self.resolve root.toList
      pure resolved.str
    else pure text.toList
  | none => do
    let resolved ← self.resolve root.toList
    pure resolved.str

/-- `path.relative_to(root)`. -/
def relativeTo (path root : PurePath.Resolved) : AgentProgram (List PurePath.Text) :=
  if path.isRelativeTo root then pure (path.relativeTo root)
  else throw (.value "path is not in the subpath of the root")

/-- The writable mount of a save directory. -/
def saveMounts (persistenceDirectory : Option PurePath.Resolved) : AgentProgram (List Mount) := do
  match persistenceDirectory with
  | none => pure []
  | some directory =>
    match self.config.saveDataRoot with
    | none => throw (.value "persistent saves are not configured")
    | some saveDataRoot => do
      let resolvedSaveRoot ← self.resolve saveDataRoot.toList
      let saveRelative ← relativeTo directory resolvedSaveRoot
      let dockerSaveDataRoot := match self.config.dockerSaveDataRoot with
        | some text => if text.isEmpty then resolvedSaveRoot.str else text.toList
        | none => resolvedSaveRoot.str
      pure [{ source := String.ofList (dockerPath dockerSaveDataRoot saveRelative)
              target := "/run/retro-saves"
              readOnly := false }]

/-- The document that `_payload` returns, for its environment, labels and mounts. -/
def payloadDocument (request : CreateRuntimeRequest) (env : List String) (labels : Labels)
    (mounts : List Mount) : Payload where
  image := request.image
  env := env
  labels := labels
  exposedPorts := ["8080/tcp", s!"{request.netplay.port}/tcp"]
  healthcheck :=
    { test := ["CMD-SHELL", healthCommand request]
      interval := 5000000000
      timeout := 3000000000
      retries := 3
      startPeriod := 45000000000 }
  hostConfig :=
    { mounts := mounts
      networkMode := request.streamNetwork
      memory := self.config.memoryBytes
      nanoCpus := self.config.nanoCpus
      pidsLimit := self.config.pidsLimit
      shmSize := 2 * 1024 ^ 3
      init := true
      capDrop := ["ALL"]
      securityOpt := ["no-new-privileges:true"]
      privileged := false
      deviceRequests :=
        if request.gpuProfile = .nvidia then
          [{ driver := "nvidia"
             count := -1
             capabilities := [["gpu", "utility", "video"]] }]
        else [] }
  networks := [request.streamNetwork, request.netplayNetwork]

/-- The read-only mount of the ROM. -/
def romMount (romPath : PurePath.Resolved) (dockerRomRoot : PurePath.Text)
    (romRelative : List PurePath.Text) : Mount where
  source := String.ofList (dockerPath dockerRomRoot romRelative)
  target := self.containerRom romPath.suffix
  readOnly := true

/-- The writable mount of the participant's directory. -/
def userDataMount (dockerUserDataRoot : PurePath.Text) (userDataRelative : List PurePath.Text) :
    Mount where
  source := String.ofList (dockerPath dockerUserDataRoot userDataRelative)
  target := "/run/retro-session"
  readOnly := false

/-- `_payload`. -/
def payload (request : CreateRuntimeRequest) (romPath runtimeDirectory : PurePath.Resolved)
    (fingerprint : String) (persistenceDirectory : Option PurePath.Resolved)
    (saveKey : Option Digest) : AgentProgram Payload := do
  let romRoot ← self.resolve self.config.romRoot.toList
  let romRelative ← relativeTo romPath romRoot
  let userDataRoot ← self.resolve self.config.userDataRoot.toList
  let userDataRelative ← relativeTo runtimeDirectory userDataRoot
  let dockerRomRoot ← self.dockerRoot self.config.dockerRomRoot self.config.romRoot
  let dockerUserDataRoot ← self.dockerRoot self.config.dockerUserDataRoot self.config.userDataRoot
  let saves ← self.saveMounts persistenceDirectory
  let env ← Program.ofExcept (self.environment request)
  pure (self.payloadDocument request env (payloadLabels request fingerprint saveKey)
    ([self.romMount romPath dockerRomRoot romRelative,
      userDataMount dockerUserDataRoot userDataRelative] ++ saves))

/-! ## Operations -/

/-- `_require_owned`. -/
def requireOwned (record : ContainerRecord) (participantId : UUID) : AgentProgram Unit := do
  Program.raiseIf (record.labels.lookup managedLabel ≠ some "true")
    (.ownership "container is not owned by Runtime Agent")
  Program.raiseIf (record.labels.lookup participantLabel ≠ some (UUID.str participantId))
    (.ownership "container ownership labels do not match the runtime ID")

/-- `_record`. -/
def runtimeRecord (container : ContainerRecord) (participantId : UUID) :
    AgentProgram RuntimeRecord := do
  let routed ← self.routesExists participantId
  pure
    { participantId := participantId
      containerId := container.containerId
      containerName := container.name
      state := container.state
      healthStatus := container.healthStatus
      streamSubfolder := (container.labels.lookup subfolderLabel).getD ""
      orphaned := !routed }

/-- `UUID(labels.get(PARTICIPANT_LABEL) or "")`. -/
def labelledParticipant (labels : Labels) : Option UUID :=
  UUID.parse ((labels.lookup participantLabel).getD "")

/-- The rounds of `list_managed_runtimes`. -/
def managedRuntimes : List ContainerRecord → AgentProgram (List RuntimeRecord)
  | [] => pure []
  | summary :: rest =>
    match labelledParticipant summary.labels with
    | none => managedRuntimes rest
    | some participantId => do
      let container ← self.inspectContainer (.byId summary.containerId)
      requireOwned container participantId
      let record ← self.runtimeRecord container participantId
      let records ← managedRuntimes rest
      pure (record :: records)

/-- `list_managed_runtimes`. -/
def listManagedRuntimes : AgentProgram (List RuntimeRecord) := do
  let summaries ← self.listManagedContainers
  self.managedRuntimes summaries

/-- The container of that name, if there is one. -/
def existingContainer (name : String) : AgentProgram (Option ContainerRecord) :=
  tryCatch (some <$> self.inspectContainer (.byName name)) fun error =>
    if error.isNotFound then pure none else throw error

/-- The record of a container that already answers the request. -/
def existingRecord (existing : ContainerRecord) (request : CreateRuntimeRequest)
    (mismatch : Error) : AgentProgram RuntimeRecord := do
  requireOwned existing request.participantId
  Program.raiseIf (existing.labels.lookup fingerprintLabel ≠ some (self.fingerprint request))
    mismatch
  self.runtimeRecord existing request.participantId

/-- What `except Exception` does after a failed start. -/
def cleanUp (participantId : UUID) (containerId : String) : AgentProgram Unit := do
  self.metricsRemove participantId
  tryCatch (self.routesRemove participantId) fun cleanupError =>
    if cleanupError.isOSError then pure () else throw cleanupError
  tryCatch (self.stopContainer containerId) fun cleanupError =>
    if cleanupError.isRuntimeAgentError then pure () else throw cleanupError
  tryCatch (self.removeContainer containerId) fun cleanupError =>
    if cleanupError.isRuntimeAgentError then pure () else throw cleanupError

/-- Start the container and publish its route and its metrics target. -/
def startAndPublish (request : CreateRuntimeRequest) (name containerId : String) :
    AgentProgram Unit := do
  self.startContainer containerId
  self.routesPublish request.participantId request.streamSubfolder name
  self.metricsPublish request.participantId request.sessionId request.coreProfile name
    (self.metricsToken request)

/-- A new container: started and published, or cleaned up. -/
def launch (request : CreateRuntimeRequest) (name containerId : String) :
    AgentProgram RuntimeRecord := do
  tryCatch (self.startAndPublish request name containerId) fun error => do
    self.cleanUp request.participantId containerId
    throw error
  let container ← self.inspectContainer (.byId containerId)
  self.runtimeRecord container request.participantId

/-- The save directory and its key, where saves are configured and the request is a host's. -/
def claimPersistence (saveKey : Option Digest) : AgentProgram (Option PurePath.Resolved) := do
  match saveKey with
  | none => pure none
  | some key => do
    self.requireAvailablePersistence key
    let directory ← self.persistenceDirectory key
    pure (some directory)

/-- `save_key`. -/
def saveKey (request : CreateRuntimeRequest) : Option Digest :=
  if self.config.saveDataRoot.isSome then self.persistenceKey request else none

/-- `create_container`, or the record of the container that has the name already. -/
def createOrFind (request : CreateRuntimeRequest) (name : String) (payload : Payload) :
    AgentProgram (String ⊕ RuntimeRecord) :=
  tryCatch (Sum.inl <$> self.createContainer name payload) fun error =>
    if error.isConflict then do
      let existing ← self.inspectContainer (.byName name)
      Sum.inr <$> self.existingRecord existing request error
    else throw error

/-- The part of `_create_runtime` for a name that no container has. -/
def createFresh (request : CreateRuntimeRequest) (romPath : PurePath.Resolved) (name : String) :
    AgentProgram RuntimeRecord := do
  let managed ← self.listManagedRuntimes
  Program.raiseIf (self.config.maxRuntimes ≤ managed.length)
    (.conflict "runtime capacity is exhausted")
  let persistenceDirectory ← self.claimPersistence (self.saveKey request)
  let runtimeDirectory ← self.runtimeDirectory request.participantId
  self.writeRuntimeSpec request runtimeDirectory
  let payload ← self.payload request romPath runtimeDirectory (self.fingerprint request)
    persistenceDirectory (self.saveKey request)
  let created ← self.createOrFind request name payload
  match created with
  | .inl containerId => self.launch request name containerId
  | .inr record => pure record

/-- `_create_runtime`. -/
def createRuntime (request : CreateRuntimeRequest) : AgentProgram RuntimeRecord := do
  let romPath ← self.validateRequest request
  let name := containerName request.participantId
  let existing ← self.existingContainer name
  match existing with
  | some container =>
    self.existingRecord container request
      (.conflict "runtime ID already exists with a different request")
  | none => self.createFresh request romPath name

/-- `inspect_runtime`. -/
def inspectRuntime (participantId : UUID) : AgentProgram RuntimeRecord := do
  let container ← self.inspectContainer (.byName (containerName participantId))
  requireOwned container participantId
  self.runtimeRecord container participantId

/-- `stop_runtime`. -/
def stopRuntime (participantId : UUID) : AgentProgram RuntimeRecord := do
  let container ← self.inspectContainer (.byName (containerName participantId))
  requireOwned container participantId
  self.stopContainer container.containerId
  let stopped ← self.inspectContainer (.byId container.containerId)
  self.runtimeRecord stopped participantId

/-- Remove the route, then the metrics target. -/
def unpublish (participantId : UUID) : AgentProgram Unit := do
  self.routesRemove participantId
  self.metricsRemove participantId

/-- `_remove_runtime`. -/
def removeRuntime (participantId : UUID) : AgentProgram Unit := do
  let container ← tryCatch (self.inspectContainer (.byName (containerName participantId)))
    fun error => do
      Program.runIf error.isNotFound (self.unpublish participantId)
      throw error
  requireOwned container participantId
  Program.runIf (container.state = .running) (self.stopContainer container.containerId)
  self.removeContainer container.containerId
  self.unpublish participantId

/-- `reconcile_routes`. A set is a list without repetitions, in the order of the directory. -/
def reconcileRoutes : AgentProgram Nat := do
  let records ← self.listManagedRuntimes
  let managed := records.map fun record => record.participantId
  let routed ← self.routesListParticipants
  let orphaned := routed.filter fun participantId => participantId ∉ managed
  orphaned.forM self.routesRemove
  let targeted ← self.metricsListParticipants
  let orphanedTargets := targeted.filter fun participantId => participantId ∉ managed
  orphanedTargets.forM self.metricsRemove
  pure (orphaned ∪ orphanedTargets).length

/-- `capacity`. -/
def capacity : AgentProgram RuntimeCapacity := do
  let records ← self.listManagedRuntimes
  pure
    { maximum := self.config.maxRuntimes
      used := records.length
      available := self.config.maxRuntimes - records.length }

end RuntimeService

end RetroBrowser.RuntimeAgent
