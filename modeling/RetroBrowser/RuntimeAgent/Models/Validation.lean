import RetroBrowser.Foundation.Validation
import RetroBrowser.RuntimeAgent.Models.Runtime

/-!
Owns how the request models read a JSON document: field by field, then the validators.

Contract: whatever document is accepted, the request made of it is valid; and a document with
all its fields is accepted just where the request made of it is valid.
-/

namespace RetroBrowser.RuntimeAgent

open RetroBrowser.Foundation Validation

def NetplayRole.literals : List (String × NetplayRole) :=
  [("standalone", .standalone), ("host", .host), ("client", .client)]

def GpuProfile.literals : List (String × GpuProfile) := [("cpu", .cpu), ("nvidia", .nvidia)]

namespace NetplayRequest

variable (tables : PythonText.CharacterTables)

/-- `validate_host`. -/
def validateHost (request : NetplayRequest) : Except String Unit :=
  if request.role = .client ∧ request.host = none then .error "client Netplay role requires host"
  else if request.role ≠ .client ∧ request.host ≠ none then
    .error "Netplay host is allowed only for a client"
  else if request.host.all (hostLabels tables) = false then
    .error "Netplay host must be an IPv4 address or DNS hostname"
  else .ok ()

/-- `NetplayRequest.model_validate`. -/
def modelValidate : Json → Validated NetplayRequest :=
  model ["role", "host", "port"]
    (fun members =>
      let made := Validated.apply (.ok NetplayRequest.mk)
        (field members "role" none (readLiteral NetplayRole.literals))
      let made := made.apply (field members "host" (some none)
        (readOptionalText (Pattern.lengthBetween 1 253) unchecked))
      made.apply (field members "port" none (readBounded 1024 65535)))
    (validateHost tables)

end NetplayRequest

/-- `validate_player_name`. -/
def validatePlayerName (value : String) : Except String Unit :=
  if plainName value then .ok ()
  else .error "player_name has surrounding whitespace or control characters"

namespace CreateRuntimeRequest

def fieldNames : List String :=
  ["schema_version", "session_id", "participant_id", "user_id", "player_name", "image", "rom_path",
    "rom_sha256", "core_profile", "netplay", "stream_subfolder", "stream_network",
    "netplay_network", "gpu_profile", "selkies_master_token"]

/-- `networks_must_differ`. -/
def networksMustDiffer (request : CreateRuntimeRequest) : Except String Unit :=
  if request.streamNetwork = request.netplayNetwork then
    .error "stream and Netplay networks must be distinct"
  else .ok ()

/-- `CreateRuntimeRequest.model_validate`. -/
def modelValidate (tables : PythonText.CharacterTables) : Json → Validated CreateRuntimeRequest :=
  model fieldNames
    (fun members =>
      let made := Validated.apply (.ok fun _ => CreateRuntimeRequest.mk)
        (field members "schema_version" none readOne)
      let made := made.apply (field members "session_id" none readUUID)
      let made := made.apply (field members "participant_id" none readUUID)
      let made := made.apply (field members "user_id" none (readText safeId))
      let made := made.apply (field members "player_name" none fun document =>
        readStr document >>= Validated.check (Pattern.lengthBetween 1 64) validatePlayerName)
      let made := made.apply (field members "image" none (readText (Pattern.lengthBetween 1 512)))
      let made := made.apply
        (field members "rom_path" none (readText (Pattern.lengthBetween 1 4096)))
      let made := made.apply (field members "rom_sha256" none (readText Pattern.sha256))
      let made := made.apply (field members "core_profile" none (readText coreProfileId))
      let made := made.apply (field members "netplay" none (NetplayRequest.modelValidate tables))
      let made := made.apply
        (field members "stream_subfolder" none (readText RuntimeAgent.streamSubfolder))
      let made := made.apply (field members "stream_network" none (readText networkName))
      let made := made.apply (field members "netplay_network" none (readText networkName))
      let made := made.apply (field members "gpu_profile" none (readLiteral GpuProfile.literals))
      made.apply
        (field members "selkies_master_token" none (readText (Pattern.lengthBetween 32 512))))
    networksMustDiffer

end CreateRuntimeRequest

/-! ## What is accepted is valid -/

theorem validatePlayerName_ok {value : String} :
    validatePlayerName value = .ok () ↔ plainName value = true := by
  unfold validatePlayerName
  cases plainName value <;> simp

theorem CreateRuntimeRequest.networksMustDiffer_ok {request : CreateRuntimeRequest} :
    request.networksMustDiffer = .ok () ↔
      (request.streamNetwork != request.netplayNetwork) = true := by
  unfold networksMustDiffer
  by_cases same : request.streamNetwork = request.netplayNetwork <;> simp [same]

section Accepted

variable {tables : PythonText.CharacterTables}

/-- The constraints of the fields and the validator are what makes a request valid. -/
theorem NetplayRequest.valid_iff {request : NetplayRequest} : request.valid tables = true ↔
    request.host.all (Pattern.lengthBetween 1 253) = true ∧
      (1024 ≤ request.port && request.port ≤ 65535) = true ∧
      request.validateHost tables = .ok () := by
  unfold NetplayRequest.valid validateHost
  cases request.host with
  | none => cases request.role <;> simp
  | some host =>
      cases request.role <;> cases hostLabels tables host <;>
        simp [and_comm, and_assoc, and_left_comm]

theorem NetplayRequest.valid_of_modelValidate {document : Json} {request : NetplayRequest}
    (accepted : NetplayRequest.modelValidate tables document = .ok request) :
    request.valid tables = true := by
  obtain ⟨members, _, _, made, checked⟩ := model_eq_ok.mp accepted
  simp only [Validated.apply_ok_iff, Validated.map_apply, Validated.map_ok, Except.ok.injEq]
    at made
  obtain ⟨port, readPort, host, readHost, role, _, same⟩ := made
  subst same
  have long : host.all (Pattern.lengthBetween 1 253) = true := by
    cases field_eq_ok.mp readHost with
    | inl there =>
        obtain ⟨_, _, read⟩ := there
        exact (readOptionalText_ok read).1
    | inr missing =>
        cases missing.2
        rfl
  have bounded : (1024 ≤ port && port ≤ 65535) = true := by
    obtain ⟨_, _, read⟩ := field_required readPort
    exact (readBounded_eq_ok.mp read).2
  exact NetplayRequest.valid_iff.mpr ⟨long, bounded, checked⟩

/-- Whatever document is accepted, the request is valid. -/
theorem CreateRuntimeRequest.valid_of_modelValidate {document : Json}
    {request : CreateRuntimeRequest}
    (accepted : CreateRuntimeRequest.modelValidate tables document = .ok request) :
    request.valid tables = true := by
  obtain ⟨members, _, _, made, checked⟩ := model_eq_ok.mp accepted
  simp only [Validated.apply_ok_iff, Validated.map_apply, Validated.map_ok, Except.ok.injEq]
    at made
  obtain ⟨token, readToken, gpu, _, netplayNetwork, readNetplayNetwork, streamNetwork,
    readStreamNetwork, subfolder, readSubfolder, netplay, readNetplay, profile, readProfile, digest,
    readDigest, path, readPath, image, readImage, player, readPlayer, user,
    readUser, participant, _, session, _, _, _, same⟩ := made
  subst same
  have named : Pattern.lengthBetween 1 64 player = true ∧ plainName player = true := by
    obtain ⟨_, _, read⟩ := field_required readPlayer
    obtain ⟨_, _, checked⟩ := bind_eq_ok.mp read
    obtain ⟨long, plain, same⟩ := Validated.check_eq_ok.mp checked
    subst same
    exact ⟨long, validatePlayerName_ok.mp plain⟩
  have connected : netplay.valid tables = true := by
    obtain ⟨_, _, read⟩ := field_required readNetplay
    exact NetplayRequest.valid_of_modelValidate read
  have distinct := CreateRuntimeRequest.networksMustDiffer_ok.mp checked
  simp only [CreateRuntimeRequest.valid, Bool.and_eq_true, and_assoc]
  exact ⟨field_text readUser, named.1, named.2, field_text readImage, field_text readPath,
    field_text readDigest, field_text readProfile, connected, field_text readSubfolder,
    field_text readStreamNetwork, field_text readNetplayNetwork, field_text readToken, distinct⟩

end Accepted

/-! ## Documents with all their fields -/

section Documents

variable {tables : PythonText.CharacterTables} {members : List (String × Json)}

theorem NetplayRequest.modelValidate_object {request made : NetplayRequest} {text : String}
    (known : ∀ member ∈ members, member.1 ∈ ["role", "host", "port"])
    (role : members.lookup "role" = some (.string text))
    (literal : NetplayRole.literals.lookup text = some made.role)
    (host : members.lookup "host" = some (optionalDocument made.host))
    (port : members.lookup "port" = some (.number made.port)) :
    NetplayRequest.modelValidate tables (.object members) = .ok request ↔
      request = made ∧ request.valid tables = true := by
  simp only [NetplayRequest.modelValidate, model_eq_ok, Json.object.injEq, exists_eq_left',
    Validated.apply_ok_iff, Validated.map_apply, Validated.map_ok, field_there role,
    field_there host, field_there port, readLiteral, literal, readOptionalText,
    readOptional_document, readBounded_eq_ok, bind_eq_ok, Json.number.injEq, Nat.cast_inj,
    Validated.check_eq_ok, unchecked_eq, Except.ok.injEq, and_assoc, exists_and_left,
    true_and, NetplayRequest.valid_iff]
  constructor
  · rintro ⟨_, bounded, long, same, valid⟩
    subst same
    exact ⟨rfl, long, bounded, valid⟩
  · rintro ⟨same, long, bounded, valid⟩
    subst same
    exact ⟨known, bounded, long, rfl, valid⟩

/-- A document with all fields is accepted just where the request made of it is valid. -/
theorem CreateRuntimeRequest.modelValidate_object {request made : CreateRuntimeRequest}
    {sessionId participantId netplay : Json} {gpu : String}
    (known : ∀ member ∈ members, member.1 ∈ fieldNames)
    (schemaVersion : members.lookup "schema_version" = some (.number 1))
    (session : members.lookup "session_id" = some sessionId)
    (readSession : readUUID sessionId = .ok made.sessionId)
    (participant : members.lookup "participant_id" = some participantId)
    (readParticipant : readUUID participantId = .ok made.participantId)
    (userThere : members.lookup "user_id" = some (.string made.userId))
    (playerThere : members.lookup "player_name" = some (.string made.playerName))
    (imageThere : members.lookup "image" = some (.string made.image))
    (pathThere : members.lookup "rom_path" = some (.string made.romPath))
    (digestThere : members.lookup "rom_sha256" = some (.string made.romSha256))
    (profileThere : members.lookup "core_profile" = some (.string made.coreProfile))
    (netplayThere : members.lookup "netplay" = some netplay)
    (readNetplay : ∀ part, NetplayRequest.modelValidate tables netplay = .ok part ↔
      part = made.netplay ∧ part.valid tables = true)
    (subfolderThere : members.lookup "stream_subfolder" = some (.string made.streamSubfolder))
    (streamNetworkThere : members.lookup "stream_network" = some (.string made.streamNetwork))
    (netplayNetworkThere : members.lookup "netplay_network" = some (.string made.netplayNetwork))
    (gpuThere : members.lookup "gpu_profile" = some (.string gpu))
    (literal : GpuProfile.literals.lookup gpu = some made.gpuProfile)
    (tokenThere : members.lookup "selkies_master_token" = some (.string made.selkiesMasterToken)) :
    CreateRuntimeRequest.modelValidate tables (.object members) = .ok request ↔
      request = made ∧ request.valid tables = true := by
  simp only [CreateRuntimeRequest.modelValidate, model_eq_ok, Json.object.injEq, exists_eq_left',
    Validated.apply_ok_iff, Validated.map_apply, Validated.map_ok, field_there schemaVersion,
    field_there session, readSession, field_there participant, readParticipant,
    field_there userThere,
    field_there playerThere, field_there imageThere, field_there pathThere, field_there digestThere,
    field_there profileThere, field_there netplayThere, readNetplay, field_there subfolderThere,
    field_there streamNetworkThere, field_there netplayNetworkThere,
    field_there gpuThere, readLiteral,
    literal, field_there tokenThere, readOne_eq_ok, equalsOne_number, readText_eq_ok,
    readStr, bind_eq_ok,
    Validated.check_eq_ok, validatePlayerName_ok, networksMustDiffer_ok, Except.ok.injEq, and_assoc,
    exists_and_left, exists_eq_left, exists_const, true_and, CreateRuntimeRequest.valid,
    Bool.and_eq_true]
  constructor
  · rintro ⟨_, token, netplayNetwork, streamNetwork, subfolder, netplay, profile,
      digest, path, image, short, plain, user, same, distinct⟩
    subst same
    exact ⟨rfl, user, short, plain, image, path, digest, profile, netplay,
      subfolder, streamNetwork, netplayNetwork, token, distinct⟩
  · rintro ⟨same, user, short, plain, image, path, digest, profile, netplay,
      subfolder, streamNetwork, netplayNetwork, token, distinct⟩
    subst same
    exact ⟨known, token, netplayNetwork, streamNetwork, subfolder, netplay, profile, digest, path,
      image, short, plain, user, rfl, distinct⟩

end Documents

end RetroBrowser.RuntimeAgent
