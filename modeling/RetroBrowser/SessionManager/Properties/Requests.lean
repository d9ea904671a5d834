import RetroBrowser.Foundation.Hostname
import RetroBrowser.RuntimeAgent.Run
import RetroBrowser.SessionManager.Providers.Execution.Socket

/-!
Owns the handover of a creation request: what the adapter sends for a request of the service, and
what the agent reads in it.

Contract: both sides have models of their own. The agent bounds the image, the networks and the
profile, which the adapter's configuration does not, and it takes plain player names only.
-/

namespace RetroBrowser.SessionManager

open RetroBrowser.Foundation Validation
open RuntimeAgent (AgentFields.imagePattern CreateRuntimeRequest NetplayRequest plainName safeId
  coreProfileId networkName RuntimeRequestHandler.body)

/-- `^[a-zA-Z0-9][a-zA-Z0-9_.-]*$`. -/
def networkPattern (value : String) : Bool :=
  Pattern.leads Char.isAlphanum
    (fun character => character.isAlphanum || "_.-".toList.contains character) value.toList

/-- The constraints of the configuration's fields, and the check of the adapter's `__init__`. -/
def RuntimeAgentProviderConfig.valid (config : RuntimeAgentProviderConfig) : Bool :=
  AgentFields.imagePattern config.image && networkPattern config.streamNetwork &&
    networkPattern config.netplayNetwork &&
    (1024 ≤ config.netplayPort && config.netplayPort ≤ 65535) &&
    lengthBetween 32 512 config.orchestrationSecret && config.streamNetwork != config.netplayNetwork

/-- The agent's value for a profile. -/
def GpuProfile.asked : GpuProfile → RuntimeAgent.GpuProfile
  | .cpu => .cpu
  | .nvidia => .nvidia

/-- The agent's value for a role. -/
def Role.asked : Role → RuntimeAgent.NetplayRole
  | .host => .host
  | .client => .client

namespace LocalRuntimeAgentProvider

variable (provider : LocalRuntimeAgentProvider)

/-- What a request of the service asks the agent for. -/
def asked (request : RuntimeRequest) : CreateRuntimeRequest where
  sessionId := request.sessionId
  participantId := request.participantId
  userId := request.userId
  playerName := request.playerName
  image := provider.config.image
  romPath := request.romPath
  romSha256 := request.romSha256
  coreProfile := request.coreProfile
  netplay := ⟨request.role.asked, request.hostParticipantId.map containerName,
    provider.config.netplayPort⟩
  streamSubfolder := "/stream/" ++ UUID.hex request.participantId
  streamNetwork := provider.config.streamNetwork
  netplayNetwork := provider.config.netplayNetwork
  gpuProfile := provider.config.gpuProfile.asked
  selkiesMasterToken := provider.masterToken request.participantId

/-- What is known of a request before the adapter sends it. -/
structure Askable (request : RuntimeRequest) : Prop where
  config : provider.config.valid = true
  fields : request.valid = true
  host : request.hostParticipantId.isSome = true ↔ request.role = .client
  /-- A digest has 64 hexadecimal digits. -/
  digests : ∀ key message, Pattern.sha256 (provider.hmac key message) = true

/-- What the agent asks for beyond the models of the service. -/
structure Fits (request : RuntimeRequest) : Prop where
  image : provider.config.image.length ≤ 512
  streamNetwork : provider.config.streamNetwork.length ≤ 63
  netplayNetwork : provider.config.netplayNetwork.length ≤ 63
  coreProfile : request.coreProfile.length ≤ 64
  playerName : plainName request.playerName = true

end LocalRuntimeAgentProvider

/-! ## Texts that the adapter makes -/

section Texts

/-- What holds of the hexadecimal digits holds of an identifier's text. -/
theorem hex_all (accepts : Char → Bool)
    (each : ∀ digit < 16, accepts (Nat.digitChar digit) = true)
    (id : UUID) : (UUID.hex id).toList.all accepts = true := by
  have whole : (UUID.hex id).toList = UUID.hexDigits id := String.toList_ofList
  rw [whole, UUID.hexDigits_eq]
  apply List.all_eq_true.mpr
  intro character member
  obtain ⟨digit, below, same⟩ := mem_hexText member
  rw [← same]
  exact each digit below

theorem hex_nonempty (id : UUID) : (UUID.hex id).toList ≠ [] := by
  intro empty
  have long := UUID.hex_length id
  rw [← String.length_toList, empty] at long
  cases long

theorem streamSubfolder_hex (id : UUID) :
    RuntimeAgent.streamSubfolder ("/stream/" ++ UUID.hex id) = true := by
  have edges := hex_all Pattern.isLowerAlnum (by decide) id
  have inner := hex_all Pattern.isSlug (by decide) id
  have long : ("/stream/" ++ UUID.hex id).length = 40 := by
    rw [String.length_append, UUID.hex_length]
    rfl
  have leading : Pattern.leads Pattern.isLowerAlnum Pattern.isSlug (UUID.hex id).toList = true := by
    cases text : (UUID.hex id).toList with
    | nil => exact absurd text (hex_nonempty id)
    | cons first rest =>
        rw [text, List.all_cons, Bool.and_eq_true] at edges inner
        rw [Pattern.leads, edges.1, inner.2]
        rfl
  have last : (UUID.hex id).toList.getLast?.any Pattern.isLowerAlnum = true := by
    rw [List.getLast?_eq_some_getLast (hex_nonempty id)]
    exact List.all_eq_true.mp edges _ (List.getLast_mem (hex_nonempty id))
  have rest : (("/stream/" ++ UUID.hex id).toList.drop "/stream/".length) =
      (UUID.hex id).toList := by
    rw [String.toList_append]
    exact List.drop_left
  have start : "/stream/".toList.isPrefixOf ("/stream/" ++ UUID.hex id).toList = true := by
    simp
  unfold RuntimeAgent.streamSubfolder Pattern.lengthBetween Pattern.after Pattern.edged
  rw [long, start, rest, leading, last]
  rfl

theorem toList_containerName (id : UUID) : (LocalRuntimeAgentProvider.containerName id).toList =
    "retrobrowser-runtime-".toList ++ (UUID.hex id).toList :=
  String.toList_append

theorem containerName_length (id : UUID) :
    (LocalRuntimeAgentProvider.containerName id).length = 53 := by
  rw [← String.length_toList, toList_containerName, List.length_append, String.length_toList,
    String.length_toList, UUID.hex_length]
  rfl

/-- A container's name is a host name of one label. -/
theorem hostLabels_containerName {tables : PythonText.CharacterTables}
    (agrees : Hostname.AgreesOnAscii tables.isAlnum) (id : UUID) :
    NetplayRequest.hostLabels tables (LocalRuntimeAgentProvider.containerName id) = true := by
  have whole := toList_containerName id
  have ascii := hex_all (fun character => character.isAlphanum && character.toNat < 128)
    (by decide) id
  -- The letters and digits are those of the tables.
  have digits : (UUID.hex id).toList.all tables.isAlnum = true := by
    apply List.all_eq_true.mpr
    intro character member
    have plain := List.all_eq_true.mp ascii character member
    rw [Bool.and_eq_true, decide_eq_true_eq] at plain
    rw [agrees character plain.2]
    exact plain.1
  have letters : "retrobrowser-runtime-".toList.all
      (fun character => tables.isAlnum character || character == '-') = true := by
    apply List.all_eq_true.mpr
    intro character member
    have each : "retrobrowser-runtime-".toList.all (fun character => character.toNat < 128 &&
        (character.isAlphanum || character == '-')) = true := by decide
    have plain := List.all_eq_true.mp each character member
    rw [Bool.and_eq_true, decide_eq_true_eq] at plain
    rw [agrees character plain.1]
    exact plain.2
  have noDot : '.' ∉ (LocalRuntimeAgentProvider.containerName id).toList := by
    rw [whole, List.mem_append, not_or]
    constructor
    · decide
    · intro dot
      have letter := List.all_eq_true.mp digits _ dot
      rw [agrees.dot] at letter
      cases letter
  have long : (LocalRuntimeAgentProvider.containerName id).toList.length = 53 := by
    rw [String.length_toList, containerName_length]
  have first : (LocalRuntimeAgentProvider.containerName id).toList.head?.any tables.isAlnum =
      true := by
    rw [whole]
    exact agrees 'r' (by decide)
  have last : (LocalRuntimeAgentProvider.containerName id).toList.getLast?.any tables.isAlnum =
      true := by
    rw [whole, List.getLast?_append_of_ne_nil _ (hex_nonempty id),
      List.getLast?_eq_some_getLast (hex_nonempty id)]
    exact List.all_eq_true.mp digits _ (List.getLast_mem (hex_nonempty id))
  have every : (LocalRuntimeAgentProvider.containerName id).toList.all
      (fun character => tables.isAlnum character || character == '-') = true := by
    rw [whole, List.all_append, letters, Bool.true_and]
    apply List.all_eq_true.mpr
    intro character member
    rw [List.all_eq_true.mp digits character member, Bool.true_or]
  rw [NetplayRequest.hostLabels, List.splitOn_eq_singleton noDot, List.all_cons, List.all_nil,
    NetplayRequest.hostLabel, long, first, last, every]
  rfl

theorem length_pos_of_leads {lead follow : Char → Bool} {value : String}
    (leading : Pattern.leads lead follow value.toList = true) : 1 ≤ value.length := by
  rw [← String.length_toList]
  cases text : value.toList with
  | nil =>
      rw [text] at leading
      cases leading
  | cons first rest => exact Nat.succ_pos _

/-- A bound on the length is what a pattern leaves open. -/
theorem bounded_leads_iff {lead follow : Char → Bool} {value : String} (limit : ℕ)
    (leading : Pattern.leads lead follow value.toList = true) :
    (Pattern.lengthBetween 1 limit value && Pattern.leads lead follow value.toList) = true ↔
      value.length ≤ limit := by
  have some := length_pos_of_leads leading
  rw [leading, Bool.and_true, Pattern.lengthBetween, Bool.and_eq_true, decide_eq_true_eq,
    decide_eq_true_eq]
  exact and_iff_right some

/-- The service's identifiers are the agent's. -/
theorem safeId_of_safeUserId {value : String} (safe : safeUserId value = true) :
    safeId value = true := by
  obtain ⟨leading, short⟩ : Pattern.leads Char.isAlphanum (fun character =>
      character.isAlphanum || "_.:@-".toList.contains character) value.toList = true ∧
      value.length ≤ 128 := by
    unfold safeUserId at safe
    cases text : value.toList with
    | nil =>
        rw [text] at safe
        cases safe
    | cons first rest =>
        rw [text] at safe
        rw [Bool.and_eq_true, decide_eq_true_eq] at safe
        exact safe
  exact (bounded_leads_iff 128 leading).mpr short

theorem coreProfileId_iff {value : String} (safe : slug value = true) :
    coreProfileId value = true ↔ value.length ≤ 64 := by
  have leading : Pattern.leads Pattern.isLowerAlnum Pattern.isSlug value.toList = true := by
    unfold slug at safe
    cases text : value.toList with
    | nil =>
        rw [text] at safe
        cases safe
    | cons first rest =>
        rw [text] at safe
        exact safe
  exact bounded_leads_iff 64 leading

theorem networkName_iff {value : String} (safe : networkPattern value = true) :
    networkName value = true ↔ value.length ≤ 63 :=
  bounded_leads_iff 63 safe

end Texts

/-! ## The body that is sent -/

section Body

open RuntimeAgent (HttpRequest)
open RuntimeAgent.RuntimeRequestHandler (maxRequestBytes)

theorem toLength_toString (length : ℕ) : HttpRequest.toLength (toString length) =
    if Json.maxDigits < (toString length).length then
      .error (.value "Exceeds the limit (4300 digits) for integer string conversion")
    else .ok length := by
  have text : (toString length).toList = Nat.toDigits 10 length := by simp
  have digits : (toString length).toList.all Char.isDigit = true := by
    rw [text]
    exact List.all_eq_true.mpr fun _ member => Json.isDigit_of_mem member
  unfold HttpRequest.toLength
  rw [digits, text]
  simp

theorem isDigit_toString (length : ℕ) :
    (toString length).isEmpty = false ∧
      (toString length).toList.all HttpRequest.isDigit = true := by
  have text : (toString length).toList = Nat.toDigits 10 length := by simp
  constructor
  · rw [Bool.eq_false_iff]
    intro empty
    rw [String.isEmpty_iff.mp empty] at text
    exact Nat.toDigits_ne_nil text.symm
  · rw [text]
    apply List.all_eq_true.mpr
    intro character member
    rw [HttpRequest.isDigit, Json.isDigit_of_mem member, Bool.true_or]

/-- The length that a body's text announces. -/
theorem encoded_length {document : Json} (own : document.exact = true) :
    (Json.encodeUtf8 document.dumps).length = document.dumps.length := by
  rw [Json.encodeUtf8_ascii (Json.isAscii_dumps document own), List.length_map]

variable {tables : PythonText.CharacterTables} {method path : String}
  {members : List (String × Json)}

theorem getContentType_sent (method path : String)
    (lower : tables.lower "application/json".toList = "application/json".toList)
    (document : Json) : (AgentSocket.sent method path (some document)).getContentType tables =
      "application/json".toList := by
  have stripped : PythonText.strip PythonText.isSpace
      ("application/json".toList.takeWhile (· ≠ ';')) = "application/json".toList := by decide
  unfold HttpRequest.getContentType AgentSocket.sent
  simp only [Option.map_some, stripped, lower]
  rfl

/-- The agent reads a body that is not too long. -/
theorem body_sent_ok_iff
    (lower : tables.lower "application/json".toList = "application/json".toList)
    (own : (Json.object members).exact = true) (tidied : (Json.object members).tidy = true)
    {read : List (String × Json)} :
    RuntimeRequestHandler.body tables (AgentSocket.sent method path (some (.object members))) =
        .ok read ↔
      read = members ∧ (Json.dumps (.object members)).length ≤ maxRequestBytes := by
  have typed := getContentType_sent method path lower (.object members)
  have long := encoded_length own
  have announced : (AgentSocket.sent method path (some (.object members))).contentLength =
      some (toString (Json.dumps (.object members)).length) := by
    rw [← long]
    rfl
  have digits := isDigit_toString (Json.dumps (.object members)).length
  have atLeast : 2 ≤ (Json.dumps (.object members)).length := by
    rw [Json.dumps, List.length_cons, List.length_append, List.length_singleton]
    omega
  have whole : (AgentSocket.sent method path (some (.object members))).body.take
      (Json.dumps (.object members)).length = Json.encodeUtf8 (Json.dumps (.object members)) := by
    rw [← long]
    exact List.take_length
  unfold RuntimeRequestHandler.body
  rw [typed, if_neg (not_not.mpr rfl), announced]
  simp only
  have plain : ¬((toString (Json.dumps (.object members)).length).isEmpty = true ∨
      (toString (Json.dumps (.object members)).length).toList.all HttpRequest.isDigit = false) := by
    rw [digits.1, digits.2]
    exact fun either => either.elim Bool.noConfusion Bool.noConfusion
  rw [if_neg plain, toLength_toString]
  by_cases fits : (Json.dumps (.object members)).length ≤ maxRequestBytes
  · have short : ¬Json.maxDigits < (toString (Json.dumps (.object members)).length).length := by
      have bounded : (Json.dumps (.object members)).length < 10 ^ 5 :=
        Nat.lt_of_le_of_lt fits (by decide)
      have text : (toString (Json.dumps (.object members)).length).length =
          (Nat.toDigits 10 (Json.dumps (.object members)).length).length := by
        rw [← String.length_toList]
        simp
      have digits :=
        (Nat.length_toDigits_le_iff (by decide : 1 < 10) (by decide : 0 < 5)).mpr bounded
      rw [text]
      exact Nat.not_lt.mpr (digits.trans (by decide))
    have inside : ¬((Json.dumps (.object members)).length < 2 ∨
        maxRequestBytes < (Json.dumps (.object members)).length) := by omega
    rw [if_neg short]
    simp only [bind, Except.bind, if_neg inside, whole]
    rw [Json.loadsBytes_dumps Json.keeps_rejectDuplicateKeys own tidied]
    simp [fits, pure, Except.pure, eq_comm]
  · have refused : (Json.dumps (.object members)).length < 2 ∨
        maxRequestBytes < (Json.dumps (.object members)).length := Or.inr (Nat.not_le.mp fits)
    split
    · simp [fits, bind, Except.bind]
    · simp only [bind, Except.bind, if_pos refused]
      simp [fits, throw, throwThe, MonadExceptOf.throw]

end Body

/-! ## What the agent makes of the request -/

namespace LocalRuntimeAgentProvider

variable {provider : LocalRuntimeAgentProvider} {request : RuntimeRequest}
  {tables : PythonText.CharacterTables}

theorem Askable.valid_netplay (askable : provider.Askable request)
    (agrees : Hostname.AgreesOnAscii tables.isAlnum) :
    (provider.asked request).netplay.valid tables = true := by
  have config := askable.config
  simp only [RuntimeAgentProviderConfig.valid, Bool.and_eq_true, and_assoc] at config
  obtain ⟨_, _, _, low, high, _⟩ := config
  have host := askable.host
  unfold NetplayRequest.valid asked
  cases chosen : request.hostParticipantId with
  | none =>
      rw [chosen] at host
      cases role : request.role with
      | client => exact absurd (host.mpr role) (by simp)
      | host =>
          rw [low, high]
          rfl
  | some id =>
      rw [chosen] at host
      have named := hostLabels_containerName agrees id
      have long := containerName_length id
      simp only [Option.map_some, Option.all_some, Pattern.lengthBetween, long, named, low, high,
        host.mp rfl]
      rfl

/-- The request is valid for the agent just where it fits its bounds. -/
theorem Askable.valid_asked_iff (askable : provider.Askable request)
    (agrees : Hostname.AgreesOnAscii tables.isAlnum) :
    (provider.asked request).valid tables = true ↔ provider.Fits request := by
  have config := askable.config
  simp only [RuntimeAgentProviderConfig.valid, Bool.and_eq_true, and_assoc] at config
  obtain ⟨image, streamNetwork, netplayNetwork, _, _, _, distinct⟩ := config
  have fields := askable.fields
  simp only [RuntimeRequest.valid, Bool.and_eq_true, and_assoc] at fields
  obtain ⟨user, player, path, digest, profile⟩ := fields
  have short : Pattern.lengthBetween 1 64 request.playerName = true := by
    rw [lengthBetween, Bool.and_eq_true, decide_eq_true_eq, decide_eq_true_eq] at player
    rw [Pattern.lengthBetween, Bool.and_eq_true, decide_eq_true_eq, decide_eq_true_eq]
    omega
  have pictured : Pattern.lengthBetween 1 512 provider.config.image = true ↔
      provider.config.image.length ≤ 512 := by
    have some : 1 ≤ provider.config.image.length := by
      apply Nat.one_le_iff_ne_zero.mpr
      intro empty
      rw [String.length_eq_zero_iff.mp empty] at image
      revert image
      decide
    rw [Pattern.lengthBetween, Bool.and_eq_true, decide_eq_true_eq, decide_eq_true_eq]
    exact and_iff_right some
  have token : Pattern.lengthBetween 32 512 (provider.masterToken request.participantId) =
      true := by
    have digest := askable.digests (secretKey provider.config.orchestrationSecret)
      (UUID.bytes request.participantId)
    rw [Pattern.sha256, Bool.and_eq_true, beq_iff_eq] at digest
    rw [masterToken, deriveMasterToken, Pattern.lengthBetween, digest.1]
    rfl
  have path' : Pattern.lengthBetween 1 4096 request.romPath = true := path
  have digest' : Pattern.sha256 request.romSha256 = true := digest
  have netplay := askable.valid_netplay agrees
  simp only [asked] at netplay
  simp only [CreateRuntimeRequest.valid, asked, Bool.and_eq_true, and_assoc, short, path', digest',
    token, safeId_of_safeUserId user, streamSubfolder_hex, netplay, distinct, pictured,
    networkName_iff streamNetwork, networkName_iff netplayNetwork, coreProfileId_iff profile,
    and_true, true_and]
  constructor
  · rintro ⟨plain, image, profile, streamNetwork, netplayNetwork⟩
    exact ⟨image, streamNetwork, netplayNetwork, profile, plain⟩
  · rintro ⟨image, streamNetwork, netplayNetwork, profile, plain⟩
    exact ⟨plain, image, profile, streamNetwork, netplayNetwork⟩

/-! ## The document -/

variable (provider request)

/-- The members of the document. -/
def payloadMembers : List (String × Json) := [
  ("schema_version", .number 1),
  ("session_id", .string (UUID.str request.sessionId)),
  ("participant_id", .string (UUID.str request.participantId)),
  ("user_id", .string request.userId),
  ("player_name", .string request.playerName),
  ("image", .string provider.config.image),
  ("rom_path", .string request.romPath),
  ("rom_sha256", .string request.romSha256),
  ("core_profile", .string request.coreProfile),
  ("netplay", .object [
    ("role", .string (Role.text request.role)),
    ("host", optionalDocument (request.hostParticipantId.map containerName)),
    ("port", .number provider.config.netplayPort)]),
  ("stream_subfolder", .string ("/stream/" ++ UUID.hex request.participantId)),
  ("stream_network", .string provider.config.streamNetwork),
  ("netplay_network", .string provider.config.netplayNetwork),
  ("gpu_profile", .string provider.config.gpuProfile.text),
  ("selkies_master_token", .string (provider.masterToken request.participantId))]

theorem payload_eq : provider.payload request = .object (provider.payloadMembers request) := by
  unfold payload payloadMembers
  cases request.hostParticipantId <;> rfl

variable {provider request}

/-- The agent makes of the document what the request asks for. -/
theorem modelValidate_payload (read : CreateRuntimeRequest) :
    CreateRuntimeRequest.modelValidate tables (.object (provider.payloadMembers request)) =
        .ok read ↔
      read = provider.asked request ∧ read.valid tables = true := by
  apply CreateRuntimeRequest.modelValidate_object
  · simp [payloadMembers, CreateRuntimeRequest.fieldNames]
  · rfl
  · rfl
  · exact readUUID_str _
  · rfl
  · exact readUUID_str _
  · rfl
  · rfl
  · rfl
  · rfl
  · rfl
  · rfl
  · rfl
  · intro part
    have literal : RuntimeAgent.NetplayRole.literals.lookup (Role.text request.role) =
        some request.role.asked := by
      cases request.role <;> rfl
    exact NetplayRequest.modelValidate_object (by simp) rfl literal rfl rfl
  · rfl
  · rfl
  · rfl
  · rfl
  · show _ = some provider.config.gpuProfile.asked
    cases provider.config.gpuProfile <;> rfl
  · rfl

theorem exact_payloadMembers : (Json.object (provider.payloadMembers request)).exact = true := by
  have host : (optionalDocument (request.hostParticipantId.map containerName)).exact = true := by
    cases request.hostParticipantId <;> rfl
  simp [payloadMembers, Json.exact, Json.exactMembers, host]

theorem tidy_payloadMembers (config : provider.config.valid = true) :
    (Json.object (provider.payloadMembers request)).tidy = true := by
  simp only [RuntimeAgentProviderConfig.valid, Bool.and_eq_true, decide_eq_true_eq, and_assoc]
    at config
  obtain ⟨_, _, _, _, high, _⟩ := config
  have host : (optionalDocument (request.hostParticipantId.map containerName)).tidy = true := by
    cases request.hostParticipantId <;> rfl
  have short : (Nat.toDigits 10 provider.config.netplayPort).length ≤ Json.maxDigits := by
    have bound := (Nat.length_toDigits_le_iff (by decide : 1 < 10) (by decide : 0 < 5)).mpr
      (show provider.config.netplayPort < 10 ^ 5 by omega)
    exact bound.trans (by decide)
  have one : (Nat.toDigits 10 1).length ≤ Json.maxDigits := by decide
  simp [payloadMembers, Json.tidy, Json.tidyMembers, host, short, one]

/-- A request that fits has a body that the agent reads. -/
theorem Askable.payload_length_le (askable : provider.Askable request)
    (fits : provider.Fits request) :
    (Json.dumps (.object (provider.payloadMembers request))).length ≤
      RuntimeAgent.RuntimeRequestHandler.maxRequestBytes := by
  have sums : ∀ {lengths : List ℕ} {bounds : List ℕ}, List.Forall₂
    (· ≤ ·) lengths bounds →
      lengths.sum ≤ bounds.sum := fun each => List.Forall₂.sum_le_sum each
  have config := askable.config
  simp only [RuntimeAgentProviderConfig.valid, Bool.and_eq_true, decide_eq_true_eq, and_assoc]
    at config
  obtain ⟨_, _, _, _, port, _⟩ := config
  have fields := askable.fields
  simp only [RuntimeRequest.valid, lengthBetween, Bool.and_eq_true, decide_eq_true_eq, and_assoc]
    at fields
  obtain ⟨user, _, player, _, path, digest, _⟩ := fields
  have safe := safeId_of_safeUserId user
  rw [safeId, Pattern.lengthBetween, Bool.and_eq_true, Bool.and_eq_true, decide_eq_true_eq,
    decide_eq_true_eq] at safe
  rw [sha256Text, Bool.and_eq_true, beq_iff_eq] at digest
  have token := askable.digests (secretKey provider.config.orchestrationSecret)
    (UUID.bytes request.participantId)
  rw [Pattern.sha256, Bool.and_eq_true, beq_iff_eq] at token
  have host :
    (Json.dumps (optionalDocument (request.hostParticipantId.map containerName))).length ≤
      12 * 53 + 2 := by
    cases request.hostParticipantId with
    | none => decide
    | some id => exact Json.dumps_string_length_le (containerName_length id).le
  have role : (Role.text request.role).length ≤ 6 := by
    cases request.role <;> decide
  have gpu : provider.config.gpuProfile.text.length ≤ 6 := by
    cases provider.config.gpuProfile <;> decide
  have folder : ("/stream/" ++ UUID.hex request.participantId).length ≤ 40 := by
    rw [String.length_append, UUID.hex_length]
    decide
  have netplay : (Json.dumps (.object [("role", .string (Role.text request.role)),
      ("host", optionalDocument (request.hostParticipantId.map containerName)),
      ("port", .number provider.config.netplayPort)])).length ≤
      [74, 638, 5].sum + 3 * (6 + 2) + 2 := by
    apply Json.dumps_object_length_le 3 6 _ rfl
    · simp
      decide
    · exact sums (.cons (Json.dumps_string_length_le role) (.cons host
        (.cons (Json.dumps_number_length_le _ port) .nil)))
  have whole : (Json.dumps (.object (provider.payloadMembers request))).length ≤
      [5, 434, 434, 1538, 374, 6146, 49154, 770, 770, 743, 482, 758, 758, 74, 770].sum +
        15 * (22 + 2) + 2 := by
    apply Json.dumps_object_length_le 15 22 _ rfl
    · simp [payloadMembers]
      decide
    · exact sums (.cons (Json.dumps_number_length_le 1 (by decide))
        (.cons (Json.dumps_string_length_le (UUID.str_length _).le)
        (.cons (Json.dumps_string_length_le (UUID.str_length _).le)
        (.cons (Json.dumps_string_length_le safe.1.2) (.cons (Json.dumps_string_length_le player)
        (.cons (Json.dumps_string_length_le fits.image) (.cons (Json.dumps_string_length_le path)
        (.cons (Json.dumps_string_length_le digest.1.le)
        (.cons (Json.dumps_string_length_le fits.coreProfile) (.cons netplay
        (.cons (Json.dumps_string_length_le folder)
        (.cons (Json.dumps_string_length_le fits.streamNetwork)
        (.cons (Json.dumps_string_length_le fits.netplayNetwork)
        (.cons (Json.dumps_string_length_le gpu)
        (.cons (Json.dumps_string_length_le token.1.le) .nil)))))))))))))))
  exact whole.trans (by decide)

end LocalRuntimeAgentProvider

/-- The agent takes the request just where its body is not too long and the request made of it is
valid. -/
theorem LocalRuntimeAgentProvider.handed {provider : LocalRuntimeAgentProvider}
    {tables : PythonText.CharacterTables} {request : RuntimeRequest}
    (config : provider.config.valid = true)
    (lower : tables.lower "application/json".toList = "application/json".toList)
    (read : CreateRuntimeRequest) :
    (∃ members, RuntimeRequestHandler.body tables
          (AgentSocket.sent "POST" "/v1/runtimes" (some (provider.payload request))) =
            .ok members ∧
        CreateRuntimeRequest.modelValidate tables (.object members) = .ok read) ↔
      read = provider.asked request ∧ (provider.asked request).valid tables = true ∧
        (Json.dumps (.object (provider.payloadMembers request))).length ≤
          RuntimeAgent.RuntimeRequestHandler.maxRequestBytes := by
  rw [LocalRuntimeAgentProvider.payload_eq]
  simp only [body_sent_ok_iff lower LocalRuntimeAgentProvider.exact_payloadMembers
    (LocalRuntimeAgentProvider.tidy_payloadMembers config), and_assoc, exists_eq_left,
    LocalRuntimeAgentProvider.modelValidate_payload]
  constructor
  · rintro ⟨short, same, valid⟩
    subst same
    exact ⟨rfl, valid, short⟩
  · rintro ⟨same, valid, short⟩
    subst same
    exact ⟨short, rfl, valid⟩

/-- The agent takes the request that the adapter sends if and only if the image, the networks and
the profile are within its bounds and the player's name is plain, and then it reads what the
service asked for. -/
theorem creation_accepted_iff (provider : LocalRuntimeAgentProvider)
    (tables : PythonText.CharacterTables) (request : RuntimeRequest) (read : CreateRuntimeRequest)
    (askable : provider.Askable request) (agrees : Hostname.AgreesOnAscii tables.isAlnum)
    (lower : tables.lower "application/json".toList = "application/json".toList) :
    (∃ members, RuntimeRequestHandler.body tables
          (AgentSocket.sent "POST" "/v1/runtimes" (some (provider.payload request))) =
            .ok members ∧
        CreateRuntimeRequest.modelValidate tables (.object members) = .ok read) ↔
      read = provider.asked request ∧ provider.Fits request := by
  rw [LocalRuntimeAgentProvider.handed askable.config lower read, askable.valid_asked_iff agrees]
  constructor
  · rintro ⟨same, fits, _⟩
    exact ⟨same, fits⟩
  · rintro ⟨same, fits⟩
    exact ⟨same, fits, askable.payload_length_le fits⟩

section Example

/-- An adapter with the standard library's hash. -/
def exampleAdapter : LocalRuntimeAgentProvider where
  config := {
    image := RuntimeAgent.exampleConfig.approvedImage
    streamNetwork := "retro-stream"
    netplayNetwork := "retro-netplay"
    gpuProfile := .cpu
    netplayPort := 55435
    orchestrationSecret := "0123456789abcdef0123456789abcdef" }
  hmac key message := (Sha2.hmacSha256 key message).hexdigest
  repr _ := some ""

/-- A host's request. -/
def exampleHostRequest : RuntimeRequest where
  sessionId := 1
  participantId := 2
  userId := "user-1"
  playerName := "Player One"
  romPath := "/data/roms/game.nes"
  romSha256 := "103c79a6e3968b817a3e24d63e53cc02f8eaab3f41a05cf73ac4c544df0e887a"
  coreProfile := "nes"
  role := .host
  hostParticipantId := none

theorem sha256_hexdigest (digest : Digest) : Pattern.sha256 digest.hexdigest = true := by
  have whole : digest.hexdigest.toList = hexText 64 digest.toNat := String.toList_ofList
  have plain : ∀ digit < 16, Pattern.isLowerHex (Nat.digitChar digit) = true := by decide
  rw [Pattern.sha256, ← String.length_toList, whole, hexText_length, Bool.and_eq_true]
  constructor
  · rfl
  · apply List.all_eq_true.mpr
    intro character member
    obtain ⟨digit, below, same⟩ := mem_hexText member
    rw [← same]
    exact plain digit below

theorem exampleHostRequest_askable : exampleAdapter.Askable exampleHostRequest where
  config := by decide +kernel
  fields := by decide +kernel
  host := by decide
  digests _ _ := sha256_hexdigest _

theorem exampleHostRequest_fits : exampleAdapter.Fits exampleHostRequest where
  image := by decide
  streamNetwork := by decide
  netplayNetwork := by decide
  coreProfile := by decide
  playerName := by decide

theorem exampleTables_agrees : Hostname.AgreesOnAscii RuntimeAgent.exampleTables.isAlnum :=
  fun _ _ => rfl

end Example

theorem example_creation_accepted : ∃ members,
    RuntimeRequestHandler.body RuntimeAgent.exampleTables
        (AgentSocket.sent "POST" "/v1/runtimes"
          (some (exampleAdapter.payload exampleHostRequest))) =
      .ok members ∧
    CreateRuntimeRequest.modelValidate RuntimeAgent.exampleTables (.object members) =
      .ok (exampleAdapter.asked exampleHostRequest) :=
  (creation_accepted_iff exampleAdapter RuntimeAgent.exampleTables exampleHostRequest _
    exampleHostRequest_askable exampleTables_agrees (by decide)).mpr
      ⟨rfl, exampleHostRequest_fits⟩

end RetroBrowser.SessionManager
