import Mathlib.Data.Bool.AllAny
import RetroBrowser.RuntimeAgent.Models.Runtime
import RetroBrowser.SessionEntrypoint.Models
import RetroBrowser.SessionManager.Models.FriendlyName
import RetroBrowser.SessionManager.Services.SessionService

/-!
Owns the way of a name through the three programs: the records of the Session Manager,
the runtime request, the request to the agent and the specification for the launcher.

Contract: each of these is a record that its own model accepts, into which only the
fields that come from the user are put.
-/

namespace RetroBrowser.SessionManager

open RetroBrowser.Foundation

/-! ## The emulator's name for a player -/

/-- A text has at most as many code points as it has bytes. -/
theorem length_le_utf8ByteSize (value : String) : value.length ≤ value.utf8ByteSize := by
  have counted : ∀ text : List Char, text.length ≤ text.utf8Encode.size := by
    intro text
    induction text with
    | nil => exact Nat.zero_le _
    | cons character rest inductionHypothesis =>
        have positive := character.utf8Size_pos
        have own : [character].utf8Encode.size = character.utf8Size := by
          rw [List.utf8Encode_singleton, List.size_toByteArray, String.length_utf8EncodeChar]
        rw [List.utf8Encode_cons, ByteArray.size_append, List.length_cons]
        omega
  have whole := counted value.toList
  rw [String.length_toList, ← String.toByteArray_ofList, String.ofList_toList] at whole
  exact whole

/-- The name that stands for a long one. -/
theorem friendly_player {playerSlot : Nat} (low : 1 ≤ playerSlot) (high : playerSlot ≤ 16) :
    Friendly s!"Player {playerSlot}" ∧ (s!"Player {playerSlot}").utf8ByteSize ≤ 31 := by
  have slots : ∀ slot ∈ List.range' 1 16,
      (s!"Player {slot}").toList ≠ [] ∧
      (s!"Player {slot}").toList =
        PythonText.strip PythonText.isSpace (s!"Player {slot}").toList ∧
      ((s!"Player {slot}").toList.all fun character =>
        32 ≤ character.toNat ∧ character.toNat ≠ 127) = true ∧
      (s!"Player {slot}").utf8ByteSize ≤ 31 := by decide +kernel
  have ⟨nonempty, stripped, plain, bytes⟩ := slots playerSlot (by simp; omega)
  exact ⟨⟨nonempty, stripped, List.all_iff_forall_prop.mp plain⟩, bytes⟩

theorem netplayPlayerName_friendly {participant : Participant}
    (friendly : Friendly participant.displayName) (low : 1 ≤ participant.playerSlot)
    (high : participant.playerSlot ≤ 16) :
    Friendly (SessionService.netplayPlayerName participant) ∧
      (SessionService.netplayPlayerName participant).utf8ByteSize ≤ 31 := by
  unfold SessionService.netplayPlayerName
  split_ifs with short
  · exact ⟨friendly, short⟩
  · exact friendly_player low high

/-! ## Accepted everywhere -/

/-- A name that fits the emulator, and that each program's model accepts. -/
structure Carried (tables : PythonText.CharacterTables) (name : String) : Prop where
  nonempty : name ≠ ""
  bytes : name.utf8ByteSize ≤ 31
  runtimeRequest : ∀ request : RuntimeRequest, request.valid = true →
    RuntimeRequest.valid { request with playerName := name } = true
  createRuntimeRequest : ∀ request : RuntimeAgent.CreateRuntimeRequest,
    request.valid tables = true →
    RuntimeAgent.CreateRuntimeRequest.valid tables { request with playerName := name } = true
  runtimeSpec : ∀ spec : SessionEntrypoint.RuntimeSpec, spec.errors tables = [] →
    SessionEntrypoint.RuntimeSpec.errors tables { spec with playerName := name } = []

theorem Friendly.plainName {name : String} (friendly : Friendly name) :
    RuntimeAgent.plainName name = true := by
  unfold RuntimeAgent.plainName
  rw [Bool.and_eq_true, beq_iff_eq, List.all_eq_true]
  refine ⟨friendly.stripped.symm, fun character member => ?_⟩
  have ⟨visible, other⟩ := friendly.plain character member
  simp [visible, other]

theorem Friendly.validatePlayerName {name : String} (friendly : Friendly name) :
    SessionEntrypoint.RuntimeSpec.validatePlayerName name = .ok () := by
  unfold SessionEntrypoint.RuntimeSpec.validatePlayerName
  dsimp only
  rw [if_neg]
  intro refused
  rcases refused with surrounded | control
  · exact surrounded friendly.stripped
  · have ⟨character, member, inside⟩ := List.any_eq_true.mp control
    have ⟨visible, other⟩ := friendly.plain character member
    rw [Bool.or_eq_true, decide_eq_true_iff, beq_iff_eq] at inside
    omega

theorem Friendly.carried {tables : PythonText.CharacterTables} {name : String}
    (friendly : Friendly name) (bytes : name.utf8ByteSize ≤ 31) : Carried tables name := by
  have nonempty : name ≠ "" := by
    intro empty
    exact friendly.nonempty (by rw [empty]; rfl)
  have high := (length_le_utf8ByteSize name).trans bytes
  have low : 1 ≤ name.length := by
    rw [← String.length_toList]
    exact List.length_pos_iff.mpr friendly.nonempty
  refine ⟨nonempty, bytes, ?_, ?_, ?_⟩
  · intro request valid
    simp only [RuntimeRequest.valid, lengthBetween, Bool.and_eq_true,
      decide_eq_true_iff] at valid ⊢
    obtain ⟨⟨⟨⟨userId, _⟩, romPath⟩, romSha256⟩, coreProfile⟩ := valid
    exact ⟨⟨⟨⟨userId, low, high⟩, romPath⟩, romSha256⟩, coreProfile⟩
  · intro request valid
    have between : Pattern.lengthBetween 1 64 name = true := by
      simp only [Pattern.lengthBetween, Bool.and_eq_true, decide_eq_true_iff]
      omega
    simp only [RuntimeAgent.CreateRuntimeRequest.valid, Bool.and_eq_true] at valid ⊢
    obtain ⟨⟨⟨⟨⟨⟨⟨⟨⟨⟨⟨⟨userId, _⟩, _⟩, image⟩, romPath⟩, digest⟩,
      profile⟩, netplay⟩, subfolder⟩,
      streamNetwork⟩, netplayNetwork⟩, token⟩, differ⟩ := valid
    exact ⟨⟨⟨⟨⟨⟨⟨⟨⟨⟨⟨⟨userId, between⟩, friendly.plainName⟩, image⟩,
      romPath⟩, digest⟩, profile⟩,
      netplay⟩, subfolder⟩, streamNetwork⟩, netplayNetwork⟩, token⟩, differ⟩
  · intro spec accepted
    have between : Pattern.lengthBetween 1 31 name = true := by
      simp only [Pattern.lengthBetween, Bool.and_eq_true, decide_eq_true_iff]
      omega
    simp only [SessionEntrypoint.RuntimeSpec.errors, SessionEntrypoint.modelErrors_eq_nil,
      List.append_eq_nil_iff, SessionEntrypoint.fieldErrors_eq_nil] at accepted ⊢
    obtain ⟨⟨⟨⟨⟨⟨userId, _⟩, game⟩, emulator⟩, netplay⟩, stream⟩,
      persistence⟩ := accepted
    exact ⟨⟨⟨⟨⟨⟨userId, between, friendly.validatePlayerName⟩, game⟩, emulator⟩,
      netplay⟩, stream⟩, persistence⟩

/-! ## The records of the Session Manager -/

theorem lengthBetween_iff {value : String} (nonempty : value.toList ≠ []) :
    lengthBetween 1 64 value = true ↔ value.toList.length ≤ 64 := by
  have low : 1 ≤ value.length := by
    rw [← String.length_toList]
    exact List.length_pos_iff.mpr nonempty
  rw [String.length_toList]
  simp [lengthBetween, low]

/-- A participant with another user, name and slot. -/
theorem Participant.valid_named {participant : Participant} (valid : participant.valid = true)
    {userId displayName : String} {playerSlot : Nat} (safe : safeUserId userId = true)
    (low : 1 ≤ playerSlot) (high : playerSlot ≤ 16) :
    Participant.valid { participant with userId, displayName, playerSlot } = true ↔
      lengthBetween 1 64 displayName = true := by
  simp only [Participant.valid, Bool.and_eq_true] at valid ⊢
  have ⟨_, streamPath⟩ := valid
  simp [safe, low, high, streamPath]

/-- A session with another name and owner. -/
theorem Session.validate_named {session : Session} (valid : session.validate = .ok ())
    {displayName ownerUserId : String} (safe : safeUserId ownerUserId = true) :
    Session.validate { session with displayName, ownerUserId } = .ok () ↔
      lengthBetween 1 64 displayName = true := by
  have consistent : Session.consistentParticipants { session with displayName, ownerUserId } =
      session.consistentParticipants := rfl
  unfold Session.validate at valid ⊢
  rw [consistent]
  split_ifs at valid with fields
  rw [valid]
  simp only [Session.fieldsValid, Bool.and_eq_true] at fields ⊢
  have ⟨⟨⟨⟨⟨⟨_, _⟩, romId⟩, digest⟩, players⟩, participants⟩, reason⟩ :=
    fields
  simp [safe, romId, digest, players, participants, reason]

/-- The names of an actor and of a session get through the three programs. -/
structure Survive (tables : PythonText.CharacterTables) (actor : Actor)
    (request : CreateSessionRequest) (playerSlot : Nat) : Prop where
  participant : ∀ participant : Participant, participant.valid = true →
    Participant.valid { participant with
      userId := actor.userId, displayName := actor.displayName, playerSlot } = true
  session : ∀ session : Session, session.validate = .ok () →
    Session.validate { session with
      displayName := request.displayName, ownerUserId := actor.userId } = .ok ()
  player : ∀ participant : Participant, participant.displayName = actor.displayName →
    participant.playerSlot = playerSlot →
    Carried tables (SessionService.netplayPlayerName participant)

/-- Records that the models accept. -/
def plainParticipant : Participant where
  participantId := 1
  sessionId := 1
  userId := "user-1"
  displayName := "Player One"
  playerSlot := 1
  runtimeId := none
  streamPath := none
  state := .allocating
  joinedAt := 0
  lastHeartbeat := 0

def plainSession : Session where
  sessionId := 1
  displayName := "Lobby"
  ownerUserId := "user-1"
  rommRomId := 1
  platform := "nes"
  romSha256 := "0000000000000000000000000000000000000000000000000000000000000000"
  coreProfileId := "nes"
  maxPlayers := 2
  state := .creating
  participants := [plainParticipant]
  createdAt := 0
  updatedAt := 0
  expiresAt := 0
  closedReason := none
  revision := 0

/-- Accepted names get through exactly if normalising leaves them at most 64 code points. -/
theorem names_survive_iff (data : UnicodeData) (tables : PythonText.CharacterTables)
    {userId displayName sessionName : String} {rommRomId : Int} {maxPlayers playerSlot : Nat}
    {actor : Actor} {request : CreateSessionRequest}
    (acceptedActor : Actor.construct data userId displayName = .ok actor)
    (acceptedRequest :
      CreateSessionRequest.construct data sessionName rommRomId maxPlayers = .ok request)
    (low : 1 ≤ playerSlot) (high : playerSlot ≤ 16) :
    Survive tables actor request playerSlot ↔
      (data.normalize displayName.toList).length ≤ 64 ∧
        (data.normalize sessionName.toList).length ≤ 64 := by
  have ⟨safe, actorName, actorFriendly⟩ := Actor.construct_ok acceptedActor
  have ⟨requestName, requestFriendly⟩ := CreateSessionRequest.construct_ok acceptedRequest
  rw [← actorName, ← requestName, ← lengthBetween_iff actorFriendly.nonempty,
    ← lengthBetween_iff requestFriendly.nonempty]
  constructor
  · intro survive
    have participant : plainParticipant.valid = true := by decide +kernel
    have session : plainSession.validate = .ok () := by decide +kernel
    exact ⟨(Participant.valid_named participant safe low high).mp
      (survive.participant _ participant),
      (Session.validate_named session safe).mp (survive.session _ session)⟩
  · intro ⟨actorShort, requestShort⟩
    refine ⟨fun participant valid => ?_, fun session valid => ?_,
      fun participant named slot => ?_⟩
    · exact (Participant.valid_named valid safe low high).mpr actorShort
    · exact (Session.validate_named valid safe).mpr requestShort
    · have ⟨friendly, bytes⟩ := netplayPlayerName_friendly (named ▸ actorFriendly)
        (slot ▸ low) (slot ▸ high)
      exact friendly.carried bytes

section Example

/-- The tables of the character database as far as U+0958 needs them: it decomposes into a
letter and a mark, and these two are never composed. -/
def devanagariData : UnicodeData where
  decomposition character :=
    if character.toNat = 0x958 then [Char.ofNat 0x915, Char.ofNat 0x93C] else [character]
  combiningClass character := if character.toNat = 0x93C then 7 else 0
  composition _ _ := none
  category character :=
    if character.toNat < 32 ∨ character.toNat = 127 then ['C', 'c']
    else if character.toNat = 0x93C then ['M', 'n'] else ['L', 'o']
  decomposition_ne_nil character := by split <;> exact List.cons_ne_nil _ _
  category_control _ control := if_pos control

def asciiTables : PythonText.CharacterTables :=
  ⟨Char.isAlphanum, fun text => text.map Char.toLower⟩

/-- One letter is stored as two code points. -/
theorem devanagari_name_survives :
    ∃ actor request, Actor.construct devanagariData "user-1" "\u0958" = .ok actor ∧
      CreateSessionRequest.construct devanagariData "\u0958" 1 2 = .ok request ∧
      actor.displayName = "\u0915\u093C" ∧ Survive asciiTables actor request 16 := by
  have ⟨acceptedActor, acceptedRequest, short⟩ :
      Actor.construct devanagariData "user-1" "\u0958" = .ok ⟨"user-1", "\u0915\u093C"⟩ ∧
      CreateSessionRequest.construct devanagariData "\u0958" 1 2 =
        .ok ⟨"\u0915\u093C", 1, 2⟩ ∧
      (devanagariData.normalize ("\u0958").toList).length ≤ 64 := by decide +kernel
  exact ⟨_, _, acceptedActor, acceptedRequest, rfl, (names_survive_iff devanagariData asciiTables
    acceptedActor acceptedRequest (by decide) (by decide)).mpr ⟨short, short⟩⟩

/-- 64 such letters are an accepted name, and no participant can have it. -/
theorem devanagari_name_is_lost :
    ∃ actor, Actor.construct devanagariData "user-1"
        (String.ofList (List.replicate 64 (Char.ofNat 0x958))) = .ok actor ∧
      plainParticipant.valid = true ∧
      Participant.valid { plainParticipant with
        userId := actor.userId, displayName := actor.displayName, playerSlot := 1 } = false := by
  refine ⟨⟨"user-1", String.ofList
    (List.replicate 64 [Char.ofNat 0x915, Char.ofNat 0x93C]).flatten⟩, ?_⟩
  decide +kernel

end Example

end RetroBrowser.SessionManager
