import Mathlib.Data.List.Dedup
import Mathlib.Data.List.Sort
import RetroBrowser.Foundation.UUID
import RetroBrowser.SessionManager.Models.State

/-!
Owns the stored records of the Session Manager (participants and sessions),
their field constraints and the cross-participant validator.

Instants and durations count microseconds; every instant is UTC, so the
timezone check of the validator has no counterpart here.
-/

namespace RetroBrowser.SessionManager

open RetroBrowser.Foundation

/-- Microseconds since the epoch. -/
abbrev Time := Int

/-- Microseconds. -/
abbrev Duration := Int

/-- `^[A-Za-z0-9][A-Za-z0-9_.:@-]*$` with length 1 to 128. -/
def safeUserId (value : String) : Bool :=
  match value.toList with
  | [] => false
  | first :: rest =>
      first.isAlphanum &&
        rest.all (fun character => character.isAlphanum || "_.:@-".toList.contains character) &&
        value.length ≤ 128

/-- `^[0-9a-f]{64}$`. -/
def sha256Text (value : String) : Bool :=
  value.length == 64 &&
    value.toList.all fun character => character.isDigit || "abcdef".toList.contains character

/-- `^[a-z0-9][a-z0-9-]*$`. -/
def slug (value : String) : Bool :=
  match value.toList with
  | [] => false
  | first :: rest =>
      (first.isLower || first.isDigit) &&
        rest.all fun character => character.isLower || character.isDigit || character == '-'

/-- `min_length` and `max_length` of a text field. -/
def lengthBetween (low high : Nat) (value : String) : Bool :=
  low ≤ value.length && value.length ≤ high

structure Actor where
  userId : String
  displayName : String
deriving DecidableEq, Repr

structure GameRecord where
  rommRomId : Int
  platform : String
  canonicalPath : String
  romSha256 : String
deriving DecidableEq, Repr

/-- The field constraints of the record. -/
def GameRecord.valid (record : GameRecord) : Bool :=
  0 < record.rommRomId && (lengthBetween 1 64 record.platform && slug record.platform) &&
    lengthBetween 1 4096 record.canonicalPath && sha256Text record.romSha256

structure CoreProfile where
  profileId : String
  platform : String
  maxPlayers : Nat
deriving DecidableEq, Repr

structure CreateSessionRequest where
  displayName : String
  rommRomId : Int
  maxPlayers : Nat
deriving DecidableEq, Repr

structure Participant where
  participantId : UUID
  sessionId : UUID
  userId : String
  displayName : String
  playerSlot : Nat
  runtimeId : Option UUID
  streamPath : Option String
  state : ParticipantState
  joinedAt : Time
  lastHeartbeat : Time
deriving DecidableEq, Repr

namespace Participant

/-- Not in `{LEFT, ERROR}`. -/
def live (participant : Participant) : Bool := !participant.state.terminal

/-- The field constraints of the record. -/
def valid (participant : Participant) : Bool :=
  safeUserId participant.userId && lengthBetween 1 64 participant.displayName &&
    (1 ≤ participant.playerSlot && participant.playerSlot ≤ 16) &&
    participant.streamPath.all (lengthBetween 0 96)

end Participant

structure Session where
  sessionId : UUID
  displayName : String
  ownerUserId : String
  rommRomId : Int
  platform : String
  romSha256 : String
  coreProfileId : String
  maxPlayers : Nat
  state : SessionState
  participants : List Participant
  createdAt : Time
  updatedAt : Time
  expiresAt : Time
  closedReason : Option String
  revision : Nat
deriving DecidableEq, Repr

namespace Session

/-- Participants outside `{LEFT, ERROR}`. -/
def liveParticipants (session : Session) : List Participant :=
  session.participants.filter Participant.live

def playerCount (session : Session) : Nat := session.liveParticipants.length

/-- The constraints of the record's own fields. -/
def fieldsValid (session : Session) : Bool :=
  lengthBetween 1 64 session.displayName && safeUserId session.ownerUserId &&
    0 < session.rommRomId && sha256Text session.romSha256 &&
    (2 ≤ session.maxPlayers && session.maxPlayers ≤ 16) &&
    session.participants.all Participant.valid &&
    session.closedReason.all (lengthBetween 0 64)

/-- The model validator, check by check. -/
def consistentParticipants (session : Session) : Except Error Unit :=
  let active := session.liveParticipants
  if session.participants.any (fun item => item.sessionId ≠ session.sessionId) then
    .error (.value "participant belongs to another session")
  else if (active.map Participant.userId).dedup.length ≠ active.length then
    .error (.value "active participant users must be unique")
  else if (active.map Participant.playerSlot).dedup.length ≠ active.length then
    .error (.value "active player slots must be unique")
  else if active.any (fun item => session.maxPlayers < item.playerSlot) then
    .error (.value "participant slot exceeds session capacity")
  else if session.maxPlayers < session.playerCount then
    .error (.value "participant count exceeds session capacity")
  else .ok ()

/-- Everything construction and decoding check. -/
def validate (session : Session) : Except Error Unit :=
  if session.fieldsValid then session.consistentParticipants
  else .error (.value "session field validation failed")

/-- What the model validator is for. -/
structure Consistent (session : Session) : Prop where
  belongs : ∀ item ∈ session.participants, item.sessionId = session.sessionId
  users : (session.liveParticipants.map Participant.userId).Nodup
  slots : (session.liveParticipants.map Participant.playerSlot).Nodup
  slotBound : ∀ item ∈ session.liveParticipants, item.playerSlot ≤ session.maxPlayers
  count : session.playerCount ≤ session.maxPlayers

private theorem dedup_length_eq_iff {α : Type} [DecidableEq α] (items : List α) :
    items.dedup.length = items.length ↔ items.Nodup := by
  constructor
  · intro same
    exact List.dedup_eq_self.mp ((List.dedup_sublist items).eq_of_length same)
  · intro distinct
    rw [distinct.dedup]

/-- The validator accepts exactly the consistent records. -/
theorem consistentParticipants_ok_iff (session : Session) :
    session.consistentParticipants = .ok () ↔ session.Consistent := by
  have users := dedup_length_eq_iff (session.liveParticipants.map Participant.userId)
  have slots := dedup_length_eq_iff (session.liveParticipants.map Participant.playerSlot)
  simp only [List.length_map] at users slots
  unfold consistentParticipants
  simp only [List.any_eq_true, decide_eq_true_eq, users, slots, ne_eq]
  constructor
  · intro accepted
    split_ifs at accepted with outside duplicateUser duplicateSlot overSlot overCount
    push Not at outside overSlot overCount
    exact ⟨outside, duplicateUser, duplicateSlot, overSlot, overCount⟩
  · rintro ⟨belongs, users, slots, slotBound, count⟩
    rw [if_neg (by push Not; exact belongs), if_neg (not_not.mpr users),
      if_neg (not_not.mpr slots), if_neg (by push Not; exact slotBound),
      if_neg (Nat.not_lt.mpr count)]

theorem validate_ok_iff (session : Session) :
    session.validate = .ok () ↔ session.fieldsValid = true ∧ session.Consistent := by
  unfold validate
  by_cases fields : session.fieldsValid = true
  · rw [if_pos fields, consistentParticipants_ok_iff]
    exact (and_iff_right fields).symm
  · simp [fields]

end Session

/-- Browser-safe launch material for one active participant. -/
structure StreamLaunch where
  streamPath : String
  accessToken : String
  expiresAt : Time
deriving DecidableEq, Repr

/-- `^/stream/[a-f0-9]{32}/$`, and the bounds of the token. -/
def StreamLaunch.valid (launch : StreamLaunch) : Bool :=
  let path := launch.streamPath.toList
  path.take 8 == "/stream/".toList && path.length == 41 && path.drop 40 == ['/'] &&
    ((path.drop 8).take 32).all
      (fun character => character.isDigit || "abcdef".toList.contains character) &&
    lengthBetween 32 512 launch.accessToken

end RetroBrowser.SessionManager
