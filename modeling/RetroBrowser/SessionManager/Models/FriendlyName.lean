import RetroBrowser.Foundation.Normalization
import RetroBrowser.Foundation.PythonText
import RetroBrowser.SessionManager.Models.Domain

/-!
Owns how the names that a user chooses enter the Session Manager: `Actor` and
`CreateSessionRequest` bound the text as it was sent and store it normalised.
-/

namespace RetroBrowser.SessionManager

open RetroBrowser.Foundation

variable (data : UnicodeData)

def validateFriendlyName (value : String) : Except Error String :=
  let normalized := data.normalize value.toList
  if normalized ≠ PythonText.strip PythonText.isSpace normalized then
    .error (.value "name must not have surrounding whitespace")
  else if normalized.any fun character => ['C'].isPrefixOf (data.category character) then
    .error (.value "name must not contain control characters")
  else .ok (String.ofList normalized)

/-- `Actor(user_id=..., display_name=...)`. -/
def Actor.construct (userId displayName : String) : Except Error Actor :=
  if safeUserId userId && lengthBetween 1 64 displayName then
    (validateFriendlyName data displayName).map fun name => ⟨userId, name⟩
  else .error (.value "actor field validation failed")

/-- `CreateSessionRequest(display_name=..., romm_rom_id=..., max_players=...)`. -/
def CreateSessionRequest.construct (displayName : String) (rommRomId : Int) (maxPlayers : Nat) :
    Except Error CreateSessionRequest :=
  if lengthBetween 1 64 displayName && 0 < rommRomId &&
      (2 ≤ maxPlayers && maxPlayers ≤ 16) then
    (validateFriendlyName data displayName).map fun name => ⟨name, rommRomId, maxPlayers⟩
  else .error (.value "session request field validation failed")

/-- What a validator of friendly names leaves. -/
structure Friendly (name : String) : Prop where
  nonempty : name.toList ≠ []
  stripped : name.toList = PythonText.strip PythonText.isSpace name.toList
  plain : ∀ character ∈ name.toList, 32 ≤ character.toNat ∧ character.toNat ≠ 127

variable {data}

theorem validateFriendlyName_ok {value name : String} (nonempty : value.toList ≠ [])
    (accepted : validateFriendlyName data value = .ok name) :
    name.toList = data.normalize value.toList ∧ Friendly name := by
  unfold validateFriendlyName at accepted
  dsimp only at accepted
  split_ifs at accepted with surrounded control
  have same : name.toList = data.normalize value.toList := by
    rw [← Except.ok.inj accepted, String.toList_ofList]
  refine ⟨same, ?_, ?_, fun character member => ?_⟩
  · rw [same]
    exact data.normalize_ne_nil nonempty
  · rw [same]
    exact not_not.mp surrounded
  · rw [same] at member
    by_contra outside
    have category : data.category character = ['C', 'c'] :=
      data.category_control character (by omega)
    exact control (List.any_eq_true.mpr ⟨character, member, by rw [category]; rfl⟩)

theorem ne_nil_of_lengthBetween {value : String} {high : Nat}
    (between : lengthBetween 1 high value = true) : value.toList ≠ [] := by
  intro empty
  have short : value.length = 0 := by rw [← String.length_toList, empty]; rfl
  simp [lengthBetween, short] at between

theorem Actor.construct_ok {userId displayName : String} {actor : Actor}
    (accepted : Actor.construct data userId displayName = .ok actor) :
    safeUserId actor.userId = true ∧
      actor.displayName.toList = data.normalize displayName.toList ∧
        Friendly actor.displayName := by
  unfold Actor.construct at accepted
  split_ifs at accepted with fields
  rw [Bool.and_eq_true] at fields
  cases checked : validateFriendlyName data displayName with
  | error error => rw [checked] at accepted; exact absurd accepted (by simp [Except.map])
  | ok name =>
      rw [checked] at accepted
      have built : Actor.mk userId name = actor := Except.ok.inj accepted
      rw [← built]
      exact ⟨fields.1, validateFriendlyName_ok (ne_nil_of_lengthBetween fields.2) checked⟩

theorem CreateSessionRequest.construct_ok {displayName : String} {rommRomId : Int}
    {maxPlayers : Nat} {request : CreateSessionRequest}
    (accepted : CreateSessionRequest.construct data displayName rommRomId maxPlayers =
      .ok request) :
    request.displayName.toList = data.normalize displayName.toList ∧
      Friendly request.displayName := by
  unfold CreateSessionRequest.construct at accepted
  split_ifs at accepted with fields
  simp only [Bool.and_eq_true] at fields
  cases checked : validateFriendlyName data displayName with
  | error error => rw [checked] at accepted; exact absurd accepted (by simp [Except.map])
  | ok name =>
      rw [checked] at accepted
      have built : CreateSessionRequest.mk name rommRomId maxPlayers = request :=
        Except.ok.inj accepted
      rw [← built]
      exact validateFriendlyName_ok (ne_nil_of_lengthBetween fields.1.1) checked

end RetroBrowser.SessionManager
