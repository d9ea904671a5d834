import Mathlib.Data.Set.Function
import RetroBrowser.Foundation.UUID

/-!
Owns the two credentials derived from the orchestration secret. Contract: where
the keyed hash is free of collisions on the messages in use, identifiers are
told apart by their controller tokens, and no controller token is a master token.
-/

namespace RetroBrowser.SessionManager

open RetroBrowser.Foundation

/-- `hmac.new(key, message, hashlib.sha256).hexdigest()`. -/
abbrev Hmac := List UInt8 → List UInt8 → String

/-- `secret.get_secret_value().encode()`. -/
def secretKey (secret : String) : List UInt8 := secret.toUTF8.toList

/-- `b"selkies-controller-v1\0"`. -/
def controllerLabel : List UInt8 :=
  ("selkies-controller-v1".toList.map fun character => UInt8.ofNat character.toNat) ++ [0]

variable (hmac : Hmac) (secret : String)

def deriveMasterToken (participantId : UUID) : String :=
  hmac (secretKey secret) (UUID.bytes participantId)

def deriveControllerToken (participantId : UUID) : String :=
  hmac (secretKey secret) (controllerLabel ++ UUID.bytes participantId)

/-- The messages that are hashed under the orchestration secret. -/
def tokenMessages : Set (List UInt8) :=
  { message | ∃ id, message = UUID.bytes id ∨ message = controllerLabel ++ UUID.bytes id }

variable {hmac secret}

theorem controllerLabel_ne_nil : controllerLabel ≠ [] :=
  List.append_ne_nil_of_right_ne_nil _ (List.cons_ne_nil 0 [])

theorem bytes_mem_tokenMessages (id : UUID) : UUID.bytes id ∈ tokenMessages :=
    ⟨id, Or.inl rfl⟩

theorem labelled_mem_tokenMessages (id : UUID) :
    controllerLabel ++ UUID.bytes id ∈ tokenMessages := ⟨id, Or.inr rfl⟩

theorem deriveControllerToken_injective
    (collisionFree : Set.InjOn (hmac (secretKey secret)) tokenMessages) :
    Function.Injective (deriveControllerToken hmac secret) := by
  intro left right same
  unfold deriveControllerToken at same
  have messages := collisionFree (labelled_mem_tokenMessages left)
    (labelled_mem_tokenMessages right) same
  exact UUID.bytes_injective (List.append_cancel_left messages)

/-- The two kinds of message differ in length. -/
theorem deriveControllerToken_ne_master
    (collisionFree : Set.InjOn (hmac (secretKey secret)) tokenMessages) (left right : UUID) :
    deriveControllerToken hmac secret left ≠ deriveMasterToken hmac secret right := by
  intro same
  unfold deriveControllerToken deriveMasterToken at same
  have messages := collisionFree (labelled_mem_tokenMessages left)
    (bytes_mem_tokenMessages right) same
  have lengths := congrArg List.length messages
  rw [List.length_append, UUID.bytes_length, UUID.bytes_length] at lengths
  exact controllerLabel_ne_nil (List.length_eq_zero_iff.mp (Nat.add_eq_right.mp lengths))

end RetroBrowser.SessionManager
