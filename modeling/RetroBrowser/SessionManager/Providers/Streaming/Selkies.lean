import RetroBrowser.SessionManager.Errors
import RetroBrowser.SessionManager.Security.Tokens
import RetroBrowser.SessionManager.World

/-!
Owns the Selkies stream provider: each operation replaces the tokens of one
runtime through its private token API. `requester` stands for that API, which
answers with a status or raises.
-/

namespace RetroBrowser.SessionManager

open RetroBrowser.Foundation

structure SelkiesStreamProviderConfig where
  orchestrationSecret : String
  port : Nat
deriving DecidableEq, Repr

/-- The scope of one controller token. -/
structure TokenScope where
  role : String
  slot : Nat
  mkControl : Bool
deriving DecidableEq, Repr

abbrev SelkiesRequester :=
  String → String → List (String × String) → List (String × TokenScope) → Except Error Int

structure SelkiesStreamProvider where
  hmac : Hmac
  config : SelkiesStreamProviderConfig

namespace SelkiesStreamProvider

variable (provider : SelkiesStreamProvider) (requester : SelkiesRequester)

def containerName (participantId : UUID) : String :=
  "retrobrowser-runtime-" ++ UUID.hex participantId

def path (participantId : UUID) : String := "/stream/" ++ UUID.hex participantId ++ "/api/tokens"

def replace (participantId : UUID) (tokens : List (String × TokenScope)) : Except Error Unit := do
  let masterToken :=
    deriveMasterToken provider.hmac provider.config.orchestrationSecret participantId
  let status ← requester (containerName participantId ++ ":" ++ toString provider.config.port)
    (path participantId)
    [("Authorization", "Bearer " ++ masterToken), ("Content-Type", "application/json")] tokens
  if status < 200 ∨ 300 ≤ status then
    throw (.orchestration
      ("Selkies token API rejected the operation with HTTP " ++ toString status))
  else pure ()

def provision (participantId : UUID) (gamepadSlot : Nat) : Except Error String :=
  if gamepadSlot < 1 ∨ 4 < gamepadSlot then
    throw (.value "Selkies gamepad slot must be between 1 and 4")
  else do
    let token :=
      deriveControllerToken provider.hmac provider.config.orchestrationSecret participantId
    provider.replace requester participantId [(token, ⟨"controller", gamepadSlot, true⟩)]
    pure token

def revoke (participantId : UUID) : Except Error Unit :=
  provider.replace requester participantId []

variable {provider requester}

/-- What a provision that worked answers is the participant's own token. -/
theorem provision_ok {participantId : UUID} {gamepadSlot : Nat} {token : String}
    (answer : provider.provision requester participantId gamepadSlot = .ok token) :
    token =
      deriveControllerToken provider.hmac provider.config.orchestrationSecret participantId := by
  unfold provision at answer
  split_ifs at answer
  dsimp only at answer
  generalize provider.replace requester participantId _ = replaced at answer
  cases replaced with
  | error error => cases answer
  | ok _ => exact (Except.ok.inj answer).symm

end SelkiesStreamProvider

/-- The stream calls of an operation go to this provider: a provision that does
not raise answers what the provider returns for some behaviour of the token API. -/
def Dependencies.StreamsBy (dependencies : Dependencies) (provider : SelkiesStreamProvider) :
    Prop :=
  ∀ index participantId gamepadSlot, 1 ≤ gamepadSlot → gamepadSlot ≤ 4 →
    dependencies.fault index (.streamProvision participantId gamepadSlot) = none →
      ∃ requester, provider.provision requester participantId gamepadSlot =
        .ok (dependencies.controllerToken index participantId)

end RetroBrowser.SessionManager
