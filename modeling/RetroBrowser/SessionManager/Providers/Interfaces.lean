import RetroBrowser.SessionManager.Models.Domain

/-!
Owns what crosses the provider boundary: the runtime request, whose fields are
all chosen by the service, and the runtime handle it gets back.
-/

namespace RetroBrowser.SessionManager

open RetroBrowser.Foundation

inductive Role where
  | host | client
deriving DecidableEq, Repr

inductive HealthStatus where
  | none | starting | healthy | unhealthy
deriving DecidableEq, Repr

structure RuntimeRequest where
  sessionId : UUID
  participantId : UUID
  userId : String
  playerName : String
  romPath : String
  romSha256 : String
  coreProfile : String
  role : Role
  hostParticipantId : Option UUID
deriving DecidableEq, Repr

/-- The field constraints of the request. -/
def RuntimeRequest.valid (request : RuntimeRequest) : Bool :=
  safeUserId request.userId && lengthBetween 1 31 request.playerName &&
    lengthBetween 1 4096 request.romPath && sha256Text request.romSha256 &&
    slug request.coreProfile

structure RuntimeHandle where
  runtimeId : UUID
  state : String
  healthStatus : HealthStatus
deriving DecidableEq, Repr

/-- `state == "running" and health_status == "healthy"`. -/
def RuntimeHandle.ready (handle : RuntimeHandle) : Bool :=
  handle.state == "running" && handle.healthStatus == .healthy

end RetroBrowser.SessionManager
