import RetroBrowser.RuntimeAgent.Models.Runtime

/-!
Owns the documents the agent hands to others: the container payload for the
engine, the route for the reverse proxy and the target for the metrics scraper.
-/

namespace RetroBrowser.RuntimeAgent

open RetroBrowser.Foundation

/-! ## Container payload -/

/-- A mount of type `bind`. -/
structure Mount where
  source : String
  target : String
  readOnly : Bool
deriving DecidableEq, Repr

structure DeviceRequest where
  driver : String
  count : Int
  capabilities : List (List String)
deriving DecidableEq, Repr

structure HostConfig where
  mounts : List Mount
  networkMode : String
  memory : Nat
  nanoCpus : Nat
  pidsLimit : Nat
  shmSize : Nat
  init : Bool
  capDrop : List String
  securityOpt : List String
  privileged : Bool
  deviceRequests : List DeviceRequest
deriving DecidableEq, Repr

structure Healthcheck where
  test : List String
  interval : Nat
  timeout : Nat
  retries : Nat
  startPeriod : Nat
deriving DecidableEq, Repr

structure Payload where
  image : String
  env : List String
  labels : Labels
  exposedPorts : List String
  healthcheck : Healthcheck
  hostConfig : HostConfig
  networks : List String
deriving DecidableEq, Repr

/-! ## Published documents -/

structure Route where
  key : String
  entryPoints : List String
  rule : String
  middlewares : List String
  responseHeaders : List (String × String)
  contentTypeNosniff : Bool
  passHostHeader : Bool
  healthPath : String
  healthInterval : String
  healthTimeout : String
  url : String
deriving DecidableEq, Repr

structure MetricsTarget where
  targets : List String
  labels : Labels
deriving DecidableEq, Repr

/-- What the two registries hold. -/
inductive Document where
  | route (route : Route)
  | target (target : MetricsTarget)
deriving DecidableEq, Repr

end RetroBrowser.RuntimeAgent
