import Mathlib.Logic.Basic

/-!
Owns the errors a Runtime Agent call can raise: the agent's own exception
classes, all subclasses of `RuntimeAgentError`, and the built-in ones its
handlers tell apart.
-/

namespace RetroBrowser.RuntimeAgent

inductive Error where
  | conflict (message : String)
  | notFound (message : String)
  | ownership (message : String)
  | engine (message : String)
  | value (message : String)
  | os (message : String)
  | other (name : String)
deriving DecidableEq, Repr

namespace Error

/-- `isinstance(error, RuntimeAgentError)`. -/
def isRuntimeAgentError : Error → Bool
  | .conflict _ | .notFound _ | .ownership _ | .engine _ => true
  | _ => false

/-- `isinstance(error, NotFoundError)`. -/
def isNotFound : Error → Bool
  | .notFound _ => true
  | _ => false

/-- `isinstance(error, ConflictError)`. -/
def isConflict : Error → Bool
  | .conflict _ => true
  | _ => false

/-- `isinstance(error, OSError)`. -/
def isOSError : Error → Bool
  | .os _ => true
  | _ => false

end Error

end RetroBrowser.RuntimeAgent
