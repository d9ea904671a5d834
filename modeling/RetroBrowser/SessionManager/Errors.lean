import Mathlib.Logic.Basic

/-!
Owns the errors a Session Manager call can raise: the service's own exception
classes, and the built-in and foreign ones its handlers tell apart.
`CapacityError` and `RepositoryConflict` are subclasses of `ConflictError`.
-/

namespace RetroBrowser.SessionManager

inductive Error where
  | notFound (message : String)
  | authorization (message : String)
  | conflict (message : String)
  | capacity (message : String)
  | repositoryConflict (message : String)
  | orchestration (message : String)
  | key
  | value (message : String)
  | stopIteration
  | other (name : String)
deriving DecidableEq, Repr

namespace Error

/-- `isinstance(error, OrchestrationError)`. -/
def isOrchestration : Error → Bool
  | .orchestration _ => true
  | _ => false

end Error

end RetroBrowser.SessionManager
