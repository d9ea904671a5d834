import Mathlib.Logic.Relation
import RetroBrowser.SessionManager.Errors

/-!
Owns the lobby and participant state machines: the states, the two transition
tables and the checks that raise on a transition outside them.
-/

namespace RetroBrowser.SessionManager

inductive SessionState where
  | creating | starting | open | running | draining | closed | error
deriving DecidableEq, Repr

inductive ParticipantState where
  | allocating | starting | streamReady | netplayConnecting | active | leaving | left | error
deriving DecidableEq, Repr

namespace SessionState

/-- The value of the string enumeration. -/
def value : SessionState → String
  | .creating => "CREATING"
  | .starting => "STARTING"
  | .open => "OPEN"
  | .running => "RUNNING"
  | .draining => "DRAINING"
  | .closed => "CLOSED"
  | .error => "ERROR"

end SessionState

namespace ParticipantState

/-- The value of the string enumeration. -/
def value : ParticipantState → String
  | .allocating => "ALLOCATING"
  | .starting => "STARTING"
  | .streamReady => "STREAM_READY"
  | .netplayConnecting => "NETPLAY_CONNECTING"
  | .active => "ACTIVE"
  | .leaving => "LEAVING"
  | .left => "LEFT"
  | .error => "ERROR"

/-- `state in {LEFT, ERROR}`. -/
def terminal : ParticipantState → Bool
  | .left | .error => true
  | _ => false

/-- A startup that has not reached `ACTIVE` yet. -/
def halfStarted : ParticipantState → Bool
  | .allocating | .starting | .streamReady | .netplayConnecting => true
  | _ => false

end ParticipantState

def sessionTransitions : SessionState → List SessionState
  | .creating => [.starting, .open, .closed, .error]
  | .starting => [.open, .closed, .error]
  | .open => [.running, .draining, .closed, .error]
  | .running => [.draining, .closed, .error]
  | .draining => [.closed, .error]
  | .closed => []
  | .error => [.draining, .closed]

def participantTransitions : ParticipantState → List ParticipantState
  | .allocating => [.starting, .active, .error]
  | .starting => [.streamReady, .active, .error]
  | .streamReady => [.netplayConnecting, .active, .error]
  | .netplayConnecting => [.active, .error]
  | .active => [.leaving, .error]
  | .leaving => [.left, .error]
  | .left => []
  | .error => [.leaving, .left]

def requireSessionTransition (current target : SessionState) : Except Error Unit :=
  if target ∈ sessionTransitions current then .ok ()
  else .error (.conflict s!"invalid session transition: {current.value} -> {target.value}")

def requireParticipantTransition (current target : ParticipantState) : Except Error Unit :=
  if target ∈ participantTransitions current then .ok ()
  else .error (.conflict s!"invalid participant transition: {current.value} -> {target.value}")

/-- An edge of the session table. -/
def SessionState.Edge (current target : SessionState) : Prop :=
  target ∈ sessionTransitions current

/-- An edge of the participant table. -/
def ParticipantState.Edge (current target : ParticipantState) : Prop :=
  target ∈ participantTransitions current

/-- Any number of edges of the participant table. -/
def ParticipantState.Moves : ParticipantState → ParticipantState → Prop :=
  Relation.ReflTransGen ParticipantState.Edge

instance : DecidableRel SessionState.Edge := fun current target =>
  inferInstanceAs (Decidable (target ∈ sessionTransitions current))

instance : DecidableRel ParticipantState.Edge := fun current target =>
  inferInstanceAs (Decidable (target ∈ participantTransitions current))

/-- Every live lobby may close. -/
theorem SessionState.edge_closed {state : SessionState} (live : state ≠ .closed) :
    state.Edge .closed := by
  cases state <;> first | exact absurd rfl live | decide

theorem requireSessionTransition_ok {current target : SessionState}
    (edge : current.Edge target) : requireSessionTransition current target = .ok () :=
  if_pos edge

theorem ParticipantState.Moves.single {current target : ParticipantState}
    (edge : current.Edge target) : current.Moves target :=
  Relation.ReflTransGen.single edge

/-- A player leaves by way of `LEAVING`, which is never stored. -/
theorem ParticipantState.moves_active_left : ParticipantState.active.Moves .left :=
  Relation.ReflTransGen.tail (.single (show Edge .active .leaving by decide))
    (show Edge .leaving .left by decide)

/-- No startup begins twice. -/
theorem ParticipantState.Moves.not_halfStarted {before after : ParticipantState}
    (moves : before.Moves after) (past : before.halfStarted = false) :
    after.halfStarted = false := by
  have step : ∀ current target : ParticipantState, current.Edge target →
      current.halfStarted = false → target.halfStarted = false := by
    intro current target
    cases current <;> cases target <;> decide
  induction moves with
  | refl => exact past
  | tail _ edge inductionHypothesis => exact step _ _ edge inductionHypothesis

end RetroBrowser.SessionManager
