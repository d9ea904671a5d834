import Mathlib.Algebra.Order.Floor.Semiring
import Mathlib.Tactic.Linarith

/-!
Owns the arithmetic of polling under a deadline. A poller reads a clock, gives
up when the deadline is reached, and otherwise pauses for a fixed interval or
for the rest of the time, whichever is shorter. Contract: a clock that moves on
by each pause leaves room for no more rounds than intervals fit in, rounded up.
-/

namespace RetroBrowser.Foundation

variable {α : Type*} [Field α] [LinearOrder α] [IsStrictOrderedRing α]

/-- Every pause before the last round lasted the full interval: a shortened one
reaches the deadline. -/
theorem reading_ge_of_paused {reading : Nat → α} {interval deadline : α} {rounds : Nat}
    (early : ∀ round < rounds, reading round < deadline)
    (advances : ∀ round, round + 1 < rounds →
      reading round + min interval (deadline - reading round) ≤ reading (round + 1))
    {round : Nat} (within : round < rounds) : reading 0 + round * interval ≤ reading round := by
  induction round with
  | zero => simp
  | succ round inductionHypothesis =>
      have before := inductionHypothesis (by omega)
      have moved := advances round within
      have inTime := early (round + 1) within
      have full : min interval (deadline - reading round) = interval := by
        apply min_eq_left
        by_contra short
        rw [min_eq_right (le_of_not_ge short)] at moved
        linarith
      rw [full] at moved
      push_cast
      linarith

/-- The number of rounds that find the deadline ahead. -/
theorem rounds_le_ceil [FloorSemiring α] {reading : Nat → α} {interval deadline : α}
    {rounds : Nat} (positive : 0 < interval) (early : ∀ round < rounds, reading round < deadline)
    (advances : ∀ round, round + 1 < rounds →
      reading round + min interval (deadline - reading round) ≤ reading (round + 1)) :
    rounds ≤ ⌈(deadline - reading 0) / interval⌉₊ := by
  cases rounds with
  | zero => exact Nat.zero_le _
  | succ last =>
      have reached := reading_ge_of_paused early advances (Nat.lt_succ_self last)
      have inTime := early last (Nat.lt_succ_self last)
      apply Nat.succ_le_of_lt
      apply Nat.lt_ceil.mpr
      rw [lt_div_iff₀ positive]
      linarith

end RetroBrowser.Foundation
