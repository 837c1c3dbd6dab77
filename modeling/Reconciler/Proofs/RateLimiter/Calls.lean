import Mathlib.Algebra.Order.Field.Rat
import Reconciler.RateLimiter

/-!
# Calls of a rate limiter

Waits are asked for and items are forgotten in any order.  What a limiter answers is told by the state that
the calls before have left behind, so that a run of calls gives one grant for each wait.
-/

namespace Reconciler

/-- Among exact fractions, the lesser of two is their minimum. -/
theorem Quantity.least_rat (a b : ℚ) : least a b = min a b := by
  rw [min_comm, min_def_lt]
  unfold least
  simp only [below, decide_eq_true_eq]

namespace RateLimiter

variable {ι α : Type}

/-- A call that changes a limiter. -/
inductive Call (ι α : Type) where
  /-- A wait for an item is asked for, at a time. -/
  | wait (now : α) (item : ι)
  /-- An item is forgotten. -/
  | forget (item : ι)

namespace Call

/-- The item that a call is about. -/
def item : Call ι α → ι
  | .wait _ item => item
  | .forget item => item

/-- The time at which a wait is asked for. -/
def time? : Call ι α → Option α
  | .wait now _ => some now
  | .forget _ => none

end Call

/-- A wait that was asked for, and what was answered. -/
structure Grant (ι α : Type) where
  /-- The item. -/
  item : ι
  /-- The time of the call. -/
  time : α
  /-- The answer. -/
  delay : Except Failure α

variable [Quantity α]

/-- The time at which the granted wait is over. -/
def Grant.release (grant : Grant ι α) : Except Failure α :=
  grant.delay.map (grant.time + ·)

variable [BEq ι]

/-- The limiter after a call. -/
def apply (limiter : RateLimiter ι α) : Call ι α → RateLimiter ι α
  | .wait now item => (limiter.wait now item).2
  | .forget item => limiter.forget item

/-- The limiter after some calls. -/
def run (limiter : RateLimiter ι α) (calls : List (Call ι α)) : RateLimiter ι α :=
  calls.foldl apply limiter

theorem run_concat (limiter : RateLimiter ι α) (calls : List (Call ι α)) (call : Call ι α) :
    limiter.run (calls ++ [call]) = (limiter.run calls).apply call := by
  simp [run]

/-- The waits that are granted during some calls, in order. -/
def grants (limiter : RateLimiter ι α) : List (Call ι α) → List (Grant ι α)
  | [] => []
  | .wait now item :: rest =>
    ⟨item, now, (limiter.wait now item).1⟩ :: (limiter.apply (.wait now item)).grants rest
  | .forget item :: rest => (limiter.apply (.forget item)).grants rest

end RateLimiter

end Reconciler
