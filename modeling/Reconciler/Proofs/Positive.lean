import Mathlib.Algebra.Order.Ring.Int
import Reconciler.Quantity

/-!
# Numbers above zero

Numbers are compared by their exact values, so what is above a number above zero is above zero too,
whether the numbers are whole or floating-point.
-/

namespace Reconciler

namespace Decimal

namespace Dyadic

theorem scale_pos (n : Nat) : (0 : Int) < Nat.pow 2 n :=
  Int.natCast_pos.mpr (Nat.pow_pos (by decide))

theorem signed_pos_of_compare {x y : Dyadic} (less : x.compare y = .lt)
    (x_nonneg : 0 ≤ x.signed) : 0 < y.signed := by
  have scaled := Int.compare_eq_lt.mp less
  exact pos_of_mul_pos_left
    ((Int.mul_nonneg x_nonneg (scale_pos _).le).trans_lt scaled) (scale_pos _).le

theorem compare_zero_left {y : Dyadic} (y_pos : 0 < y.signed) :
    (ofInt 0).compare y = .lt := by
  refine Int.compare_eq_lt.mpr ?_
  rw [show (ofInt 0).signed = 0 from rfl, Int.zero_mul]
  exact Int.mul_pos y_pos (scale_pos _)

theorem compare_zero_right {y : Dyadic} (y_pos : 0 < y.signed) :
    y.compare (ofInt 0) = .gt := by
  refine Int.compare_eq_gt.mpr ?_
  rw [show (ofInt 0).signed = 0 from rfl, Int.zero_mul]
  exact Int.mul_pos y_pos (scale_pos _)

end Dyadic

/-- The reading is above zero. -/
def Reading.IsPositive : Reading → Prop
  | .undefined => False
  | .infinite negative => negative = false
  | .finite x => 0 < x.signed

namespace Reading

theorem compare_zero_left_iff (r : Reading) :
    (finite (.ofInt 0)).compare? r = some .lt ↔ r.IsPositive := by
  cases r with
  | undefined => simp [compare?, IsPositive]
  | infinite negative => cases negative <;> simp [compare?, IsPositive]
  | finite y =>
      simp only [compare?, Option.some.injEq, IsPositive]
      exact ⟨fun less => Dyadic.signed_pos_of_compare less (by decide),
        Dyadic.compare_zero_left⟩

theorem IsPositive.compare_zero_right {r : Reading} (positive : r.IsPositive) :
    r.compare? (finite (.ofInt 0)) = some .gt := by
  cases r with
  | undefined => exact positive.elim
  | infinite negative =>
      rw [show negative = false from positive]
      rfl
  | finite y => exact congrArg some (Dyadic.compare_zero_right positive)

theorem IsPositive.of_less {r t : Reading} (positive : r.IsPositive)
    (less : r.compare? t = some .lt) : t.IsPositive := by
  cases r with
  | undefined => exact positive.elim
  | infinite negative =>
      rw [show negative = false from positive] at less
      cases t with
      | undefined => simp [compare?] at less
      | infinite other => cases other <;> simp [compare?] at less
      | finite y => simp [compare?] at less
  | finite x =>
      cases t with
      | undefined => simp [compare?] at less
      | infinite other => cases other <;> simp_all [compare?, IsPositive]
      | finite y =>
          exact Dyadic.signed_pos_of_compare (Option.some.inj less) (Int.le_of_lt positive)

end Reading

end Decimal

namespace Number

theorem below_iff (a b : Number) :
    Quantity.below a b = true ↔ a.reading.compare? b.reading = some .lt := by
  change ordered [.lt] a b = true ↔ _
  unfold ordered
  cases a.reading.compare? b.reading with
  | none => simp
  | some order => cases order <;> simp

theorem zero_below_iff (a : Number) :
    Quantity.below Quantity.zero a = true ↔ a.reading.IsPositive := by
  rw [below_iff]
  exact a.reading.compare_zero_left_iff

theorem zero_below_of_below {a b : Number} (positive : Quantity.below Quantity.zero a = true)
    (less : Quantity.below a b = true) : Quantity.below Quantity.zero b = true := by
  rw [zero_below_iff] at positive ⊢
  exact positive.of_less ((below_iff a b).mp less)

/-- What is above zero is not at most zero. -/
theorem not_atMost_zero {a : Number} (positive : Quantity.below Quantity.zero a = true) :
    Quantity.atMost a Quantity.zero = false := by
  rw [zero_below_iff] at positive
  change ordered [.lt, .eq] a (.whole 0) = false
  unfold ordered
  rw [show (Number.whole 0).reading = .finite (.ofInt 0) from rfl, positive.compare_zero_right]
  rfl

theorem greatest_positive {a : Number} (b : Number)
    (positive : Quantity.below Quantity.zero a = true) :
    Quantity.below Quantity.zero (Quantity.greatest a b) = true := by
  unfold Quantity.greatest
  split
  · exact zero_below_of_below positive ‹_›
  · exact positive

end Number

end Reconciler
