import Mathlib.Algebra.Order.Field.Power
import Mathlib.Algebra.Order.Field.Rat
import Mathlib.Data.Int.CharZero
import Mathlib.Data.List.Pairwise
import Reconciler.Proofs.Value.Merge

/-!
# Equal numbers, keys and values

Numbers are compared by their exact values, so that being the same key is an equivalence of scalars,
whatever mix of truth values, whole numbers and floating-point numbers they are.  A value in which no
number is undefined equals itself.
-/

namespace Reconciler

namespace Decimal

namespace Dyadic

/-- The number as a fraction. -/
def toRat (x : Dyadic) : Rat :=
  x.signed * 2 ^ x.exponent

theorem scaled_eq (x : Dyadic) {least : Int} (le : least ≤ x.exponent) :
    ((x.signed * Nat.pow 2 (x.exponent - least).toNat : Int) : Rat) * 2 ^ least = x.toRat := by
  obtain ⟨steps, here⟩ : ∃ steps : Nat, x.exponent = steps + least := ⟨(x.exponent - least).toNat, by omega⟩
  rw [toRat, here, Int.add_sub_cancel, Int.toNat_natCast, zpow_add₀ two_ne_zero, zpow_natCast, ← mul_assoc]
  rw [Int.cast_mul, show Nat.pow 2 steps = 2 ^ steps from rfl]
  push_cast
  rfl

/-- Two numbers are compared as equal exactly where their values are. -/
theorem compare_eq_iff (x y : Dyadic) : x.compare y = .eq ↔ x.toRat = y.toRat := by
  rw [compare, compare_eq_iff_eq, ← x.scaled_eq (min_le_left ..), ← y.scaled_eq (min_le_right ..),
    mul_left_inj' (zpow_ne_zero _ two_ne_zero), Int.cast_inj]

theorem toRat_ofInt (n : Int) : (ofInt n).toRat = n := by
  have signed_eq : (ofInt n).signed = n := by
    by_cases negative : n < 0
    · simp only [ofInt, signed, negative, decide_true, if_true]
      omega
    · simp only [ofInt, signed, negative, decide_false, Bool.false_eq_true, if_false]
      omega
  rw [toRat, signed_eq]
  simp [ofInt]

end Dyadic

namespace Reading

/-- The amount that a reading states: an infinity below or above zero, or a fraction. -/
def amount? : Reading → Option (Bool ⊕ Rat)
  | .undefined => none
  | .infinite negative => some (.inl negative)
  | .finite x => some (.inr x.toRat)

/-- Two readings are compared as equal exactly where they state the same amount. -/
theorem compare?_eq_iff {a b : Reading} :
    a.compare? b = some .eq ↔ ∃ amount, a.amount? = some amount ∧ b.amount? = some amount := by
  cases a with
  | undefined => simp [compare?, amount?]
  | infinite negative =>
      cases b with
      | undefined => simp [compare?, amount?]
      | infinite other => cases negative <;> cases other <;> simp [compare?, amount?]
      | finite y => cases negative <;> simp [compare?, amount?]
  | finite x =>
      cases b with
      | undefined => simp [compare?, amount?]
      | infinite other => cases other <;> simp [compare?, amount?]
      | finite y =>
          rw [compare?, Option.some.injEq, x.compare_eq_iff]
          simp [amount?, eq_comm]

theorem compare?_ofInt_iff {m n : Int} :
    (finite (.ofInt m)).compare? (finite (.ofInt n)) = some .eq ↔ m = n := by
  simp [compare?, Dyadic.compare_eq_iff, Dyadic.toRat_ofInt]

theorem compare?_self {a : Reading} (defined : a ≠ .undefined) : a.compare? a = some .eq := by
  rw [compare?_eq_iff]
  cases a with
  | undefined => contradiction
  | infinite negative => exact ⟨_, rfl, rfl⟩
  | finite x => exact ⟨_, rfl, rfl⟩

end Reading

end Decimal

namespace Scalar

/-! ## Keys -/

/-- The amount that a scalar states. -/
def amount? (s : Scalar) : Option (Bool ⊕ Rat) :=
  s.reading?.bind Decimal.Reading.amount?

/-- The scalar as it is written: of a floating-point number its bits. -/
def written : Scalar → UInt64 ⊕ Scalar
  | .float x => .inl x.toBits
  | s => .inr s

theorem amount?_congr {a b : Scalar} (same : a.written = b.written) : a.amount? = b.amount? := by
  cases a <;> cases b <;> simp_all [written, amount?, reading?, Decimal.read]

theorem compare?_reading_iff {a b : Scalar} :
    (match a.reading?, b.reading? with
      | some x, some y => x.compare? y == some .eq
      | _, _ => false) = true ↔ ∃ amount, a.amount? = some amount ∧ b.amount? = some amount := by
  unfold amount?
  cases a.reading? <;> cases b.reading? <;> simp [Decimal.Reading.compare?_eq_iff]

/-- Scalars are the same key when they are written alike or state the same amount. -/
theorem sameKey_iff {a b : Scalar} :
    a.sameKey b = true ↔
      a.written = b.written ∨ ∃ amount, a.amount? = some amount ∧ b.amount? = some amount := by
  rw [← compare?_reading_iff]
  unfold sameKey
  cases a <;> cases b <;>
    simp [equalBy, written, reading?, Decimal.equal, Decimal.Reading.compare?_ofInt_iff]
  case bool.bool a b => cases a <;> cases b <;> simp

theorem sameKey_comm (a b : Scalar) : a.sameKey b = b.sameKey a := by
  rw [Bool.eq_iff_iff, sameKey_iff, sameKey_iff, eq_comm]
  simp only [and_comm]

theorem sameKey_trans {a b c : Scalar} (first : a.sameKey b = true) (second : b.sameKey c = true) :
    a.sameKey c = true := by
  rw [sameKey_iff] at first second ⊢
  rcases first with alike | ⟨amount, a_amount, b_amount⟩
  · rcases second with alike' | ⟨amount, b_amount, c_amount⟩
    · exact .inl (alike.trans alike')
    · exact .inr ⟨amount, (amount?_congr alike).trans b_amount, c_amount⟩
  · rcases second with alike | ⟨other, b_other, c_other⟩
    · exact .inr ⟨amount, a_amount, (amount?_congr alike).symm.trans b_amount⟩
    · obtain rfl := Option.some.inj (b_amount.symm.trans b_other)
      exact .inr ⟨amount, a_amount, c_other⟩

end Scalar

namespace Fields

variable {fields : Fields} {key other : Scalar} {value : Value}

/-- A map has a key when one of its keys is the same. -/
theorem has_iff : has key fields = true ↔ ∃ entry ∈ fields, entry.1.sameKey key = true := by
  rw [has_eq_any, List.any_eq_true]

/-- Entries of a map with the same key are one entry. -/
theorem Distinct.eq_of_sameKey (distinct : fields.Distinct) {a b : Scalar × Value} (a_mem : a ∈ fields)
    (b_mem : b ∈ fields) (same : a.1.sameKey b.1 = true) : a = b := by
  have symmetric : Std.Symm fun a b : Scalar × Value => a.1.sameKey b.1 = false :=
    ⟨fun a b apart => (Scalar.sameKey_comm b.1 a.1).trans apart⟩
  by_contra apart
  have missed : a.1.sameKey b.1 = false := List.Pairwise.forall distinct a_mem b_mem apart
  rw [same] at missed
  contradiction

end Fields

/-! ## Values -/

/-- No number in the value is undefined. -/
inductive Value.Defined : Value → Prop where
  /-- A scalar is no undefined number. -/
  | scalar {s : Scalar} (defined : ∀ x, s = .float x → Decimal.read x ≠ .undefined) : Defined (.scalar s)
  /-- All items of the list are defined. -/
  | list {items : List Value} (parts : ∀ item ∈ items, Defined item) : Defined (.list items)
  /-- All values of the map are defined. -/
  | map {fields : Fields} (parts : ∀ entry ∈ fields, Defined entry.2) : Defined (.map fields)

theorem Scalar.equalBy_self {s : Scalar} (defined : ∀ x, s = .float x → Decimal.read x ≠ .undefined) :
    s.equalBy Decimal.equal s = true := by
  cases s with
  | float x => simp [equalBy, Decimal.equal, Decimal.Reading.compare?_self (defined x rfl)]
  | _ => simp [equalBy]

/-- A value in which no number is undefined equals itself. -/
theorem Value.Proper.equal_self {v : Value} (proper : v.Proper) (defined : v.Defined) :
    v.equal v = true := by
  unfold Value.equal
  induction proper with
  | scalar s =>
      cases defined with
      | scalar defined =>
          unfold equalBy
          exact Scalar.equalBy_self defined
  | list _ ih =>
      cases defined with
      | list parts =>
          unfold equalBy
          exact equalItems_self fun item member => ih item member (parts item member)
  | @map fields keys _ ih =>
      cases defined with
      | map parts =>
          unfold equalBy
          rw [beq_self_eq_true, Bool.true_and, equalEntries_iff]
          exact fun entry member =>
            ⟨entry.2, Fields.find?_of_mem keys member, ih entry member (parts entry member)⟩

end Reconciler
