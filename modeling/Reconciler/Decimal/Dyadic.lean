/-!
# Binary fractions

The exact value of a binary floating-point number, its whole part, and exact comparison with whole
numbers and with other such numbers.
-/

namespace Reconciler.Decimal

/-- The number `± significand · 2 ^ exponent`. -/
structure Dyadic where
  /-- The number is below zero, or the negative zero. -/
  negative : Bool
  /-- The significand without its sign. -/
  significand : Nat
  /-- The power of two that scales the significand. -/
  exponent : Int
deriving DecidableEq, Repr

/-- What the bits of a floating-point number stand for. -/
inductive Reading where
  /-- No number. -/
  | undefined
  /-- An infinity. -/
  | infinite (negative : Bool)
  /-- A finite number. -/
  | finite (value : Dyadic)
deriving DecidableEq, Repr

/-- The bit above the fraction: the leading bit of a significand of full width. -/
def leadingBit : Nat :=
  0x10000000000000

/-- The reading of a floating-point number from its sign, exponent and fraction bits. -/
def read (x : Float) : Reading :=
  let bits := x.toBits.toNat
  let negative := bits / 0x8000000000000000 % 2 == 1
  let scale := bits / leadingBit % 0x800
  let fraction := bits % leadingBit
  if scale == 0x7FF then
    if fraction == 0 then .infinite negative else .undefined
  else if scale == 0 then .finite ⟨negative, fraction, -1074⟩
  else .finite ⟨negative, leadingBit + fraction, Int.ofNat scale - 1075⟩

namespace Dyadic

/-- The significand with the sign of the number. -/
def signed (x : Dyadic) : Int :=
  if x.negative then -(x.significand : Int) else x.significand

/-- The whole part: the fraction is dropped toward zero. -/
def truncate (x : Dyadic) : Int :=
  if 0 ≤ x.exponent then x.signed * Nat.pow 2 x.exponent.toNat
  else Int.tdiv x.signed (Nat.pow 2 (-x.exponent).toNat)

/-- The order of two numbers, by their exact values. -/
def compare (x y : Dyadic) : Ordering :=
  let least := min x.exponent y.exponent
  Ord.compare (x.signed * Nat.pow 2 (x.exponent - least).toNat)
    (y.signed * Nat.pow 2 (y.exponent - least).toNat)

/-- A whole number as a binary fraction. -/
def ofInt (n : Int) : Dyadic :=
  ⟨n < 0, n.natAbs, 0⟩

end Dyadic

/-- The order of two readings; nothing is ordered beside an undefined number. -/
def Reading.compare? : Reading → Reading → Option Ordering
  | .undefined, _ | _, .undefined => none
  | .infinite a, .infinite b => some (Ord.compare b a)
  | .infinite a, .finite _ => some (if a then .lt else .gt)
  | .finite _, .infinite b => some (if b then .gt else .lt)
  | .finite x, .finite y => some (x.compare y)

/-- The floating-point number nearest to `± significand · 10 ^ exponent`. -/
def nearest (negative : Bool) (significand : Nat) (exponent : Int) : Float :=
  let magnitude : Float :=
    if significand == 0 then 0.0
    else
      let digits := ((Nat.toDigits 10 significand).length : Int)
      if digits + exponent > 400 then Float.ofBits 0x7FF0000000000000
      else if digits + exponent < -400 then 0.0
      else Float.ofScientific significand (exponent < 0) exponent.natAbs
  if negative then -magnitude else magnitude

/-- The floating-point number nearest to a whole number. -/
def nearestInt (n : Int) : Float :=
  nearest (n < 0) n.natAbs 0

/-- The floating-point number is not a number. -/
def isUndefined (x : Float) : Bool :=
  read x == .undefined

/-- The numbers are equal; the zeros of both signs are, an undefined number equals nothing. -/
def equal (x y : Float) : Bool :=
  (read x).compare? (read y) == some .eq

/-- The floating-point number equals a whole number exactly. -/
def equalInt (x : Float) (n : Int) : Bool :=
  (read x).compare? (.finite (.ofInt n)) == some .eq

end Reconciler.Decimal
