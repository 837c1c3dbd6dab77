import Reconciler.Value.Basic

/-!
# Quantities

Numbers that delays, rates and clock readings are measured in. Programs run on numbers that are whole
or floating-point; the same definitions make sense on exact fractions.
-/

namespace Reconciler

/-- Numbers that times and rates are computed with. -/
class Quantity (α : Type) extends Add α, Sub α, Mul α, Div α, Neg α where
  /-- A whole number as a quantity. -/
  ofInt : Int → α
  /-- The quantity on the scale with fractions. -/
  measured : α → α
  /-- The first quantity is below the second. -/
  below : α → α → Bool
  /-- The first quantity is at most the second. -/
  atMost : α → α → Bool

instance : Quantity Rat where
  ofInt n := n
  measured r := r
  below a b := decide (a < b)
  atMost a b := decide (a ≤ b)

namespace Quantity

variable {α : Type} [Quantity α]

/-- The quantity zero. -/
def zero : α := ofInt 0

/-- The quantity is zero. -/
def isZero (a : α) : Bool :=
  atMost a zero && atMost zero a

/-- The lesser of two quantities, the first when neither is. -/
def least (a b : α) : α :=
  if below b a then b else a

/-- The greater of two quantities, the first when neither is. -/
def greatest (a b : α) : α :=
  if below a b then b else a

end Quantity

/-- A number that is whole or floating-point. -/
inductive Number where
  /-- A whole number. -/
  | whole (n : Int)
  /-- A floating-point number. -/
  | float (x : Float)
deriving Inhabited

namespace Number

/-- The nearest floating-point number. -/
def toFloat : Number → Float
  | .whole n => Decimal.nearestInt n
  | .float x => x

/-- The exact value. -/
def reading : Number → Decimal.Reading
  | .whole n => .finite (.ofInt n)
  | .float x => Decimal.read x

/-- The number as an untyped value. -/
def toValue : Number → Value
  | .whole n => .int n
  | .float x => .float x

/-- The number that an untyped value is. -/
def ofValue? : Value → Option Number
  | .int n => some (.whole n)
  | .float x => some (.float x)
  | .bool b => some (.whole (if b then 1 else 0))
  | _ => none

/-- An operation on whole numbers, and on floating-point numbers when one of the two is. -/
def combine (whole : Int → Int → Int) (float : Float → Float → Float) : Number → Number → Number
  | .whole a, .whole b => .whole (whole a b)
  | a, b => .float (float a.toFloat b.toFloat)

/-- The order of the exact values is one of the given ones. -/
def ordered (orders : List Ordering) (a b : Number) : Bool :=
  match a.reading.compare? b.reading with
  | some order => orders.contains order
  | none => false

instance : Quantity Number where
  add := combine (· + ·) (· + ·)
  sub := combine (· - ·) (· - ·)
  mul := combine (· * ·) (· * ·)
  div a b := .float (a.toFloat / b.toFloat)
  neg
    | .whole n => .whole (-n)
    | .float x => .float (-x)
  ofInt := .whole
  measured a := .float a.toFloat
  below := ordered [.lt]
  atMost := ordered [.lt, .eq]

end Number

end Reconciler
