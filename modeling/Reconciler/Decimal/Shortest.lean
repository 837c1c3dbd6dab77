import Reconciler.Decimal.Dyadic

/-!
# The shortest decimal form of a floating-point number

The fewest digits that read back as the same number, the nearest such digits when there are several,
and the layout of the digits: positional for exponents from -4 to 15, scientific elsewhere.
-/

namespace Reconciler.Decimal

/-- The number `digits · 10 ^ exponent`. -/
structure Digits where
  /-- The decimal digits, read as one number. -/
  digits : Nat
  /-- The power of ten of the last digit. -/
  exponent : Int
deriving DecidableEq, Repr

/-- A positive ratio of whole numbers. -/
structure Ratio where
  /-- The numerator. -/
  num : Nat
  /-- The denominator. -/
  den : Nat

namespace Ratio

/-- The exponent of the leading decimal digit of a positive ratio. -/
def magnitude (r : Ratio) : Int :=
  if r.den ≤ r.num then ((Nat.toDigits 10 (r.num / r.den)).length : Int) - 1
  else
    let inverse := r.den / r.num
    let width := (Nat.toDigits 10 inverse).length
    if inverse == Nat.pow 10 (width - 1) && r.den % r.num == 0 then 1 - (width : Int) else -(width : Int)

/-- The ratio divided by a power of ten. -/
def shift (r : Ratio) (exponent : Int) : Ratio :=
  if 0 ≤ exponent then ⟨r.num, r.den * Nat.pow 10 exponent.toNat⟩
  else ⟨r.num * Nat.pow 10 (-exponent).toNat, r.den⟩

end Ratio

/-- The numbers that round to one floating-point number. -/
structure Span where
  /-- The number itself, in quarters of its last place. -/
  value : Nat
  /-- The lower end, in the same unit. -/
  low : Nat
  /-- The upper end, in the same unit. -/
  high : Nat
  /-- The ends belong to the span. -/
  closed : Bool
  /-- The power of two of the unit. -/
  exponent : Int

namespace Span

/-- The span of a positive finite number; below a power of two the neighbours are twice as close. -/
def ofDyadic (x : Dyadic) : Span :=
  let m := x.significand
  let low := if m == leadingBit && x.exponent > -1074 then 4 * m - 1 else 4 * m - 2
  ⟨4 * m, low, 4 * m + 2, m % 2 == 0, x.exponent - 2⟩

/-- A multiple of the unit as a ratio. -/
def ratio (s : Span) (n : Nat) : Ratio :=
  if 0 ≤ s.exponent then ⟨n * Nat.pow 2 s.exponent.toNat, 1⟩ else ⟨n, Nat.pow 2 (-s.exponent).toNat⟩

/-- The span holds `n · 10 ^ exponent`. -/
def holds (s : Span) (exponent : Int) (n : Nat) : Bool :=
  let low := (s.ratio s.low).shift exponent
  let high := (s.ratio s.high).shift exponent
  if s.closed then low.num ≤ n * low.den && n * high.den ≤ high.num
  else low.num < n * low.den && n * high.den < high.num

/-- The nearer of the value's two neighbours on the grid `10 ^ exponent` that the span holds. -/
def neighbour? (s : Span) (exponent : Int) : Option Nat :=
  let value := (s.ratio s.value).shift exponent
  let below := value.num / value.den
  let above := below + 1
  match s.holds exponent below, s.holds exponent above with
  | false, false => none
  | true, false => some below
  | false, true => some above
  | true, true =>
    let twice := 2 * (value.num % value.den)
    if twice < value.den then some below
    else if value.den < twice then some above
    else if below % 2 == 0 then some below
    else some above

end Span

/-- The digits without zeros at their end; the bound is the number of digits. -/
def Digits.strip (d : Digits) : Nat → Digits
  | 0 => d
  | bound + 1 =>
    if d.digits != 0 && d.digits % 10 == 0 then strip ⟨d.digits / 10, d.exponent + 1⟩ bound else d

/-- The fewest digits inside the span, tried from `count` digits on for at most `bound` counts. -/
def fewest (s : Span) (magnitude : Int) : Nat → Nat → Digits
  | count, 0 => ⟨((s.ratio s.value).shift (magnitude - count)).num, magnitude - count⟩
  | count, bound + 1 =>
    let exponent := magnitude + 1 - count
    match s.neighbour? exponent with
    | some n => ⟨n, exponent⟩
    | none => fewest s magnitude (count + 1) bound

/-- The fewest digits that read back as a positive finite number. -/
def shortest (x : Dyadic) : Digits :=
  let s := Span.ofDyadic x
  (fewest s (s.ratio s.value).magnitude 1 17).strip 18

/-- A whole number with a sign and at least two digits. -/
def exponentText (e : Int) : String :=
  let digits := toString e.natAbs
  (if e < 0 then "-" else "+") ++ (if digits.length < 2 then "0" ++ digits else digits)

/-- The layout of digits: positional with a point for exponents from -4 to 15, else scientific. -/
def Digits.text (d : Digits) : String :=
  let digits := Nat.toDigits 10 d.digits
  let leading := d.exponent + digits.length - 1
  if -4 ≤ leading && leading < 16 then
    if 0 ≤ d.exponent then
      String.ofList (digits ++ List.replicate d.exponent.toNat '0') ++ ".0"
    else if 0 ≤ leading then
      let whole := leading.toNat + 1
      String.ofList (digits.take whole) ++ "." ++ String.ofList (digits.drop whole)
    else "0." ++ String.ofList (List.replicate ((-leading).toNat - 1) '0' ++ digits)
  else
    let fraction := digits.drop 1
    String.ofList (digits.take 1) ++
      (if fraction.isEmpty then "" else "." ++ String.ofList fraction) ++ "e" ++ exponentText leading

/-- The shortest decimal form of a floating-point number. -/
def text (x : Float) : String :=
  match read x with
  | .undefined => "nan"
  | .infinite negative => if negative then "-inf" else "inf"
  | .finite value =>
    (if value.negative then "-" else "") ++
      (if value.significand == 0 then "0.0" else (shortest value).text)

end Reconciler.Decimal
