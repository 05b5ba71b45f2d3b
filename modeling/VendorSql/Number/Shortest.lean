import VendorSql.Number.Binary64

/-!
# The shortest decimal of a floating-point number

A finite number is written with the fewest significant digits that are nearer to it than to any
other number, and of those with the ones nearest to it. For a count of digits only the two decimals
around the number have to be tried: if any decimal of that count lies in the interval that rounds to
the number, one of these two does.
-/
namespace VendorSql

open Number (tenTo twoTo)

namespace Binary64

/-- A decimal `digits · 10 ^ exponent`. -/
structure Decimal where
  digits : Nat
  exponent : Int
  deriving Repr, DecidableEq

/-- The decimals that round to a number, as `low / unit` to `high / unit` around `middle / unit`;
the ends belong to it if `closed`. -/
structure Interval where
  low : Nat
  middle : Nat
  high : Nat
  unit : Nat
  closed : Bool

/-- The interval of the reals that round to a positive finite number. The distance to the next
smaller number is half as long where the exponent changes. -/
def interval (x : Binary64) : Interval :=
  let step := twoTo x.scale
  let below := if x.fractionField = 0 ∧ 1 < x.exponentField then 1 else 2
  { low := (4 * x.significand - below) * step
    middle := 4 * x.significand * step
    high := (4 * x.significand + 2) * step
    -- Quarters of the smallest step, so that both halves of a step are integers.
    unit := twoTo 1076
    closed := x.significand % 2 = 0 }

def Interval.holds (i : Interval) (digits scale : Nat) : Bool :=
  let value := digits * scale
  if i.closed then i.low ≤ value && value ≤ i.high else i.low < value && value < i.high

/-- The better of the two multiples of `scale` around the number, if one lies in the interval: the
nearer one, the even one if they are equally near. -/
def Interval.nearest? (i : Interval) (scale : Nat) : Option Nat :=
  let digits := i.middle / scale
  let rest := i.middle % scale
  match i.holds digits scale, i.holds (digits + 1) scale with
  | true, true =>
    if 2 * rest < scale ∨ 2 * rest = scale ∧ digits % 2 = 0 then some digits else some (digits + 1)
  | true, false => some digits
  | false, true => some (digits + 1)
  | false, false => none

/-- The number of decimal places raised by 400 at which the first digit of the number stands: the
greatest `p` below the bound with `10 ^ p ≤ middle · 10 ^ 400 / unit`. -/
def Interval.leading (i : Interval) : Nat → Nat
  | 0 => 0
  | p + 1 => if i.unit * tenTo (p + 1) ≤ i.middle * tenTo 400 then p + 1 else i.leading p

/-- The first hit on the grids of `place`, `place - 1`, … of which there are `count`. Places are
raised by 400. -/
def Interval.search (i : Interval) (place : Nat) : Nat → Option Decimal
  | 0 => none
  | count + 1 =>
    let raised : Interval :=
      { i with
        low := i.low * tenTo 400
        middle := i.middle * tenTo 400
        high := i.high * tenTo 400 }
    match raised.nearest? (i.unit * tenTo place) with
    | some digits => some ⟨digits, (place : Int) - 400⟩
    | none => i.search (place - 1) count

/-- The decimal without trailing zeros; at most `fuel` of them are removed. -/
def Decimal.trim : Nat → Decimal → Decimal
  | 0, d => d
  | fuel + 1, d => if d.digits ≠ 0 ∧ d.digits % 10 = 0 then
      Decimal.trim fuel ⟨d.digits / 10, d.exponent + 1⟩ else d

/-- The shortest decimal of the magnitude of a finite number, without trailing zeros. -/
def shortest (x : Binary64) : Decimal :=
  if x.significand = 0 then ⟨0, 0⟩
  else match x.interval.search (x.interval.leading 720) 17 with
    | some decimal => decimal.trim 20
    | none => ⟨0, 0⟩

end Binary64

end VendorSql
