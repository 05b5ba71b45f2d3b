/-!
# Floating-point numbers

A floating-point number is its 64 bits in the IEEE 754 format: a sign, eleven bits of exponent and
fifty-two bits of fraction. Its value is worked out in integers, `significand · 2 ^ exponent`, so
nothing here depends on floating-point hardware. A ratio of integers becomes the nearest number, and
of two that are equally near the one with an even significand.
-/
namespace VendorSql

namespace Number

def twoTo (exponent : Nat) : Nat := Nat.pow 2 exponent

def tenTo (exponent : Nat) : Nat := Nat.pow 10 exponent

theorem twoTo_succ (exponent : Nat) : twoTo (exponent + 1) = twoTo exponent * 2 := rfl

theorem tenTo_succ (exponent : Nat) : tenTo (exponent + 1) = tenTo exponent * 10 := rfl

end Number

open Number (twoTo)

/-- A floating-point number of 64 bits. -/
structure Binary64 where
  bits : UInt64
  deriving Repr, DecidableEq

namespace Binary64

def isNegative (x : Binary64) : Bool := twoTo 63 ≤ x.bits.toNat

def exponentField (x : Binary64) : Nat := x.bits.toNat / twoTo 52 % twoTo 11

def fractionField (x : Binary64) : Nat := x.bits.toNat % twoTo 52

/-- Whether the number is neither an infinity nor a NaN. -/
def isFinite (x : Binary64) : Bool := x.exponentField ≠ 2047

def significand (x : Binary64) : Nat :=
  if x.exponentField = 0 then x.fractionField else twoTo 52 + x.fractionField

/-- The power of two that goes with the significand, raised by 1074 so that it is not negative. -/
def scale (x : Binary64) : Nat := x.exponentField - 1

/-- The integer that a finite number equals, if it equals one. -/
def toInt? (x : Binary64) : Option Int :=
  let scaled := x.significand * twoTo x.scale
  if x.isFinite ∧ scaled % twoTo 1074 = 0 then
    let magnitude : Int := scaled / twoTo 1074
    some (if x.isNegative then -magnitude else magnitude)
  else none

/-- The bits of `significand · 2 ^ (scale - 1074)` without a sign; a carry out of the significand
moves on into the exponent, and a number out of range becomes infinite. -/
def pack (significand scale : Nat) : Nat :=
  min (scale * twoTo 52 + significand) (2047 * twoTo 52)

/-- The quotient of two integers, rounded to the nearest and from the middle to the even one. -/
def roundedQuotient (numerator denominator : Nat) : Nat :=
  let quotient := numerator / denominator
  let rest := numerator % denominator
  if denominator < 2 * rest ∨ denominator = 2 * rest ∧ quotient % 2 = 1 then quotient + 1
  else quotient

/-- The number nearest to `numerator / denominator`, with the given sign. -/
def ofRatio (negative : Bool) (numerator denominator : Nat) : Binary64 :=
  let lifted := numerator * twoTo 1074
  let widest := lifted.log2 - denominator.log2 - 53
  let scale := if lifted / (denominator * twoTo widest) < twoTo 53 then widest else widest + 1
  let magnitude := if numerator = 0 then 0
    else pack (roundedQuotient lifted (denominator * twoTo scale)) scale
  ⟨UInt64.ofNat (magnitude + if negative then twoTo 63 else 0)⟩

def ofNat (n : Nat) : Binary64 := ofRatio false n 1

def negate (x : Binary64) : Binary64 := ⟨x.bits ^^^ 0x8000000000000000⟩

/-- The product of two numbers without their signs, rounded to the nearest. -/
def times (x y : Binary64) : Binary64 :=
  ofRatio false (x.significand * twoTo x.scale * (y.significand * twoTo y.scale)) (twoTo 2148)

/-- The quotient of two numbers without their signs, rounded to the nearest. -/
def dividedBy (x y : Binary64) : Binary64 :=
  ofRatio false (x.significand * twoTo x.scale) (y.significand * twoTo y.scale)

end Binary64

end VendorSql
