/-
This file defines the 64-bit binary floating-point numbers by their bits.

A finite number is its significand times a power of two, and is at the same time
a whole multiple, its `magnitude`, of the least positive number `2 ^ -1074`.
Every decision about such numbers, rounding included, is therefore made in whole
numbers. Rounding goes to the nearest number, and of two equally near ones to
the one with the even significand.
-/

import AccessFeed.Power

namespace AccessFeed

/-- A binary floating-point number of 64 bits. -/
structure Binary64 where
  bits : UInt64
deriving DecidableEq, Repr, Inhabited

namespace Binary64

/-- Whether the sign bit is set. -/
def isNegative (x : Binary64) : Bool :=
  2 ^ 63 ≤ x.bits.toNat

/-- The eleven bits of the exponent. -/
def exponentField (x : Binary64) : Nat :=
  x.bits.toNat / 2 ^ 52 % 2 ^ 11

/-- The fifty-two bits of the fraction. -/
def fractionField (x : Binary64) : Nat :=
  x.bits.toNat % 2 ^ 52

/-- Whether a number is neither infinite nor NaN. -/
def isFinite (x : Binary64) : Bool :=
  x.exponentField != 2047

/-- Whether a number is NaN. -/
def isNaN (x : Binary64) : Bool :=
  x.exponentField == 2047 && x.fractionField != 0

/-- Whether a number is infinite. -/
def isInfinite (x : Binary64) : Bool :=
  x.exponentField == 2047 && x.fractionField == 0

/-- The significand of a finite number, with its leading one unless the number is subnormal. -/
def significand (x : Binary64) : Nat :=
  if x.exponentField = 0 then x.fractionField else 2 ^ 52 + x.fractionField

/-- The power of two, over the least positive number, that the significand counts. -/
def unitExponent (x : Binary64) : Nat :=
  x.exponentField - 1

/-- The absolute value of a finite number in units of `2 ^ -1074`. -/
def magnitude (x : Binary64) : Nat :=
  x.significand * Nat.pow 2 x.unitExponent

/-- The word of positive infinity. -/
def infinityWord : Nat := 2047 * 2 ^ 52

/-- A number from its sign and the word of its absolute value. -/
def ofWord (negative : Bool) (word : Nat) : Binary64 :=
  ⟨((if negative then 2 ^ 63 else 0) + word).toUInt64⟩

/-- The two zeros. -/
def zero (negative : Bool) : Binary64 := ofWord negative 0

/-- The two infinities. -/
def infinity (negative : Bool) : Binary64 := ofWord negative infinityWord

/-- The NaN that reading produces. -/
def nan (negative : Bool) : Binary64 := ofWord negative (infinityWord + 2 ^ 51)

/-- A quotient rounded to the nearest whole number, a tie to the even one. -/
def roundDiv (numerator denominator : Nat) : Nat :=
  let quotient := numerator / denominator
  let remainder := numerator % denominator
  if 2 * remainder < denominator then quotient
  else if denominator < 2 * remainder then quotient + 1
  else quotient + quotient % 2

/-- The number nearest to a quotient of whole numbers, infinite from halfway above the greatest
finite number on.

The unit is the power of two that leaves a significand of fifty-three bits, or the least unit. A
significand rounded up to fifty-four bits carries into the exponent by itself, because the word
is the sum of both. -/
def ofRatio (negative : Bool) (numerator denominator : Nat) : Binary64 :=
  let scaled := numerator * 2 ^ 1074
  let exponent := (scaled / denominator).log2 - 52
  let rounded := roundDiv scaled (denominator * Nat.pow 2 exponent)
  ofWord negative (min (exponent * 2 ^ 52 + rounded) infinityWord)

/-- The number nearest to a whole number. -/
def ofNat (negative : Bool) (value : Nat) : Binary64 :=
  ofRatio negative value 1

/-- The number of decimal digits of a whole number, one for zero. -/
def digitCount (value : Nat) : Nat :=
  if value < 10 then 1 else digitCount (value / 10) + 1
termination_by value

/-- The number nearest to `digits * 10 ^ exponent`. Far outside the range of finite numbers the
answer is known without computing the power. -/
def ofDecimal (negative : Bool) (digits : Nat) (exponent : Int) : Binary64 :=
  if digits = 0 then zero negative
  else
    let top := exponent + digitCount digits
    if 400 < top then infinity negative
    else if top < -400 then zero negative
    else if 0 ≤ exponent then ofRatio negative (digits * Nat.pow 10 exponent.toNat) 1
    else ofRatio negative digits (Nat.pow 10 (-exponent).toNat)

/-- A finite number times a quotient of whole numbers, rounded once. -/
def scale (x : Binary64) (numerator denominator : Nat) : Binary64 :=
  ofRatio x.isNegative (x.magnitude * numerator) (denominator * 2 ^ 1074)

/-- The number with the other sign. -/
def negate (x : Binary64) : Binary64 :=
  ⟨if x.isNegative then (x.bits.toNat - 2 ^ 63).toUInt64 else (x.bits.toNat + 2 ^ 63).toUInt64⟩

/-- A number is zero when all bits but the sign are. -/
def isZero (x : Binary64) : Bool :=
  x.bits.toNat % 2 ^ 63 == 0

end Binary64

end AccessFeed
