/-
This file writes 64-bit binary floating-point numbers in decimal.

Three forms are needed. A fixed form has a given number of decimal places and
rounds the exact value, a tie to the even digit. The other two show the fewest
digits that are read back as the same number: one always without an exponent,
and one, for use inside JSON, with an exponent when the number is very large or
very small.
-/

import AccessFeed.Binary64.Basic
import AccessFeed.Text.Numeral

namespace AccessFeed.Binary64

/-- The texts of the numbers that have no digits. -/
def unusualText? (x : Binary64) : Option String :=
  if x.isNaN then some "NaN"
  else if x.isInfinite then some (if x.isNegative then "-inf" else "inf")
  else none

/-- The sign in front of a number. -/
def signText (x : Binary64) : String :=
  if x.isNegative then "-" else ""

/-- The absolute value in units of `10 ^ -places`, rounded. -/
def fixedUnits (x : Binary64) (places : Nat) : Nat :=
  roundDiv (x.magnitude * Nat.pow 10 places) (2 ^ 1074)

/-- A whole number of units of `10 ^ -places`, written with a point in front of the last
`places` digits. -/
def unitsText (units places : Nat) : String :=
  if places = 0 then Text.decimal units
  else Text.decimal (units / Nat.pow 10 places) ++ "." ++
    Text.paddedDecimal places (units % Nat.pow 10 places)

/-- A number with the given count of decimal places. -/
def fixed (x : Binary64) (places : Nat) : String :=
  match unusualText? x with
  | some text => text
  | none => signText x ++ unitsText (x.fixedUnits places) places

/-- The decimal exponent of the leading digit of a positive number. -/
def leadingExponent (x : Binary64) : Int :=
  (digitCount (x.magnitude * 10 ^ 324 / 2 ^ 1074) : Int) - 1 - 324

/-- A decimal with few digits near a positive number, and whether it is read back as it.

The number is compared in quarters of its unit, so that the ends of the interval of values that
round to it, halfway to its neighbours, are whole. Below a power of two the neighbour is only
half as far away. An end belongs to the interval when the significand is even. -/
def shorter? (x : Binary64) (exponent : Int) : Option Nat :=
  let quarters := 4 * x.magnitude
  let unit := Nat.pow 2 x.unitExponent
  let below := if x.significand = 2 ^ 52 ∧ 0 < x.unitExponent then unit else 2 * unit
  let up := Nat.pow 10 exponent.toNat * 2 ^ 1076
  let down := Nat.pow 10 (-exponent).toNat
  let candidate := quarters * down / up
  let inside (digits : Nat) : Bool :=
    let value := digits * up
    let low := (quarters - below) * down
    let high := (quarters + 2 * unit) * down
    if x.significand % 2 = 0 then low ≤ value && value ≤ high else low < value && value < high
  let lowGap := quarters * down - candidate * up
  let highGap := (candidate + 1) * up - quarters * down
  match inside candidate && candidate != 0, inside (candidate + 1) with
  | true, true =>
    if highGap < lowGap ∨ (highGap = lowGap ∧ candidate % 2 = 1) then some (candidate + 1)
    else some candidate
  | true, false => some candidate
  | false, true => some (candidate + 1)
  | false, false => none

/-- The decimals with the fewest digits among `remaining` precisions from the exponent down. -/
def shortestFrom (x : Binary64) (exponent : Int) : Nat → Nat × Int
  | 0 => (0, 0)
  | remaining + 1 =>
    match shorter? x exponent with
    | some digits => (digits, exponent)
    | none => shortestFrom x (exponent - 1) remaining

/-- A positive number without its trailing zeros, which count into the exponent. -/
def withoutTrailingZeros (digits : Nat) (exponent : Int) : Nat → Nat × Int
  | 0 => (digits, exponent)
  | fuel + 1 =>
    if digits ≠ 0 ∧ digits % 10 = 0 then withoutTrailingZeros (digits / 10) (exponent + 1) fuel
    else (digits, exponent)

/-- The fewest digits that are read back as a finite number, and the power of ten they count.
Seventeen digits always suffice. -/
def shortest (x : Binary64) : Nat × Int :=
  if x.isZero then (0, 0)
  else
    let (digits, exponent) := shortestFrom x x.leadingExponent 17
    withoutTrailingZeros digits exponent 17

/-- A decimal written without an exponent, and without a point when it is whole. -/
def positional (digits : Nat) (exponent : Int) : String :=
  if 0 ≤ exponent then Text.decimal (digits * Nat.pow 10 exponent.toNat)
  else unitsText digits (-exponent).toNat

/-- A number with the fewest digits, never with an exponent. -/
def plain (x : Binary64) : String :=
  match unusualText? x with
  | some text => text
  | none =>
    let (digits, exponent) := x.shortest
    signText x ++ positional digits exponent

/-- The least and the greatest exponent of the leading digit at which a number inside JSON is
written without an exponent. -/
def positionalExponents : Int × Int := (-5, 15)

/-- A decimal in scientific notation, with a sign in the exponent. -/
def scientific (digits : Nat) (exponent : Int) : String :=
  let text := Text.digitsOf digits
  let leading := exponent + (text.length : Int) - 1
  let mantissa :=
    match text with
    | first :: second :: rest => first :: '.' :: second :: rest
    | short => short
  String.ofList mantissa ++ (if leading < 0 then "e-" else "e+") ++
    Text.decimal leading.natAbs

/-- A finite number as it stands inside JSON: the fewest digits, and always with a point or an
exponent. -/
def jsonText (x : Binary64) : String :=
  let (digits, exponent) := x.shortest
  let leading := exponent + (digitCount digits : Int) - 1
  let body :=
    if positionalExponents.1 ≤ leading ∧ leading ≤ positionalExponents.2 then
      if 0 ≤ exponent then positional digits exponent ++ ".0" else positional digits exponent
    else scientific digits exponent
  signText x ++ body

end AccessFeed.Binary64
