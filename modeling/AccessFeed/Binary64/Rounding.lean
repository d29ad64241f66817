/-
This file rounds binary floating-point numbers to natural ones.
-/

import AccessFeed.Binary64.Basic

namespace AccessFeed.Binary64

/-- The natural number nearest to a number, a half going up, within a bound. Numbers below zero
and those that are none become zero, and what is over the bound becomes the bound. -/
def nearestNat (x : Binary64) (bound : Nat) : Nat :=
  if x.isNaN || x.isNegative then 0
  else if x.isInfinite then bound
  else min ((2 * x.magnitude + 2 ^ 1074) / 2 ^ 1075) bound

end AccessFeed.Binary64
