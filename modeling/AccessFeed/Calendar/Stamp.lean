/-
This file writes instants in the internet form of date-times.

The form gives the local date and time at an offset, a fraction of a second, and
the offset itself or a Z. A leap second is written as the sixtieth second of its
minute.
-/

import AccessFeed.Calendar.Instant

namespace AccessFeed.Calendar

/-- How many digits of a fraction of a second are written. -/
inductive FractionStyle
  | asNeeded
  | micros
deriving DecidableEq, Repr

/-- The digits of a fraction of a second behind a point. As needed means none, three, six or nine
digits, the fewest that lose nothing. -/
def FractionStyle.text (style : FractionStyle) (nanos : Nat) : String :=
  match style with
  | .micros => "." ++ Text.paddedDecimal 6 (nanos / 1000)
  | .asNeeded =>
    if nanos = 0 then ""
    else if nanos % 1000000 = 0 then "." ++ Text.paddedDecimal 3 (nanos / 1000000)
    else if nanos % 1000 = 0 then "." ++ Text.paddedDecimal 6 (nanos / 1000)
    else "." ++ Text.paddedDecimal 9 nanos

/-- An offset in hours and minutes. -/
def offsetText (offset : Int) : String :=
  let minutes := offset.natAbs / 60
  (if offset < 0 then "-" else "+") ++ Text.paddedDecimal 2 (minutes / 60) ++ ":" ++
    Text.paddedDecimal 2 (minutes % 60)

namespace Instant

/-- An instant as a local date and time at an offset, without the offset. -/
def localText (at_ : Instant) (offset : Int) (style : FractionStyle) : String :=
  let seconds := at_.seconds + offset
  let (year, month, day) := Date.partsOfNumber (seconds / secondsPerDay)
  let ofDay := (seconds % secondsPerDay).toNat
  let leap := nanosPerSecond ≤ at_.nanos
  let second := ofDay % 60 + if leap then 1 else 0
  let nanos := if leap then at_.nanos - nanosPerSecond else at_.nanos
  Date.yearText year ++ "-" ++ Text.paddedDecimal 2 month ++ "-" ++ Text.paddedDecimal 2 day ++
    "T" ++ Text.paddedDecimal 2 (ofDay / 3600) ++ ":" ++
    Text.paddedDecimal 2 (ofDay / 60 % 60) ++ ":" ++ Text.paddedDecimal 2 second ++
    style.text nanos

/-- An instant in the internet form at an offset. -/
def stamp (at_ : Instant) (offset : Int) (style : FractionStyle) : String :=
  at_.localText offset style ++ offsetText offset

/-- An instant in the internet form of universal time, ending with a Z. -/
def zuluStamp (at_ : Instant) : String :=
  at_.localText 0 .asNeeded ++ "Z"

end Instant

end AccessFeed.Calendar
