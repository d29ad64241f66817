/-
This file defines instants of universal time.

An instant is a number of whole seconds since the beginning of 1970 and a number
of nanoseconds behind them. The last second of a minute may last for two, its
second half being a leap second. Instants lie within the years of the calendar,
and the length of a day is always 86400 seconds.
-/

import AccessFeed.Calendar.Date

namespace AccessFeed.Calendar

/-- The seconds of a day. -/
def secondsPerDay : Int := 86400

/-- The nanoseconds of a second. -/
def nanosPerSecond : Nat := 1000000000

/-- The number of the first day of the calendar. -/
def firstDayNumber : Int := -96465292

/-- The number of the last day of the calendar. -/
def lastDayNumber : Int := 95026236

/-- Whether a number of seconds lies within the calendar. -/
def inRange (seconds : Int) : Bool :=
  firstDayNumber * secondsPerDay ≤ seconds && seconds < (lastDayNumber + 1) * secondsPerDay

/-- Whether so many nanoseconds may stand behind so many seconds. -/
def nanosFit (seconds : Int) (nanos : Nat) : Bool :=
  nanos < nanosPerSecond || (nanos < 2 * nanosPerSecond && seconds % 60 == 59)

/-- An instant of universal time. -/
structure Instant where
  seconds : Int
  nanos : Nat
deriving DecidableEq, Repr, Inhabited

namespace Instant

/-- The instant with the given parts, unless they lie outside the calendar or name a leap second
that is not the last of its minute. -/
def ofParts? (seconds : Int) (nanos : Nat) : Option Instant :=
  if inRange seconds && nanosFit seconds nanos then some ⟨seconds, nanos⟩ else none

/-- Whether an instant lies before another. -/
def isBefore (first second : Instant) : Bool :=
  first.seconds < second.seconds || (first.seconds == second.seconds && first.nanos < second.nanos)

instance : LT Instant := ⟨fun first second => first.isBefore second = true⟩

instance : LE Instant := ⟨fun first second => second.isBefore first = false⟩

instance (first second : Instant) : Decidable (first < second) :=
  inferInstanceAs (Decidable (first.isBefore second = true))

instance (first second : Instant) : Decidable (first ≤ second) :=
  inferInstanceAs (Decidable (second.isBefore first = false))

/-- The whole milliseconds since the beginning of 1970, rounded down. -/
def millis (at_ : Instant) : Int :=
  at_.seconds * 1000 + (at_.nanos / 1000000 : Nat)

/-- The instant at so many milliseconds since the beginning of 1970. -/
def ofMillis? (millis : Int) : Option Instant :=
  ofParts? (millis / 1000) ((millis % 1000).toNat * 1000000)

/-- The instant a number of days earlier, if the calendar has one. Going back from a leap second
by at least a day lands behind the ordinary second it belongs to. -/
def daysEarlier? (at_ : Instant) (days : Nat) : Option Instant :=
  if days = 0 then some at_
  else if nanosPerSecond ≤ at_.nanos then
    ofParts? (at_.seconds + 1 - days * secondsPerDay) (at_.nanos - nanosPerSecond)
  else ofParts? (at_.seconds - days * secondsPerDay) at_.nanos

/-! ### The order of instants -/

theorem lt_iff {first second : Instant} :
    first < second ↔ first.seconds < second.seconds ∨
      (first.seconds = second.seconds ∧ first.nanos < second.nanos) := by
  show first.isBefore second = true ↔ _
  simp [isBefore]

theorem le_iff {first second : Instant} : first ≤ second ↔ ¬ second < first := by
  show second.isBefore first = false ↔ ¬ second.isBefore first = true
  simp

theorem le_total (first second : Instant) : first ≤ second ∨ second ≤ first := by
  rw [le_iff, le_iff, lt_iff, lt_iff]
  omega

theorem le_trans {first second third : Instant} (left : first ≤ second)
    (right : second ≤ third) : first ≤ third := by
  rw [le_iff, lt_iff] at *
  omega

theorem le_antisymm {first second : Instant} (left : first ≤ second) (right : second ≤ first) :
    first = second := by
  obtain ⟨firstSeconds, firstNanos⟩ := first
  obtain ⟨secondSeconds, secondNanos⟩ := second
  rw [le_iff, lt_iff] at left right
  simp only [Instant.mk.injEq]
  simp only at left right
  omega

end Instant

end AccessFeed.Calendar
