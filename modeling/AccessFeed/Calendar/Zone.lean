/-
This file defines time zones by the instants at which their offset changes.

A zone has a first offset and a list of changes in ascending order. A local time
is met at those instants whose own offset leads to it: at none when the clock
jumps over it, at two when the clock is set back. A day runs from the first
instant of its local midnight to that of the next day's.
-/

import AccessFeed.Calendar.Instant
import AccessFeed.Failure

namespace AccessFeed.Calendar

/-- A time zone: its name, its first offset in seconds east of universal time, and the instants
from which another offset holds. -/
structure Zone where
  name : String
  base : Int
  changes : List (Int × Int)
deriving DecidableEq, Repr, Inhabited

namespace Zone

/-- The offset that holds at a number of seconds since the beginning of 1970, starting from the
offset before the given changes. -/
def offsetFrom (base : Int) (seconds : Int) : List (Int × Int) → Int
  | [] => base
  | (start, offset) :: rest => if seconds < start then base else offsetFrom offset seconds rest

/-- The offset of a zone at a number of seconds since the beginning of 1970. -/
def offsetAt (zone : Zone) (seconds : Int) : Int :=
  offsetFrom zone.base seconds zone.changes

/-- Every offset that holds at some time. -/
def offsets (zone : Zone) : List Int :=
  zone.base :: zone.changes.map Prod.snd

/-- The instants, in seconds, at which the clock of a zone shows a local time. -/
def instantsOf (zone : Zone) (localSeconds : Int) : List Int :=
  (zone.offsets.map fun offset => localSeconds - offset).filter fun seconds =>
    seconds + zone.offsetAt seconds == localSeconds

/-- The first of some instants. -/
def first? : List Int → Option Int
  | [] => none
  | seconds :: rest =>
    match first? rest with
    | none => some seconds
    | some other => some (if seconds ≤ other then seconds else other)

/-- The first instant at which the clock of a zone shows a local time. -/
def earliest? (zone : Zone) (localSeconds : Int) : Option Instant := do
  let seconds ← first? (zone.instantsOf localSeconds)
  Instant.ofParts? seconds 0

/-- A table of zones, each with its changes in the years that are looked at. The zones that are
known are a matter of this table alone, and any other may stand in for it. -/
def database : List Zone :=
  [⟨"UTC", 0, []⟩,
    ⟨"EST", -18000, []⟩,
    ⟨"Africa/Cairo", 7200, [(1682632800, 10800), (1698354000, 7200)]⟩,
    ⟨"America/Havana", -18000, [(1710046800, -14400), (1730610000, -18000)]⟩,
    ⟨"America/New_York", -18000,
      [(1710054000, -14400), (1730613600, -18000), (1741503600, -14400)]⟩,
    ⟨"America/Sao_Paulo", -10800, [(1541300400, -7200), (1550368800, -10800)]⟩,
    ⟨"Asia/Beirut", 7200, [(1648332000, 10800), (1667077200, 7200)]⟩,
    ⟨"Asia/Kathmandu", 20700, []⟩,
    ⟨"Asia/Kolkata", 19800, []⟩,
    ⟨"Asia/Seoul", 32400,
      [(547578000, 36000), (560883600, 32400), (579027600, 36000), (592333200, 32400)]⟩,
    ⟨"Atlantic/Azores", -3600, [(1711846800, 0), (1729990800, -3600)]⟩,
    ⟨"Australia/Lord_Howe", 39600, [(1712415600, 37800), (1728142200, 39600)]⟩,
    ⟨"Etc/GMT+5", -18000, []⟩,
    ⟨"Etc/GMT-14", 50400, []⟩,
    ⟨"Europe/London", 0, [(1743296400, 3600)]⟩,
    ⟨"Pacific/Apia", -36000, [(1325239200, 50400)]⟩,
    ⟨"Pacific/Kiritimati", 50400, []⟩]

/-- The zone of universal time. -/
def utc : Zone := ⟨"UTC", 0, []⟩

/-- The zone of a table with exactly the given name. -/
def find? (name : String) (zones : List Zone := database) : Option Zone :=
  zones.find? fun zone => zone.name == name

/-- The wording of the fault of a name that no zone has. -/
def unknownMessage (name : String) : String :=
  "'" ++ name ++ "' is not a valid timezone"

/-- The first instant of a date in a zone. -/
def midnight (zone : Zone) (date : Date) : Except Failure Instant :=
  match zone.earliest? (date.dayNumber * secondsPerDay) with
  | some instant => .ok instant
  | none =>
    .error (.invalidParameter
      ("Midnight of " ++ date.display ++ " does not exist in " ++ zone.name))

/-- The instants between which a date lies in a zone; the second one belongs to the next day. -/
def dayBounds (zone : Zone) (date : Date) : Except Failure (Instant × Instant) :=
  match date.next? with
  | none => .error (.invalidParameter ("No day follows " ++ date.display))
  | some next => do
    let start ← zone.midnight date
    let stop ← zone.midnight next
    pure (start, stop)

end Zone

end AccessFeed.Calendar
