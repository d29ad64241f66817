/-
This file reads the date-times that services write into their events.

A text is tried against the internet form first, then against three forms with
an offset, then against two without one, which are taken as universal time. The
first form that fits decides. The forms with literal blanks accept any blanks
there, or none.
-/

import AccessFeed.Calendar.Instant
import AccessFeed.Calendar.Scan

namespace AccessFeed.Calendar

/-- An instant, and the offset in seconds east of universal time it was written with. -/
structure OffsetTime where
  offset : Int
  instant : Instant
deriving DecidableEq, Repr

namespace OffsetTime

/-- The seconds since midnight and the nanoseconds of a time of day. The sixtieth second is the
second half of the fifty-ninth. -/
def timeOfDay (parts : Parts) : Int × Nat :=
  let base : Int := parts.hour * 3600 + parts.minute * 60
  if parts.second = 60 then (base + 59, nanosPerSecond + parts.nanos)
  else (base + parts.second, parts.nanos)

/-- The greatest offset, one second less than a day. -/
def greatestOffset : Int := 86399

/-- The date-time named by the parts of a scan. The instant has to lie within the calendar. -/
def ofParts? (parts : Parts) : Option OffsetTime :=
  if parts.offset < -greatestOffset ∨ greatestOffset < parts.offset then none
  else
    match Date.ofParts? parts.year parts.month parts.day with
    | none => none
    | some date =>
      let (seconds, nanos) := timeOfDay parts
      let instant := date.dayNumber * secondsPerDay + seconds - parts.offset
      if inRange instant then some ⟨parts.offset, ⟨instant, nanos⟩⟩ else none

/-- Takes a number of exactly so many digits as the value of a part. -/
def takeExact (parts : Parts) (part : Part) (width : Nat) (text : List Char) :
    Except ScanFault (Parts × List Char) := do
  let (value, rest) ← Scan.takeNumber width width text
  pure (← Scan.setChecked parts part value, rest)

/-- Scans the internet form: fixed widths, a T or one blank in the middle, an optional fraction,
and a Z or an offset with a colon. -/
def scanInternet (text : List Char) : Except ScanFault Parts := do
  let (parts, text) ← takeExact {} .year 4 text
  let text ← Scan.takeLiteral '-' text
  let (parts, text) ← takeExact parts .month 2 text
  let text ← Scan.takeLiteral '-' text
  let (parts, text) ← takeExact parts .day 2 text
  let text ← takeMiddle text
  let (parts, text) ← takeExact parts .hour 2 text
  let text ← Scan.takeLiteral ':' text
  let (parts, text) ← takeExact parts .minute 2 text
  let text ← Scan.takeLiteral ':' text
  let (parts, text) ← takeExact parts .second 2 text
  let (parts, text) ← Scan.takePiece parts .fraction text
  let (offset, text) ← takeZone text
  if text.isEmpty then pure { parts with offset } else .error .tooLong
where
  /-- Takes the character between the date and the time. -/
  takeMiddle (text : List Char) : Except ScanFault (List Char) :=
    match text with
    | [] => .error .tooShort
    | c :: rest => if c = 'T' ∨ c = 't' ∨ c = ' ' then .ok rest else .error .invalid
  /-- Takes a Z, or an offset with a colon between its hours and its minutes. -/
  takeZone (text : List Char) : Except ScanFault (Int × List Char) :=
    match text with
    | 'Z' :: rest => .ok (0, rest)
    | 'z' :: rest => .ok (0, rest)
    | _ => Scan.takeOffset (Scan.takeLiteral ':') text

/-- The pieces of a date. -/
def datePieces : List Piece :=
  [.number .year, .literal '-', .number .month, .literal '-', .number .day]

/-- The pieces of a time of day with an optional fraction. -/
def timePieces : List Piece :=
  [.number .hour, .literal ':', .number .minute, .literal ':', .number .second, .fraction]

/-- The patterns tried behind the internet form, in this order. The second and the third are meant
for an offset with a colon and for one without, but an offset may have a colon in either. -/
def patterns : List (List Piece) :=
  [datePieces ++ [.literal 'T'] ++ timePieces ++ [.offset],
    datePieces ++ [.blanks] ++ timePieces ++ [.blanks, .offset],
    datePieces ++ [.blanks] ++ timePieces ++ [.blanks, .offset],
    datePieces ++ [.blanks] ++ timePieces,
    datePieces ++ [.literal 'T'] ++ timePieces]

/-- The date-time a scan found, if it found one. -/
def ofScan? (scan : Except ScanFault Parts) : Option OffsetTime :=
  match scan with
  | .ok parts => ofParts? parts
  | .error _ => none

/-- Reads a date-time in one of the accepted forms, blanks around it aside. -/
def read? (text : String) : Option OffsetTime :=
  let characters := Text.trimmed text.toList
  if characters.isEmpty then none
  else
    match ofScan? (scanInternet characters) with
    | some time => some time
    | none => patterns.findSome? fun pattern => ofScan? (Scan.byPattern {} pattern characters)

end OffsetTime

end AccessFeed.Calendar
