/-
This file scans the parts of written dates and times.

A pattern is a list of pieces: numbers of limited width, literal characters,
stretches of blanks, a fraction of a second, an offset from universal time.
Scanning a text by a pattern collects the parts the pieces name, or tells why
the text does not follow the pattern. Numbers and offsets may have blanks in
front of them, and a number of a year may carry a sign and then has no limit.
-/

import AccessFeed.Calendar.Date
import AccessFeed.Text.Blank
import AccessFeed.Text.Numeral

namespace AccessFeed.Calendar

/-- Why a text is no date or time. -/
inductive ScanFault
  | outOfRange
  | invalid
  | tooShort
  | tooLong
deriving DecidableEq, Repr

/-- The wording of a fault. -/
def ScanFault.message : ScanFault → String
  | .outOfRange => "input is out of range"
  | .invalid => "input contains invalid characters"
  | .tooShort => "premature end of input"
  | .tooLong => "trailing input"

/-- The parts of a date and time that a text can name. -/
inductive Part
  | year
  | month
  | day
  | hour
  | minute
  | second
deriving DecidableEq, Repr

/-- One piece of a pattern. -/
inductive Piece
  | number (part : Part)
  | literal (c : Char)
  | blanks
  | fraction
  | offset
deriving DecidableEq, Repr

/-- The parts collected by a scan; a text always names a part at most once. -/
structure Parts where
  year : Int := 0
  month : Nat := 1
  day : Nat := 1
  hour : Nat := 0
  minute : Nat := 0
  second : Nat := 0
  nanos : Nat := 0
  offset : Int := 0
deriving DecidableEq, Repr

namespace Scan

/-- The greatest number a scan can hold. -/
def greatestNumber : Nat := 2 ^ 63 - 1

/-- Takes up to `width` digits, of which there have to be at least `least`. -/
def takeNumber (least width : Nat) (text : List Char) : Except ScanFault (Nat × List Char) :=
  let digits := (text.take width).takeWhile Text.isDigit
  let rest := text.drop digits.length
  if digits.length < least then
    .error (if byteLength text least < least then .tooShort else .invalid)
  else
    let value := Text.digitsValue 0 digits
    if greatestNumber < value then .error .outOfRange else .ok (value, rest)
where
  /-- The number of bytes of a text, counted up to a bound. -/
  byteLength (text : List Char) (bound : Nat) : Nat :=
    (text.take bound).foldl (fun total c => total + c.utf8Size) 0

/-- The greatest absolute value of a year that is kept. -/
def greatestYear : Int := 2 ^ 31 - 1

/-- The width of a part's number when it carries no sign. -/
def Part.width : Part → Nat
  | .year => 4
  | _ => 2

/-- The least and the greatest value of a part. -/
def Part.range : Part → Int × Int
  | .year => (-greatestYear - 1, greatestYear)
  | .month => (1, 12)
  | .day => (1, 31)
  | .hour => (0, 23)
  | .minute => (0, 59)
  | .second => (0, 60)

/-- The parts with one of them set. -/
def setPart (parts : Parts) (part : Part) (value : Int) : Parts :=
  match part with
  | .year => { parts with year := value }
  | .month => { parts with month := value.toNat }
  | .day => { parts with day := value.toNat }
  | .hour => { parts with hour := value.toNat }
  | .minute => { parts with minute := value.toNat }
  | .second => { parts with second := value.toNat }

/-- Sets a part, whose value has to lie in the part's range. -/
def setChecked (parts : Parts) (part : Part) (value : Int) : Except ScanFault Parts :=
  if (Part.range part).1 ≤ value ∧ value ≤ (Part.range part).2 then
    .ok (setPart parts part value)
  else .error .outOfRange

/-- Takes the number of a part behind blanks. A sign is read in front of a year only. -/
def takePart (part : Part) (text : List Char) : Except ScanFault (Int × List Char) := do
  let text := Text.skipBlanks text
  match part, text with
  | .year, '-' :: rest =>
    let (value, rest) ← takeNumber 1 rest.length rest
    pure (-(value : Int), rest)
  | .year, '+' :: rest =>
    let (value, rest) ← takeNumber 1 rest.length rest
    pure ((value : Int), rest)
  | _, _ =>
    let (value, rest) ← takeNumber 1 (Part.width part) text
    pure ((value : Int), rest)

/-- The nanoseconds of a fraction of a second; digits behind the ninth do not count. -/
def takeFraction (text : List Char) : Except ScanFault (Nat × List Char) := do
  let (value, rest) ← takeNumber 1 9 text
  let taken := text.length - rest.length
  pure (value * Nat.pow 10 (9 - taken), rest.dropWhile Text.isDigit)

/-- The sign of an offset; the minus may also be the typographic one. -/
def takeSign : List Char → Except ScanFault (Bool × List Char)
  | [] => .error .tooShort
  | c :: rest =>
    if c = '+' then .ok (false, rest)
    else if c = '-' ∨ c = '\u2212' then .ok (true, rest)
    else .error .invalid

/-- Takes the two digits of hours or minutes of an offset. -/
def takePair (text : List Char) : Except ScanFault (Nat × List Char) :=
  match text with
  | tens :: ones :: rest =>
    match Text.digitValue? tens, Text.digitValue? ones with
    | some high, some low => .ok (high * 10 + low, rest)
    | _, _ => .error .invalid
  | [c] => .error (if c.utf8Size < 2 then .tooShort else .invalid)
  | [] => .error .tooShort

/-- Takes the signed hours and minutes of an offset, in seconds; `separator` takes what stands
between the hours and the minutes. -/
def takeOffset (separator : List Char → Except ScanFault (List Char)) (text : List Char) :
    Except ScanFault (Int × List Char) := do
  let (negative, text) ← takeSign text
  let (hours, text) ← takePair text
  let text ← separator text
  let (minutes, text) ← takePair text
  if 59 < minutes then .error .outOfRange
  let seconds : Int := hours * 3600 + minutes * 60
  pure (if negative then -seconds else seconds, text)

/-- Takes any number of colons and blanks. -/
def anySeparator (text : List Char) : Except ScanFault (List Char) :=
  .ok (text.dropWhile fun c => c == ':' || Text.isBlank c)

/-- Takes exactly the given character. -/
def takeLiteral (c : Char) (text : List Char) : Except ScanFault (List Char) :=
  match text with
  | [] => .error .tooShort
  | other :: rest => if other = c then .ok rest else .error .invalid

/-- Takes what one piece of a pattern describes. -/
def takePiece (parts : Parts) (piece : Piece) (text : List Char) :
    Except ScanFault (Parts × List Char) := do
  match piece with
  | .number part =>
    let (value, rest) ← takePart part text
    pure (← setChecked parts part value, rest)
  | .literal c => pure (parts, ← takeLiteral c text)
  | .blanks => pure (parts, Text.skipBlanks text)
  | .fraction =>
    match text with
    | '.' :: rest =>
      let (nanos, rest) ← takeFraction rest
      pure ({ parts with nanos }, rest)
    | _ => pure (parts, text)
  | .offset =>
    let (offset, rest) ← takeOffset anySeparator (Text.skipBlanks text)
    pure ({ parts with offset }, rest)

/-- Takes the pieces of a pattern one after the other; nothing may be left. -/
def byPattern (parts : Parts) : List Piece → List Char → Except ScanFault Parts
  | [], [] => .ok parts
  | [], _ :: _ => .error .tooLong
  | piece :: pieces, text => do
    let (parts, rest) ← takePiece parts piece text
    byPattern parts pieces rest

end Scan

/-- The pattern of a written date. -/
def Date.pattern : List Piece :=
  [.number .year, .blanks, .literal '-', .number .month, .blanks, .literal '-', .number .day,
    .blanks]

/-- The date named by the parts of a scan. -/
def Parts.date (parts : Parts) : Except ScanFault Date :=
  match Date.ofParts? parts.year parts.month parts.day with
  | some date => .ok date
  | none => .error .outOfRange

/-- Reads a written date. -/
def Date.read (text : String) : Except ScanFault Date := do
  (← Scan.byPattern {} Date.pattern text.toList).date

end AccessFeed.Calendar
