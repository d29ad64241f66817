/-
This file reads the schedule of the retention cleanup.

A schedule has six or seven fields: second, minute, hour, day of the month,
month, day of the week, and perhaps the year. A field is a list of entries with
commas between them; an entry is everything, one number or name, or a range of
them, and a step after a slash picks every so many of it. The days may also be
left open with a question mark, which means everything. Five schedules have
names of their own. Blanks are free around every number, every name and every
field.
-/

import AccessFeed.Text.Letters
import AccessFeed.Text.Numeral

namespace AccessFeed.Retention

/-- A field of a schedule: the least and the greatest number it may hold, and the names of numbers
in it. -/
structure ScheduleField where
  least : Nat
  greatest : Nat
  names : List (String × Nat)
deriving DecidableEq, Repr

/-- The values that an entry of a field picks, before a step is applied. -/
inductive Span
  | everything
  | point (value : Nat)
  | range (first last : Nat)
  | namedRange (first last : String)
deriving DecidableEq, Repr

/-- An entry of a field. -/
inductive ScheduleEntry
  | plain (span : Span)
  | stepped (span : Span) (step : Nat)
  | named (name : String)
deriving DecidableEq, Repr

/-- The numbers at which a schedule fires, field by field. -/
structure Schedule where
  seconds : List Nat
  minutes : List Nat
  hours : List Nat
  daysOfMonth : List Nat
  months : List Nat
  daysOfWeek : List Nat
  years : List Nat
deriving DecidableEq, Repr

namespace ScheduleField

def second : ScheduleField := ⟨0, 59, []⟩

def minute : ScheduleField := ⟨0, 59, []⟩

def hour : ScheduleField := ⟨0, 23, []⟩

def dayOfMonth : ScheduleField := ⟨1, 31, []⟩

/-- Months, with their English names in full and in three letters. -/
def month : ScheduleField :=
  ⟨1, 12,
    [("jan", 1), ("january", 1), ("feb", 2), ("february", 2), ("mar", 3), ("march", 3), ("apr", 4),
      ("april", 4), ("may", 5), ("jun", 6), ("june", 6), ("jul", 7), ("july", 7), ("aug", 8),
      ("august", 8), ("sep", 9), ("september", 9), ("oct", 10), ("october", 10), ("nov", 11),
      ("november", 11), ("dec", 12), ("december", 12)]⟩

/-- Days of the week, Sunday being the first. -/
def dayOfWeek : ScheduleField :=
  ⟨1, 7,
    [("sun", 1), ("sunday", 1), ("mon", 2), ("monday", 2), ("tue", 3), ("tues", 3), ("tuesday", 3),
      ("wed", 4), ("wednesday", 4), ("thu", 5), ("thurs", 5), ("thursday", 5), ("fri", 6),
      ("friday", 6), ("sat", 7), ("saturday", 7)]⟩

def year : ScheduleField := ⟨1970, 2100, []⟩

/-- Whether a field may hold a number. -/
def holds (field : ScheduleField) (value : Nat) : Bool :=
  field.least ≤ value && value ≤ field.greatest

/-- The number with a name, whatever the case of its letters. -/
def ofName? (field : ScheduleField) (name : String) : Option Nat :=
  (field.names.find? fun entry => entry.1 == Text.lowered name).map Prod.snd

/-- The numbers from `first` to `last`. -/
def between (first last : Nat) : List Nat :=
  (List.range (last + 1 - first)).map (first + ·)

/-- All numbers a field may hold. -/
def all (field : ScheduleField) : List Nat :=
  between field.least field.greatest

/-- The numbers of a range, which has to lie in the field and not to run backwards. -/
def rangeValues? (field : ScheduleField) (first last : Nat) : Option (List Nat) :=
  if field.holds first && field.holds last && first ≤ last then some (between first last) else none

/-- The numbers of a span. -/
def spanValues? (field : ScheduleField) : Span → Option (List Nat)
  | .everything => some field.all
  | .point value => some [value]
  | .range first last => field.rangeValues? first last
  | .namedRange first last =>
    match field.ofName? first, field.ofName? last with
    | some first, some last => field.rangeValues? first last
    | _, _ => none

/-- Every `step`-th of some numbers, `wait` of them being passed over first. -/
def everyNth (step wait : Nat) : List Nat → List Nat
  | [] => []
  | value :: rest =>
    match wait with
    | 0 => value :: everyNth step (step - 1) rest
    | wait + 1 => everyNth step wait rest

/-- The numbers of an entry. A step from a single number runs to the end of the field. -/
def entryValues? (field : ScheduleField) : ScheduleEntry → Option (List Nat)
  | .plain span => field.spanValues? span
  | .stepped _ 0 => none
  | .stepped (.point first) (step + 1) =>
    if field.holds first then some (everyNth (step + 1) 0 (between first field.greatest)) else none
  | .stepped span (step + 1) => (field.spanValues? span).map (everyNth (step + 1) 0)
  | .named name => (field.ofName? name).map fun value => [value]

/-- The numbers of a field in ascending order, if all its entries have numbers the field may
hold. -/
def values? (field : ScheduleField) (entries : List ScheduleEntry) : Option (List Nat) :=
  match entries.mapM field.entryValues? with
  | none => none
  | some found =>
    let picked := found.flatten
    if picked.all field.holds then some (field.all.filter picked.contains) else none

end ScheduleField

namespace Schedule

/-! ### Reading the parts of a field -/

/-- What reading a part of a schedule gives: the part, and the text behind it. -/
abbrev Step (Part : Type) : Type := Option (Part × List Char)

/-- Whether a character is blank in a schedule. -/
def isGap (c : Char) : Bool :=
  c == ' ' || c == '\t' || c == '\n' || c == '\r'

/-- A text without the gap in front of it. -/
def skipGap (source : List Char) : List Char := source.dropWhile isGap

/-- Whether a character is an ASCII letter. -/
def isLetter (c : Char) : Bool :=
  ('a' ≤ c && c ≤ 'z') || ('A' ≤ c && c ≤ 'Z')

/-- The greatest number that may be written in a schedule. -/
def greatestNumber : Nat := 2 ^ 32 - 1

/-- Reads a number with gaps around it. -/
def number (source : List Char) : Step Nat :=
  let source := skipGap source
  let digits := source.takeWhile Text.isDigit
  let value := Text.digitsValue 0 digits
  if digits.isEmpty || greatestNumber < value then none
  else some (value, skipGap (source.drop digits.length))

/-- Reads a name with gaps around it. -/
def name (source : List Char) : Step String :=
  let source := skipGap source
  let letters := source.takeWhile isLetter
  if letters.isEmpty then none
  else some (String.ofList letters, skipGap (source.drop letters.length))

/-- Reads a mark that means everything, which has no gaps around it. -/
def everything (mark : Char) (source : List Char) : Step Span :=
  match source with
  | c :: rest => if c = mark then some (.everything, rest) else none
  | [] => none

/-- Reads one number or a range of numbers. -/
def numbers (source : List Char) : Step Span :=
  match number source with
  | none => none
  | some (first, '-' :: rest) =>
    match number rest with
    | some (last, rest) => some (.range first last, rest)
    | none => some (.point first, '-' :: rest)
  | some (first, rest) => some (.point first, rest)

/-- Reads a range of names. -/
def namedRange (source : List Char) : Step Span :=
  match name source with
  | some (first, '-' :: rest) => (name rest).map fun (last, rest) => (.namedRange first last, rest)
  | _ => none

/-- Reads a span; where it may be left open, a question mark is one. -/
def span (mayBeOpen : Bool) (source : List Char) : Step Span :=
  (if mayBeOpen then everything '?' source else none) <|> everything '*' source <|>
    numbers source <|> namedRange source

/-- Reads an entry: a span, perhaps with a step, or a name. -/
def entry (mayBeOpen : Bool) (source : List Char) : Step ScheduleEntry :=
  match span mayBeOpen source with
  | some (span, '/' :: rest) =>
    match number rest with
    | some (step, rest) => some (.stepped span step, rest)
    | none => some (.plain span, '/' :: rest)
  | some (span, rest) => some (.plain span, rest)
  | none => (name source).map fun (name, rest) => (.named name, rest)

/-- Reads the entries behind the first, each behind a comma, in a text of at most `length`
characters. -/
def moreEntries (mayBeOpen : Bool) (length : Nat) (source : List Char) :
    List ScheduleEntry × List Char :=
  match length, source with
  | length + 1, ',' :: rest =>
    match entry mayBeOpen rest with
    | none => ([], source)
    | some (entry, rest) =>
      let (entries, rest) := moreEntries mayBeOpen length rest
      (entry :: entries, rest)
  | _, _ => ([], source)

/-- Reads a field of a schedule. -/
def field (kind : ScheduleField) (mayBeOpen : Bool) (source : List Char) : Step (List Nat) :=
  match entry mayBeOpen (skipGap source) with
  | none => none
  | some (first, rest) =>
    let (entries, rest) := moreEntries mayBeOpen rest.length rest
    (kind.values? (first :: entries)).map fun values => (values, skipGap rest)

/-! ### Schedules -/

/-- Reads a schedule written field by field. -/
def ofFields? (source : List Char) : Option Schedule := do
  let (seconds, rest) ← field .second false source
  let (minutes, rest) ← field .minute false rest
  let (hours, rest) ← field .hour false rest
  let (daysOfMonth, rest) ← field .dayOfMonth true rest
  let (months, rest) ← field .month false rest
  let (daysOfWeek, rest) ← field .dayOfWeek true rest
  let (years, rest) := (field .year false rest).getD (ScheduleField.year.all, rest)
  if rest.isEmpty then some ⟨seconds, minutes, hours, daysOfMonth, months, daysOfWeek, years⟩
  else none

/-- The schedule of every hour on the hour. -/
def hourly : Schedule :=
  ⟨[0], [0], ScheduleField.hour.all, ScheduleField.dayOfMonth.all, ScheduleField.month.all,
    ScheduleField.dayOfWeek.all, ScheduleField.year.all⟩

/-- The schedule of every midnight. -/
def daily : Schedule := { hourly with hours := [0] }

/-- The schedule of the midnight that begins a Sunday. -/
def weekly : Schedule := { daily with daysOfWeek := [1] }

/-- The schedule of the midnight that begins a month. -/
def monthly : Schedule := { daily with daysOfMonth := [1] }

/-- The schedule of the midnight that begins a year. -/
def yearly : Schedule := { monthly with months := [1] }

/-- The schedules with names of their own. -/
def named : List (String × Schedule) :=
  [("@yearly", yearly), ("@monthly", monthly), ("@weekly", weekly), ("@daily", daily),
    ("@hourly", hourly)]

/-- The schedule with a name of its own, with gaps around it. -/
def ofName? (source : List Char) : Option Schedule :=
  let word := ((skipGap source).reverse.dropWhile isGap).reverse
  (named.find? fun entry => entry.1.toList == word).map Prod.snd

/-- Reads a schedule. -/
def read (source : String) : Option Schedule :=
  ofName? source.toList <|> ofFields? source.toList

end Schedule

end AccessFeed.Retention
