/-
This file defines the written forms of a date-time and proves how its parts are
scanned.

A rendering is a local time, whole or with a fraction, a T or a blank in its
middle, and an ending: nothing, a Z, or an offset with or without a colon and a
blank in front of it, with any blanks around it all. Its date, its time of day
and its ending are each scanned for what they say, and the end of a form accepts
certain endings and refuses the others.
-/

import AccessFeed.Calendar.OffsetTime
import AccessFeed.Proofs.Dates
import AccessFeed.Proofs.Scans

namespace AccessFeed

namespace Calendar

open Scan (Takes fractionDigits fractionUnits takePiece_number takes_cons takes_nil)
open Text (Digitless digitsOf isBlank padded)

/-! ### Renderings -/

/-- A local time in a year of four digits, with the digits of its fraction of a second. -/
structure LocalTime where
  date : Date
  hour : Fin 24
  minute : Fin 60
  second : Fin 60
  fraction : List (Fin 10)
  fourDigits : 0 ≤ date.year ∧ date.year ≤ 9999

/-- An offset of whole minutes below a day. -/
structure WrittenOffset where
  negative : Bool
  hours : Fin 24
  minutes : Fin 60

/-- What stands behind a written time: nothing, a Z, or an offset, with a blank in front of it or
without and with a colon in it or without. -/
inductive Ending
  | bare
  | zulu
  | offset (spaced colon : Bool) (written : WrittenOffset)

/-- A written date-time: with a T in its middle or with a blank, and with blanks around it. -/
structure Rendering where
  time : LocalTime
  letter : Bool
  ending : Ending
  before : List Char
  after : List Char
  blankBefore : ∀ c ∈ before, isBlank c = true
  blankAfter : ∀ c ∈ after, isBlank c = true

/-- A fraction of a second as it is written. -/
def fractionText : List (Fin 10) → List Char
  | [] => []
  | digits => '.' :: fractionDigits digits

/-- A time of day as it is written. -/
def LocalTime.clockText (time : LocalTime) : List Char :=
  padded 2 (digitsOf time.hour) ++ ':' :: (padded 2 (digitsOf time.minute) ++
    ':' :: (padded 2 (digitsOf time.second) ++ fractionText time.fraction))

/-- An offset as it is written. -/
def WrittenOffset.text (offset : WrittenOffset) (colon : Bool) : List Char :=
  (if offset.negative then '-' else '+') :: (padded 2 (digitsOf offset.hours) ++
    ((if colon then [':'] else []) ++ padded 2 (digitsOf offset.minutes)))

/-- An ending as it is written. -/
def Ending.text : Ending → List Char
  | .bare => []
  | .zulu => ['Z']
  | .offset spaced colon written => (if spaced then [' '] else []) ++ written.text colon

namespace Rendering

/-- The character between the date and the time of day. -/
def middle (rendering : Rendering) : Char :=
  if rendering.letter then 'T' else ' '

/-- A rendering behind its middle, without the blanks there. -/
def back (rendering : Rendering) : List Char :=
  rendering.time.clockText ++ rendering.ending.text

/-- A rendering without the blanks around it. -/
def core (rendering : Rendering) : List Char :=
  rendering.time.date.display.toList ++ rendering.middle :: rendering.back

/-- A rendering as it is written. -/
def text (rendering : Rendering) : String :=
  String.ofList (rendering.before ++ rendering.core ++ rendering.after)

end Rendering

example : Rendering.text ⟨⟨⟨2024, 3, 1, by decide⟩, 0, 29, 59, [1, 2, 5], by decide⟩, false,
    .offset true true ⟨false, 1, 30⟩, [], ['\t'], List.all_eq_true.mp rfl,
    List.all_eq_true.mp rfl⟩ =
      "2024-03-01 00:29:59.125 +01:30\t" := by decide +kernel

/-! ### What renderings mean -/

/-- The seconds from midnight to a local time. -/
def LocalTime.sinceMidnight (time : LocalTime) : Int :=
  (time.hour.val : Int) * 3600 + (time.minute.val : Int) * 60 + time.second.val

/-- The seconds from the beginning of 1970 to a local time, as if there were no offset. -/
def LocalTime.seconds (time : LocalTime) : Int :=
  time.date.dayNumber * 86400 + time.sinceMidnight

/-- The nanoseconds of a local time: its fraction has nine places. -/
def LocalTime.nanos (time : LocalTime) : Nat :=
  fractionUnits 9 time.fraction

/-- The seconds of an offset. -/
def WrittenOffset.seconds (offset : WrittenOffset) : Int :=
  if offset.negative then -((offset.hours.val : Int) * 3600 + offset.minutes.val * 60)
  else (offset.hours.val : Int) * 3600 + offset.minutes.val * 60

/-- The seconds of the offset that an ending tells; without an offset a time is universal. -/
def Ending.seconds : Ending → Int
  | .offset _ _ written => written.seconds
  | _ => 0

namespace Rendering

/-- The instant of a rendering. -/
def instant (rendering : Rendering) : Instant :=
  ⟨rendering.time.seconds - rendering.ending.seconds, rendering.time.nanos⟩

/-- The instant of a rendering with the offset it was written with. -/
def meaning (rendering : Rendering) : OffsetTime :=
  ⟨rendering.ending.seconds, rendering.instant⟩

end Rendering

/-! ### Dates and times of day -/

theorem monthLength_le (year : Int) (month : Nat) : monthLength year month ≤ 31 := by
  rw [monthLength.eq_def]
  split
  case h_2 => split <;> decide
  all_goals decide

namespace LocalTime

/-- What a scan collects from a local time and an offset. -/
def parts (time : LocalTime) (offset : Int) : Parts where
  year := time.date.year
  month := time.date.month
  day := time.date.day
  hour := time.hour
  minute := time.minute
  second := time.second
  nanos := time.nanos
  offset := offset

variable (time : LocalTime)

theorem toList_display : time.date.display.toList =
    padded 4 (digitsOf time.date.year.toNat) ++ '-' :: (padded 2 (digitsOf time.date.month) ++
      '-' :: padded 2 (digitsOf time.date.day)) := by
  rw [Date.display, Date.yearText, if_pos time.fourDigits]
  simp [Text.paddedDecimal]

theorem year_toNat : ((time.date.year.toNat : Nat) : Int) = time.date.year :=
  Int.toNat_of_nonneg time.fourDigits.1

/-- The numbers of a date fit their widths and their ranges. -/
theorem date_fits :
    (time.date.year.toNat < 10 ^ Scan.Part.width .year ∧
      Scan.Part.Admits .year time.date.year.toNat) ∧
    (time.date.month < 10 ^ Scan.Part.width .month ∧ Scan.Part.Admits .month time.date.month) ∧
    (time.date.day < 10 ^ Scan.Part.width .day ∧ Scan.Part.Admits .day time.date.day) := by
  have years := time.fourDigits
  have months := time.date.inYear
  have days := time.date.inMonth
  have most := monthLength_le time.date.year time.date.month
  simp only [Scan.Part.Admits, Scan.Part.range, Scan.Part.width, Scan.greatestYear]
  omega

/-- The numbers of a time of day fit their widths and their ranges. -/
theorem clock_fits :
    (time.hour.val < 10 ^ Scan.Part.width .hour ∧ Scan.Part.Admits .hour time.hour.val) ∧
    (time.minute.val < 10 ^ Scan.Part.width .minute ∧
      Scan.Part.Admits .minute time.minute.val) ∧
    (time.second.val < 10 ^ Scan.Part.width .second ∧
      Scan.Part.Admits .second time.second.val) := by
  simp only [Scan.Part.Admits, Scan.Part.range, Scan.Part.width]
  omega

/-- What a scan has collected behind the date. -/
def dateParts : Parts where
  year := time.date.year
  month := time.date.month
  day := time.date.day

/-- The days of four-digit years, with an offset below a day, lie within the calendar. -/
theorem inRange_seconds {offset : Int} (least : -86399 ≤ offset) (most : offset ≤ 86399) :
    inRange (time.seconds - offset) = true := by
  have firstDay : Date.daysBeforeYear 0 = -366 := by decide
  have lastDay : Date.daysBeforeYear 9999 = 3651694 := by decide
  have fromYear := Date.daysBeforeYear_mono time.fourDigits.1
  have toYear := Date.daysBeforeYear_mono time.fourDigits.2
  have inYear := time.date.dayOfYear_bounds
  have length : yearLength time.date.year ≤ 366 := by
    rw [yearLength]
    split <;> decide
  have number := time.date.dayNumber_eq
  rw [inRange, Bool.and_eq_true, decide_eq_true_eq, decide_eq_true_eq]
  simp only [seconds, sinceMidnight, firstDayNumber, lastDayNumber, secondsPerDay,
    Date.epochDay] at number ⊢
  omega

theorem setPart_date :
    Scan.setPart (Scan.setPart (Scan.setPart {} .year (time.date.year.toNat : Nat)) .month
      time.date.month) .day time.date.day = time.dateParts := by
  rw [year_toNat]
  rfl

/-- The date of a local time is scanned. -/
theorem takes_date (rest : List Char) :
    Takes OffsetTime.datePieces {} (time.date.display.toList ++ rest) time.dateParts rest := by
  obtain ⟨⟨yearSmall, year⟩, ⟨monthSmall, month⟩, ⟨daySmall, day⟩⟩ := time.date_fits
  rw [toList_display, ← setPart_date]
  simp only [List.append_assoc, List.cons_append]
  exact takes_cons (takePiece_number yearSmall year _ _) <| takes_cons rfl <|
    takes_cons (takePiece_number monthSmall month _ _) <| takes_cons rfl <|
    takes_cons (takePiece_number daySmall day _ _) <| takes_nil _ _

/-- The fraction behind a time of day is scanned, if there is one. -/
theorem takePiece_fraction {parts : Parts} (start : parts.nanos = 0) (digits : List (Fin 10))
    {rest : List Char} (stops : Digitless rest) (pointless : ∀ behind, rest ≠ '.' :: behind) :
    Scan.takePiece parts .fraction (fractionText digits ++ rest) =
      .ok ({ parts with nanos := fractionUnits 9 digits }, rest) := by
  cases digits with
  | nil =>
    have untouched : { parts with nanos := fractionUnits 9 [] } = parts := by
      rw [Scan.fractionUnits_nil, ← start]
    rw [untouched, fractionText, List.nil_append, Scan.takePiece.eq_def]
    dsimp only
    split
    · exact absurd rfl (pointless _)
    · rfl
  | cons digit others =>
    show (Scan.takeFraction (fractionDigits (digit :: others) ++ rest) >>= fun taken =>
      pure ({ parts with nanos := taken.1 }, taken.2)) = _
    rw [Scan.takeFraction_digits (List.cons_ne_nil digit others) stops]
    rfl

/-- The time of day is scanned, whatever stands behind it that is no more of it. -/
theorem takes_clock {rest : List Char} (stops : Digitless rest)
    (pointless : ∀ behind, rest ≠ '.' :: behind) :
    Takes OffsetTime.timePieces time.dateParts (time.clockText ++ rest) (time.parts 0) rest := by
  obtain ⟨⟨hourSmall, hour⟩, ⟨minuteSmall, minute⟩, ⟨secondSmall, second⟩⟩ := time.clock_fits
  rw [clockText]
  simp only [List.append_assoc, List.cons_append]
  exact takes_cons (takePiece_number hourSmall hour _ _) <| takes_cons rfl <|
    takes_cons (takePiece_number minuteSmall minute _ _) <| takes_cons rfl <|
    takes_cons (takePiece_number secondSmall second _ _) <|
    takes_cons (takePiece_fraction rfl time.fraction stops pointless) <| takes_nil _ _

end LocalTime

/-! ### Endings -/

/-- Whether a scan accepts a text, and with which parts; what it does not accept it refuses. -/
def Yields (scan : Except ScanFault Parts) (accepts : Bool) (parts : Parts) : Prop :=
  if accepts then scan = .ok parts else ∃ fault, scan = .error fault

namespace WrittenOffset

variable (offset : WrittenOffset)

theorem seconds_bounds : -86399 ≤ offset.seconds ∧ offset.seconds ≤ 86399 := by
  have hours := offset.hours.isLt
  have minutes := offset.minutes.isLt
  rw [seconds]
  split <;> omega

/-- An offset is taken if what stands between its hours and its minutes is. -/
theorem takeOffset_text {separator : List Char → Except ScanFault (List Char)} (colon : Bool)
    (separates : separator ((if colon then [':'] else []) ++
      padded 2 (digitsOf offset.minutes)) = .ok (padded 2 (digitsOf offset.minutes))) :
    Scan.takeOffset separator (offset.text colon) = .ok (offset.seconds, []) := by
  have taken := @Scan.takeOffset_written separator offset.negative offset.hours.val
    offset.minutes.val (by omega) offset.minutes.isLt (if colon then [':'] else []) []
  rw [List.append_nil] at taken
  exact taken separates

/-- Between hours and minutes any colons and blanks are passed over. -/
theorem anySeparator_colon (colon : Bool) :
    Scan.anySeparator ((if colon then [':'] else []) ++ padded 2 (digitsOf offset.minutes)) =
      .ok (padded 2 (digitsOf offset.minutes)) := by
  have stops : ∀ digit : Fin 10, (Text.digitChar digit.val == ':' ||
      isBlank (Text.digitChar digit.val)) = false := by decide
  rw [Text.padded_two (by omega)]
  have tens := stops ⟨offset.minutes.val / 10, by omega⟩
  cases colon <;> simp [Scan.anySeparator, tens]

theorem takeLiteral_colon_refused :
    Scan.takeLiteral ':' (padded 2 (digitsOf offset.minutes)) = .error .invalid := by
  have digits : ∀ digit : Fin 10, Text.digitChar digit.val ≠ ':' := by decide
  rw [Text.padded_two (by omega), Scan.takeLiteral,
    if_neg (digits ⟨offset.minutes.val / 10, by omega⟩)]

end WrittenOffset

namespace Ending

/-- Whether an ending tells an offset in numbers. -/
def hasOffset : Ending → Bool
  | .offset .. => true
  | _ => false

/-- Whether an ending is one of the internet form. -/
def isInternet : Ending → Bool
  | .zulu => true
  | .offset false true _ => true
  | _ => false

/-- Whether there is no ending. -/
def isBare : Ending → Bool
  | .bare => true
  | _ => false

variable (ending : Ending)

theorem seconds_bounds : -86399 ≤ ending.seconds ∧ ending.seconds ≤ 86399 := by
  cases ending with
  | offset spaced colon written => exact written.seconds_bounds
  | _ => decide

/-- An ending begins with a blank, a Z or a sign. -/
theorem begins {c : Char} {rest : List Char} (here : ending.text = c :: rest) :
    c = ' ' ∨ c = 'Z' ∨ c = '-' ∨ c = '+' := by
  cases ending with
  | bare => cases here
  | zulu => exact .inr (.inl (List.cons.inj here).1.symm)
  | offset spaced colon written =>
    rw [text] at here
    cases spaced with
    | true => exact .inl (List.cons.inj here).1.symm
    | false =>
      obtain ⟨rfl, -⟩ := List.cons.inj here
      split
      · exact .inr (.inr (.inl rfl))
      · exact .inr (.inr (.inr rfl))

theorem digitless : Digitless ending.text := by
  intro c rest here
  obtain rfl | rfl | rfl | rfl := ending.begins here <;> decide

theorem pointless (behind : List Char) : ending.text ≠ '.' :: behind :=
  fun here => absurd (ending.begins here) (by decide)

/-- At the end of a pattern an offset in numbers is accepted, and nothing else. -/
theorem yields_offset (parts : Parts) :
    Yields (Scan.byPattern parts [.offset] ending.text) ending.hasOffset
      { parts with offset := ending.seconds } := by
  cases ending with
  | bare => exact ⟨.tooShort, rfl⟩
  | zulu => exact ⟨.invalid, rfl⟩
  | offset spaced colon written =>
    have skipped : Text.skipBlanks (text (.offset spaced colon written)) = written.text colon := by
      rw [text, WrittenOffset.text]
      cases spaced <;> cases written.negative <;> rfl
    show Scan.byPattern parts [.offset] _ = _
    rw [Scan.byPattern, Scan.takePiece, skipped,
      written.takeOffset_text colon (written.anySeparator_colon colon)]
    rfl

theorem yields_blanks_offset (parts : Parts) :
    Yields (Scan.byPattern parts [.blanks, .offset] ending.text) ending.hasOffset
      { parts with offset := ending.seconds } := by
  have same : Scan.byPattern parts [.blanks, .offset] ending.text =
      Scan.byPattern parts [.offset] ending.text := by
    show Scan.byPattern parts [.offset] (Text.skipBlanks ending.text) = _
    rw [Scan.byPattern, Scan.takePiece, Text.skipBlanks_skipBlanks]
    rfl
  rw [same]
  exact ending.yields_offset parts

/-- At the end of a pattern without an offset nothing may be left. -/
theorem yields_nothing (parts : Parts) :
    Yields (Scan.byPattern parts [] ending.text) ending.isBare parts := by
  cases ending with
  | bare => rfl
  | zulu => exact ⟨.tooLong, rfl⟩
  | offset spaced colon written => cases spaced <;> exact ⟨.tooLong, rfl⟩

/-- The internet form accepts a Z, or an offset with a colon and nothing in front of it. -/
theorem takeZone_text :
    if ending.isInternet then
      OffsetTime.scanInternet.takeZone ending.text = .ok (ending.seconds, [])
    else ∃ fault, OffsetTime.scanInternet.takeZone ending.text = .error fault := by
  cases ending with
  | bare => exact ⟨.tooShort, rfl⟩
  | zulu => rfl
  | offset spaced colon written =>
    have unnamed : OffsetTime.scanInternet.takeZone (written.text colon) =
        Scan.takeOffset (Scan.takeLiteral ':') (written.text colon) := by
      rw [WrittenOffset.text]
      cases written.negative <;> rfl
    cases spaced with
    | true => exact ⟨.invalid, rfl⟩
    | false =>
      cases colon with
      | true => exact unnamed.trans (written.takeOffset_text true rfl)
      | false =>
        refine ⟨.invalid, unnamed.trans ?_⟩
        exact Scan.takeOffset_refused written.negative (by omega) written.takeLiteral_colon_refused

end Ending

end Calendar

end AccessFeed
