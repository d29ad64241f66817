/-
This file numbers the days of the calendar without gaps.

Years and months begin where the ones before them end, so that the next day has
the next number, later years and months have greater numbers, and a date is
determined by its number.
-/

import AccessFeed.Calendar.Date
import Mathlib.Tactic.IntervalCases

namespace AccessFeed.Calendar

/-- The number of days of a year. -/
def yearLength (year : Int) : Nat :=
  if isLeapYear year then 366 else 365

/-- A month of the calendar has days only if it is one of twelve. -/
theorem month_of_day {year : Int} {month day : Nat} (first : 1 ≤ day)
    (last : day ≤ monthLength year month) : 1 ≤ month ∧ month ≤ 12 := by
  unfold monthLength at last
  split at last <;> omega

theorem monthLength_pos (year : Int) {month : Nat} (first : 1 ≤ month) (last : month ≤ 12) :
    1 ≤ monthLength year month := by
  interval_cases month <;> simp only [monthLength, Nat.one_le_ofNat]
  case «2» => split <;> decide

namespace Date

theorem inMonth (date : Date) : 1 ≤ date.day ∧ date.day ≤ monthLength date.year date.month := by
  have named := date.inCalendar
  simp only [isDay, Bool.and_eq_true, decide_eq_true_eq] at named
  exact ⟨named.1.2, named.2⟩

theorem inYears (date : Date) : firstYear ≤ date.year ∧ date.year ≤ lastYear := by
  have named := date.inCalendar
  simp only [isDay, Bool.and_eq_true, decide_eq_true_eq] at named
  exact named.1.1

theorem inYear (date : Date) : 1 ≤ date.month ∧ date.month ≤ 12 :=
  month_of_day date.inMonth.1 date.inMonth.2

theorem parts_of_ofParts? {year : Int} {month day : Nat} {date : Date}
    (made : ofParts? year month day = some date) :
    date.year = year ∧ date.month = month ∧ date.day = day := by
  rw [ofParts?] at made
  split at made
  · obtain rfl := Option.some.inj made
    exact ⟨rfl, rfl, rfl⟩
  · cases made

/-! ### Years and months -/

/-- A year begins where the one before it ends. -/
theorem daysBeforeYear_succ (year : Int) :
    daysBeforeYear (year + 1) = daysBeforeYear year + yearLength year := by
  have leap : isLeapYear year = true ↔ year % 4 = 0 ∧ (year % 100 ≠ 0 ∨ year % 400 = 0) := by
    simp [isLeapYear]
  simp only [daysBeforeYear, yearLength, Int.add_sub_cancel]
  split
  · rename_i isLeap
    rw [leap] at isLeap
    omega
  · rename_i isCommon
    rw [leap] at isCommon
    omega

theorem daysBeforeYear_mono {first second : Int} (before : first ≤ second) :
    daysBeforeYear first ≤ daysBeforeYear second := by
  simp only [daysBeforeYear]
  omega

/-- A month begins where the one before it ends. -/
theorem daysBeforeMonth_succ (year : Int) {month : Nat} (first : 1 ≤ month) :
    daysBeforeMonth year (month + 1) =
      daysBeforeMonth year month + monthLength year month := by
  cases month with
  | zero => omega
  | succ month => rfl

theorem daysBeforeMonth_mono (year : Int) {first second : Nat} (positive : 1 ≤ first)
    (before : first ≤ second) : daysBeforeMonth year first ≤ daysBeforeMonth year second := by
  induction before with
  | refl => exact Nat.le_refl _
  | @step month before inductionHypothesis =>
    have next := daysBeforeMonth_succ year (Nat.le_trans positive before)
    rw [Nat.succ_eq_add_one]
    omega

/-- The twelve months make up the year. -/
theorem daysBeforeMonth_thirteen (year : Int) : daysBeforeMonth year 13 = yearLength year := by
  simp only [daysBeforeMonth, monthLength, yearLength]
  split <;> rfl

/-- The days of a year up to a date, the date itself among them. -/
def dayOfYear (date : Date) : Nat :=
  daysBeforeMonth date.year date.month + date.day

theorem dayNumber_eq (date : Date) :
    date.dayNumber = daysBeforeYear date.year + date.dayOfYear - 1 - epochDay := by
  simp only [dayNumber, dayOfYear]
  omega

theorem dayOfYear_bounds (date : Date) :
    1 ≤ date.dayOfYear ∧ date.dayOfYear ≤ yearLength date.year := by
  have inMonth := date.inMonth
  have inYear := date.inYear
  have upTo := daysBeforeMonth_succ date.year inYear.1
  have within : daysBeforeMonth date.year (date.month + 1) ≤ daysBeforeMonth date.year 13 :=
    daysBeforeMonth_mono date.year (by omega) (by omega)
  rw [daysBeforeMonth_thirteen] at within
  simp only [dayOfYear]
  omega

/-! ### Numbers of days -/

/-- A day of a later year has a greater number. -/
theorem dayNumber_lt_of_year {first second : Date} (before : first.year < second.year) :
    first.dayNumber < second.dayNumber := by
  have years := daysBeforeYear_mono (show first.year + 1 ≤ second.year by omega)
  rw [daysBeforeYear_succ] at years
  have early := first.dayOfYear_bounds
  have late := second.dayOfYear_bounds
  rw [dayNumber_eq, dayNumber_eq]
  omega

theorem year_le {first second : Date} (upTo : first.dayNumber ≤ second.dayNumber) :
    first.year ≤ second.year := by
  refine Int.not_lt.mp fun back => ?_
  have := dayNumber_lt_of_year back
  omega

/-- Within a year, a day of a later month comes later. -/
theorem dayOfYear_lt_of_month {first second : Date} (same : first.year = second.year)
    (before : first.month < second.month) : first.dayOfYear < second.dayOfYear := by
  have months : daysBeforeMonth first.year (first.month + 1) ≤
      daysBeforeMonth first.year second.month :=
    daysBeforeMonth_mono first.year (by omega) before
  rw [daysBeforeMonth_succ first.year first.inYear.1] at months
  have early := first.inMonth
  have late := second.inMonth
  simp only [dayOfYear, ← same]
  omega

/-- A date is determined by its number. -/
theorem dayNumber_injective {first second : Date} (same : first.dayNumber = second.dayNumber) :
    first = second := by
  have year : first.year = second.year := by
    rcases Int.lt_trichotomy first.year second.year with before | same | behind
    · have := dayNumber_lt_of_year before
      omega
    · exact same
    · have := dayNumber_lt_of_year behind
      omega
  have upTo : first.dayOfYear = second.dayOfYear := by
    rw [dayNumber_eq, dayNumber_eq, year] at same
    omega
  have month : first.month = second.month := by
    rcases Nat.lt_trichotomy first.month second.month with before | same | behind
    · have := dayOfYear_lt_of_month year before
      omega
    · exact same
    · have := dayOfYear_lt_of_month year.symm behind
      omega
  have day : first.day = second.day := by
    simp only [dayOfYear, year, month] at upTo
    omega
  obtain ⟨firstYear, firstMonth, firstDay, _⟩ := first
  obtain ⟨secondYear, secondMonth, secondDay, _⟩ := second
  simp only at year month day
  subst year month day
  rfl

/-- The days of the calendar are numbered from its first one to its last one. -/
theorem dayNumber_le (date : Date) : date.dayNumber ≤ 95026236 := by
  have years := daysBeforeYear_mono date.inYears.2
  have end_ : daysBeforeYear lastYear + yearLength lastYear - 1 - epochDay = 95026236 := by decide
  have inYear := date.dayOfYear_bounds
  have whole : daysBeforeYear date.year + yearLength date.year ≤
      daysBeforeYear lastYear + yearLength lastYear := by
    rw [← daysBeforeYear_succ, ← daysBeforeYear_succ]
    exact daysBeforeYear_mono (by have := date.inYears.2; omega)
  rw [dayNumber_eq]
  omega

/-- Behind the first year of the calendar there is a day in front of every date. -/
theorem lt_dayNumber {date : Date} (behind : firstYear < date.year) :
    -96465292 < date.dayNumber := by
  have years := daysBeforeYear_mono (show firstYear + 1 ≤ date.year by omega)
  have start : daysBeforeYear (firstYear + 1) - epochDay = -96465292 + 365 := by decide
  have inYear := date.dayOfYear_bounds
  rw [dayNumber_eq]
  omega

/-! ### The next day -/

/-- The next day has the next number. -/
theorem dayNumber_next {date next : Date} (follows : date.next? = some next) :
    next.dayNumber = date.dayNumber + 1 := by
  have inMonth := date.inMonth
  rw [next?] at follows
  split at follows
  · obtain ⟨year, month, day⟩ := parts_of_ofParts? follows
    simp only [dayNumber, year, month, day]
    omega
  · rename_i atEnd
    have upTo := daysBeforeMonth_succ date.year date.inYear.1
    split at follows
    · obtain ⟨year, month, day⟩ := parts_of_ofParts? follows
      simp only [dayNumber, year, month, day]
      omega
    · obtain ⟨year, month, day⟩ := parts_of_ofParts? follows
      have last : date.month = 12 := by
        have := date.inYear
        omega
      have whole := daysBeforeMonth_thirteen date.year
      rw [last] at upTo inMonth atEnd
      rw [upTo] at whole
      have first : daysBeforeMonth (date.year + 1) 1 = 0 := rfl
      simp only [dayNumber, year, month, day, daysBeforeYear_succ, last, first]
      omega

theorem firstYear_lt_next {date next : Date} (follows : date.next? = some next)
    (inside : firstYear < date.year) : firstYear < next.year := by
  have number := dayNumber_next follows
  exact Int.lt_of_lt_of_le inside (year_le (by omega))

/-- Only the last year of the calendar has a day that no day follows. -/
theorem exists_next {date : Date} (early : date.year < lastYear) :
    ∃ next, date.next? = some next := by
  have inMonth := date.inMonth
  have inYear := date.inYear
  have inYears := date.inYears
  have made : ∀ {year : Int} {month day : Nat}, isDay year month day = true →
      ∃ next, ofParts? year month day = some next := fun named => ⟨_, dif_pos named⟩
  rw [next?]
  split
  · refine made ?_
    simp only [isDay, Bool.and_eq_true, decide_eq_true_eq]
    omega
  · split
    · refine made ?_
      have : 1 ≤ monthLength date.year (date.month + 1) :=
        monthLength_pos date.year (by omega) (by omega)
      simp only [isDay, Bool.and_eq_true, decide_eq_true_eq]
      omega
    · refine made ?_
      have : 1 ≤ monthLength (date.year + 1) 1 :=
        monthLength_pos (date.year + 1) (by omega) (by omega)
      simp only [isDay, Bool.and_eq_true, decide_eq_true_eq]
      omega

end Date

end AccessFeed.Calendar
