/-
This file lays the days of a time zone out in time.

The clock of a zone maps instants to local times. Of a zone whose clock is never
set back by more than a day, nor behind the time to which the change before it
set it, the clock never falls back by a whole day, whatever else the changes do:
midnights may be skipped or repeated, but they are met in the order of their
dates. So the days that have bounds do not overlap, and what they leave out are
the stretches around the skipped midnights.
-/

import AccessFeed.Calendar.Zone
import AccessFeed.Proofs.Dates

namespace AccessFeed.Calendar

namespace Instant

/-! ### The order of instants -/

theorem le_refl (at_ : Instant) : at_ ≤ at_ := by
  rw [le_iff, lt_iff]
  omega

theorem le_of_lt {first second : Instant} (before : first < second) : first ≤ second := by
  rw [le_iff, lt_iff]
  rw [lt_iff] at before
  omega

theorem not_le {first second : Instant} : ¬ first ≤ second ↔ second < first := by
  rw [le_iff, not_not]

theorem not_lt_of_le {first second : Instant} (upTo : first ≤ second) : ¬ second < first :=
  le_iff.mp upTo

theorem lt_of_lt_of_le {first second third : Instant} (before : first < second)
    (upTo : second ≤ third) : first < third :=
  not_le.mp fun behind => not_lt_of_le (le_trans upTo behind) before

end Instant

namespace Zone

variable {zone : Zone}

/-! ### The clock -/

/-- The local time that the clock of a zone shows at an instant, both in seconds. -/
def clock (zone : Zone) (seconds : Int) : Int :=
  seconds + zone.offsetAt seconds

theorem offsetFrom_mem (base seconds : Int) (changes : List (Int × Int)) :
    offsetFrom base seconds changes ∈ base :: changes.map Prod.snd := by
  induction changes generalizing base with
  | nil => exact List.mem_singleton_self base
  | cons change rest inductionHypothesis =>
    rw [offsetFrom]
    split
    · exact List.mem_cons_self
    · exact List.mem_cons_of_mem _ (inductionHypothesis change.2)

/-- The instants at which a local time is met are those at which the clock shows it. -/
theorem mem_instantsOf {seconds localSeconds : Int} :
    seconds ∈ zone.instantsOf localSeconds ↔ zone.clock seconds = localSeconds := by
  rw [instantsOf, List.mem_filter, List.mem_map, beq_iff_eq]
  refine ⟨And.right, fun shown => ⟨⟨zone.offsetAt seconds, ?_, ?_⟩, shown⟩⟩
  · exact offsetFrom_mem zone.base seconds zone.changes
  · rw [← shown, clock, Int.add_sub_cancel]

theorem first?_eq_none_iff {instants : List Int} : first? instants = none ↔ instants = [] := by
  cases instants with
  | nil => simp [first?]
  | cons seconds rest =>
    rw [first?]
    split <;> simp

/-- The first of some instants is one of them and in front of the others. -/
theorem first?_spec {instants : List Int} {least : Int} (found : first? instants = some least) :
    least ∈ instants ∧ ∀ other ∈ instants, least ≤ other := by
  induction instants generalizing least with
  | nil => cases found
  | cons seconds rest inductionHypothesis =>
    rw [first?] at found
    cases behind : first? rest with
    | none =>
      rw [behind] at found
      obtain rfl := Option.some.inj found
      rw [first?_eq_none_iff] at behind
      simp [behind]
    | some other =>
      rw [behind] at found
      obtain ⟨member, before⟩ := inductionHypothesis behind
      have least_eq : (if seconds ≤ other then seconds else other) = least :=
        Option.some.inj found
      refine ⟨?_, fun another listed => ?_⟩
      · rw [← least_eq]
        split
        · exact List.mem_cons_self
        · exact List.mem_cons_of_mem _ member
      · rcases List.mem_cons.mp listed with rfl | listed
        · split at least_eq <;> omega
        · have := before another listed
          split at least_eq <;> omega

/-! ### Midnights -/

/-- The local time of the midnight with which a date begins. -/
def midnightOf (date : Date) : Int :=
  date.dayNumber * secondsPerDay

/-- Whether a date begins at an instant: the clock shows its midnight there for the first time. -/
structure Begins (zone : Zone) (date : Date) (start : Instant) : Prop where
  whole : start.nanos = 0
  shown : zone.clock start.seconds = midnightOf date
  first : ∀ seconds, zone.clock seconds = midnightOf date → start.seconds ≤ seconds

/-- Whether the clock never shows the midnight of a date. -/
def Skips (zone : Zone) (date : Date) : Prop :=
  ∀ seconds, zone.clock seconds ≠ midnightOf date

theorem Begins.unique {date : Date} {one other : Instant} (first : zone.Begins date one)
    (second : zone.Begins date other) : one = other := by
  have seconds : one.seconds = other.seconds :=
    Int.le_antisymm (first.first _ second.shown) (second.first _ first.shown)
  obtain ⟨oneSeconds, oneNanos⟩ := one
  obtain ⟨otherSeconds, otherNanos⟩ := other
  obtain rfl : oneNanos = 0 := first.whole
  obtain rfl : otherNanos = 0 := second.whole
  exact congrArg (Instant.mk · 0) seconds

theorem Begins.not_skips {date : Date} {start : Instant} (begins : zone.Begins date start) :
    ¬ zone.Skips date := fun skips => skips _ begins.shown

theorem begins_of_first? {date : Date} {least : Int}
    (found : first? (zone.instantsOf (midnightOf date)) = some least) :
    zone.Begins date ⟨least, 0⟩ := by
  obtain ⟨member, before⟩ := first?_spec found
  exact ⟨rfl, mem_instantsOf.mp member, fun seconds shown =>
    before seconds (mem_instantsOf.mpr shown)⟩

theorem skips_iff {date : Date} :
    zone.Skips date ↔ first? (zone.instantsOf (midnightOf date)) = none := by
  rw [first?_eq_none_iff, List.eq_nil_iff_forall_not_mem]
  exact forall_congr' fun seconds => not_congr mem_instantsOf.symm

/-- A midnight that is shown at all is shown for a first time. -/
theorem skips_or_begins (zone : Zone) (date : Date) :
    zone.Skips date ∨ ∃ start, zone.Begins date start := by
  cases found : first? (zone.instantsOf (midnightOf date)) with
  | none => exact Or.inl (skips_iff.mpr found)
  | some least => exact Or.inr ⟨_, begins_of_first? found⟩

/-- The failure of a date that the clock skips the midnight of. -/
def missing (zone : Zone) (date : Date) : Failure :=
  .invalidParameter ("Midnight of " ++ date.display ++ " does not exist in " ++ zone.name)

theorem midnight_of_skips {date : Date} (skips : zone.Skips date) :
    zone.midnight date = .error (missing zone date) := by
  have lacking : zone.earliest? (date.dayNumber * secondsPerDay) = none := by
    rw [skips_iff, midnightOf] at skips
    rw [earliest?, skips]
    rfl
  delta midnight
  rw [lacking]
  rfl

/-- A midnight that is shown is found if the calendar has its instant. -/
theorem midnight_of_first? {date : Date} {least : Int}
    (found : first? (zone.instantsOf (midnightOf date)) = some least) :
    zone.midnight date =
      if inRange least && nanosFit least 0 then .ok ⟨least, 0⟩ else .error (missing zone date) := by
  have named : zone.earliest? (date.dayNumber * secondsPerDay) = Instant.ofParts? least 0 := by
    rw [midnightOf] at found
    rw [earliest?, found]
    rfl
  delta midnight
  rw [named, Instant.ofParts?]
  cases inRange least && nanosFit least 0 <;> rfl

theorem begins_of_midnight {date : Date} {start : Instant}
    (found : zone.midnight date = .ok start) : zone.Begins date start := by
  cases first : first? (zone.instantsOf (midnightOf date)) with
  | none =>
    have skipped := midnight_of_skips (skips_iff.mpr first)
    cases skipped.symm.trans found
  | some least =>
    have shown := (midnight_of_first? first).symm.trans found
    split at shown
    · obtain rfl := Except.ok.inj shown
      exact begins_of_first? first
    · cases shown

/-! ### Clocks that keep their pace -/

/-- Whether the changes behind an offset never set the clock back by more than a day, nor behind the
local time to which the change before them set it. -/
def isPaced (base : Int) : List (Int × Int) → Bool
  | [] => true
  | (start, offset) :: rest =>
    base - offset ≤ secondsPerDay &&
      (rest.head?.all fun later => start + offset ≤ later.1 + later.2) && isPaced offset rest

/-- Whether the offsets of a zone are shorter than a day and its clock keeps its pace. -/
structure Regular (zone : Zone) : Prop where
  near : ∀ offset ∈ zone.offsets, -secondsPerDay < offset ∧ offset < secondsPerDay
  paced : isPaced zone.base zone.changes = true

instance (zone : Zone) : Decidable zone.Regular :=
  decidable_of_iff
    ((∀ offset ∈ zone.offsets, -secondsPerDay < offset ∧ offset < secondsPerDay) ∧
      isPaced zone.base zone.changes = true)
    ⟨fun both => ⟨both.1, both.2⟩, fun regular => ⟨regular.near, regular.paced⟩⟩

/-- Every zone of the database is regular. -/
theorem regular_of_database : ∀ zone ∈ database, zone.Regular := by decide

/-- Behind a change the clock is never behind the local time to which the change set it. -/
theorem le_clock_of_change {start offset : Int} {rest : List (Int × Int)}
    (onward : (rest.head?.all fun later => decide (start + offset ≤ later.1 + later.2)) = true)
    (paced : isPaced offset rest = true) {seconds : Int} (behind : start ≤ seconds) :
    start + offset ≤ seconds + offsetFrom offset seconds rest := by
  induction rest generalizing start offset with
  | nil =>
    rw [offsetFrom]
    omega
  | cons change rest inductionHypothesis =>
    obtain ⟨next, other⟩ := change
    rw [offsetFrom]
    split
    · omega
    · rename_i passed
      simp only [isPaced, Bool.and_eq_true] at paced
      have later := inductionHypothesis paced.1.2 paced.2 (Int.not_lt.mp passed)
      simp only [List.head?_cons, Option.all_some, decide_eq_true_eq] at onward
      omega

/-- However often it is set back, the clock falls back by less than a day. -/
theorem offsetFrom_lt {base : Int} {changes : List (Int × Int)}
    (paced : isPaced base changes = true) {early late : Int} (before : early < late) :
    early + offsetFrom base early changes - secondsPerDay <
      late + offsetFrom base late changes := by
  induction changes generalizing base with
  | nil =>
    simp only [offsetFrom, secondsPerDay]
    omega
  | cons change rest inductionHypothesis =>
    obtain ⟨start, offset⟩ := change
    simp only [isPaced, Bool.and_eq_true, decide_eq_true_eq] at paced
    rw [offsetFrom, offsetFrom]
    rcases Int.lt_or_le late start with unchanged | changed
    · rw [if_pos (Int.lt_trans before unchanged), if_pos unchanged]
      simp only [secondsPerDay]
      omega
    · rw [if_neg (Int.not_lt.mpr changed)]
      split
      · have later := le_clock_of_change paced.1.2 paced.2 changed
        have setBack := paced.1.1
        omega
      · exact inductionHypothesis paced.2

theorem Regular.clock_lt (regular : zone.Regular) {early late : Int} (before : early < late) :
    zone.clock early - secondsPerDay < zone.clock late :=
  offsetFrom_lt regular.paced before

/-- Dates begin in their order. -/
theorem Regular.begins_lt (regular : zone.Regular) {early late : Date} {first second : Instant}
    (one : zone.Begins early first) (other : zone.Begins late second)
    (before : early.dayNumber < late.dayNumber) : first < second := by
  have dayApart : midnightOf early + secondsPerDay ≤ midnightOf late := by
    simp only [midnightOf, secondsPerDay]
    omega
  rw [Instant.lt_iff]
  refine Or.inl (Int.not_le.mp fun behind => ?_)
  rcases Int.lt_or_eq_of_le behind with behind | same
  · have fallen := regular.clock_lt behind
    rw [one.shown, other.shown] at fallen
    omega
  · have shown := other.shown
    rw [same, one.shown] at shown
    rw [shown, secondsPerDay] at dayApart
    omega

/-- Within the calendar every midnight that is shown is an instant. -/
theorem Regular.midnight_of_begins (regular : zone.Regular) {date : Date} {start : Instant}
    (inside : firstYear < date.year) (begins : zone.Begins date start) :
    zone.midnight date = .ok start := by
  cases found : first? (zone.instantsOf (midnightOf date)) with
  | none => exact absurd (skips_iff.mpr found) begins.not_skips
  | some least =>
    obtain rfl := begins.unique (begins_of_first? found)
    have near := regular.near _ (offsetFrom_mem zone.base least zone.changes)
    have shown := begins.shown
    have above := Date.lt_dayNumber inside
    have below := date.dayNumber_le
    have within : (inRange least && nanosFit least 0) = true := by
      simp only [clock, offsetAt, midnightOf, secondsPerDay] at shown near
      simp only [inRange, nanosFit, Bool.and_eq_true, Bool.or_eq_true, decide_eq_true_eq]
      simp only [firstDayNumber, lastDayNumber, secondsPerDay, nanosPerSecond]
      omega
    rw [midnight_of_first? found, if_pos within]

/-! ### Bounds -/

/-- A day that has bounds lies between its own beginning and that of the next day. -/
theorem begins_of_dayBounds {date : Date} {start stop : Instant}
    (bounded : zone.dayBounds date = .ok (start, stop)) :
    ∃ next, date.next? = some next ∧ zone.Begins date start ∧ zone.Begins next stop := by
  rw [dayBounds] at bounded
  cases follows : date.next? with
  | none =>
    rw [follows] at bounded
    cases bounded
  | some next =>
    rw [follows] at bounded
    dsimp only [bind, Except.bind] at bounded
    cases first : zone.midnight date with
    | error failure =>
      rw [first] at bounded
      cases bounded
    | ok begun =>
      cases second : zone.midnight next with
      | error failure =>
        rw [first, second] at bounded
        cases bounded
      | ok ended =>
        rw [first, second] at bounded
        obtain ⟨rfl, rfl⟩ := Prod.mk.inj (Except.ok.inj bounded)
        exact ⟨next, rfl, begins_of_midnight first, begins_of_midnight second⟩

theorem dayBounds_of_skips {date next : Date} (follows : date.next? = some next)
    (skips : zone.Skips date) : zone.dayBounds date = .error (missing zone date) := by
  rw [dayBounds, follows]
  dsimp only
  rw [midnight_of_skips skips]
  rfl

section

variable (regular : zone.Regular) {date next : Date} (inside : firstYear < date.year)
  (follows : date.next? = some next)

include regular inside follows

theorem Regular.dayBounds_of_begins {start stop : Instant} (begins : zone.Begins date start)
    (ends : zone.Begins next stop) : zone.dayBounds date = .ok (start, stop) := by
  have later := regular.midnight_of_begins (Date.firstYear_lt_next follows inside) ends
  rw [dayBounds, follows]
  dsimp only
  rw [regular.midnight_of_begins inside begins, later]
  rfl

theorem Regular.dayBounds_of_next_skips {start : Instant} (begins : zone.Begins date start)
    (skips : zone.Skips next) : zone.dayBounds date = .error (missing zone next) := by
  rw [dayBounds, follows]
  dsimp only
  rw [regular.midnight_of_begins inside begins, midnight_of_skips skips]
  rfl

end

/-- Whether an instant lies within the bounds of a date. -/
def Contains (zone : Zone) (date : Date) (at_ : Instant) : Prop :=
  ∃ start stop, zone.dayBounds date = .ok (start, stop) ∧ start ≤ at_ ∧ at_ < stop

/-- Whether an instant lies in the stretch around a skipped midnight: behind the beginnings of all
dates in front of it, and in front of those of all dates behind it. -/
structure LiesAround (zone : Zone) (skipped : Date) (at_ : Instant) : Prop where
  skips : zone.Skips skipped
  behind : ∀ date start, zone.Begins date start → date.dayNumber < skipped.dayNumber → start ≤ at_
  before : ∀ date start, zone.Begins date start → skipped.dayNumber < date.dayNumber → at_ < start

namespace Regular

variable (regular : zone.Regular)

include regular

theorem begins_le {early late : Date} {first second : Instant} (one : zone.Begins early first)
    (other : zone.Begins late second) (upTo : early.dayNumber ≤ late.dayNumber) :
    first ≤ second := by
  rcases Int.lt_or_eq_of_le upTo with before | same
  · exact Instant.le_of_lt (regular.begins_lt one other before)
  · obtain rfl := Date.dayNumber_injective same
    obtain rfl := one.unique other
    exact Instant.le_refl first

/-- Between two beginnings there is a last one up to any instant. -/
theorem exists_last_begun {early final : Date} {start stop at_ : Instant}
    (begins : zone.Begins early start) (upTo : start ≤ at_) (ends : zone.Begins final stop)
    (before : at_ < stop) :
    ∃ date begun, zone.Begins date begun ∧ begun ≤ at_ ∧ early.dayNumber ≤ date.dayNumber ∧
      date.dayNumber < final.dayNumber ∧
      ∀ later start, zone.Begins later start → date.dayNumber < later.dayNumber → at_ < start := by
  have inFront : ∀ {date : Date} {begun : Instant}, zone.Begins date begun → begun ≤ at_ →
      date.dayNumber < final.dayNumber := fun begun reached =>
    Int.not_le.mp fun behind => Instant.not_lt_of_le
      (Instant.le_trans (regular.begins_le ends begun behind) reached) before
  induction span : (final.dayNumber - early.dayNumber).toNat using Nat.strongRecOn
    generalizing early start with
  | _ span inductionHypothesis =>
    by_cases later : ∃ other begun, zone.Begins other begun ∧ begun ≤ at_ ∧
        early.dayNumber < other.dayNumber
    · obtain ⟨other, begun, begins', reached, behind⟩ := later
      have early' := inFront begins upTo
      have other' := inFront begins' reached
      obtain ⟨date, begun, found, reached, onward, front, last⟩ :=
        inductionHypothesis _ (by omega) begins' reached rfl
      exact ⟨date, begun, found, reached, by omega, front, last⟩
    · refine ⟨early, start, begins, upTo, Int.le_refl _, inFront begins upTo, ?_⟩
      intro other begun begins' behind
      exact Instant.not_le.mp fun reached => later ⟨other, begun, begins', reached, behind⟩

theorem contains_unique {one other : Date} {at_ : Instant} (first : zone.Contains one at_)
    (second : zone.Contains other at_) : one = other := by
  -- Of two different dates the earlier one ends where, or before, the later one begins.
  have apart : ∀ {early late : Date}, zone.Contains early at_ → zone.Contains late at_ →
      ¬ early.dayNumber < late.dayNumber := by
    rintro early late ⟨_, stop, bounded, -, before⟩ ⟨start, _, bounded', upTo, -⟩ inFront
    obtain ⟨next, follows, -, ends⟩ := begins_of_dayBounds bounded
    obtain ⟨_, -, begins, -⟩ := begins_of_dayBounds bounded'
    have number := Date.dayNumber_next follows
    have ended := regular.begins_le ends begins (by omega)
    exact Instant.not_lt_of_le (Instant.le_trans ended upTo) before
  refine Date.dayNumber_injective (Int.le_antisymm ?_ ?_)
  · exact Int.not_lt.mp (apart second first)
  · exact Int.not_lt.mp (apart first second)

omit regular in
theorem not_contains_of_liesAround {skipped date : Date} {at_ : Instant}
    (around : zone.LiesAround skipped at_) : ¬ zone.Contains date at_ := by
  rintro ⟨start, stop, bounded, upTo, before⟩
  obtain ⟨next, follows, begins, ends⟩ := begins_of_dayBounds bounded
  have number := Date.dayNumber_next follows
  rcases Int.lt_trichotomy skipped.dayNumber date.dayNumber with front | same | behind
  · exact Instant.not_lt_of_le upTo (around.before date start begins front)
  · obtain rfl := Date.dayNumber_injective same
    exact begins.not_skips around.skips
  · rcases Int.lt_or_eq_of_le (show next.dayNumber ≤ skipped.dayNumber by omega) with front | same
    · exact Instant.not_lt_of_le (around.behind next stop ends front) before
    · obtain rfl := Date.dayNumber_injective same
      exact ends.not_skips around.skips

/-- Between the bounds of two dates every instant lies in a day or around a skipped midnight. -/
theorem contains_or_liesAround {first last : Date} {start end_ begun stop at_ : Instant}
    (inside : firstYear < first.year) (within : last.year < lastYear)
    (opens : zone.dayBounds first = .ok (start, end_))
    (closes : zone.dayBounds last = .ok (begun, stop)) (upTo : start ≤ at_) (before : at_ < stop) :
    (∃ date, zone.Contains date at_) ∨ ∃ skipped, zone.LiesAround skipped at_ := by
  obtain ⟨_, -, begins, -⟩ := begins_of_dayBounds opens
  obtain ⟨final, follows, -, ends⟩ := begins_of_dayBounds closes
  obtain ⟨date, begun, found, reached, onward, front, later⟩ :=
    regular.exists_last_begun begins upTo ends before
  rw [Date.dayNumber_next follows] at front
  have late : date.year < lastYear :=
    Int.lt_of_le_of_lt (Date.year_le (show date.dayNumber ≤ last.dayNumber by omega)) within
  have early : firstYear < date.year := Int.lt_of_lt_of_le inside (Date.year_le onward)
  obtain ⟨next, follows⟩ := Date.exists_next late
  have number := Date.dayNumber_next follows
  rcases zone.skips_or_begins next with skips | ⟨ended, ends⟩
  · refine Or.inr ⟨next, skips, fun other start begins inFront => ?_,
      fun other start begins behind => later other start begins (by omega)⟩
    exact Instant.le_trans (regular.begins_le begins found (by omega)) reached
  · exact Or.inl ⟨date, begun, ended, regular.dayBounds_of_begins early follows found ends, reached,
      later next ended ends (by omega)⟩

/-- The days of a zone. Every day of the calendar but those of its first and last year has bounds
exactly if the clock shows the midnights of the day and of the next one, each for a first time at
the bounds; otherwise the first of them that is skipped is reported. A day begins before it ends,
and ends where the next one begins. Between the first and the last of any bounds, an instant lies
within the bounds of exactly one date, unless it lies around a skipped midnight; then it lies within
those of none. -/
theorem days_tile :
    (∀ date : Date, firstYear < date.year → date.year < lastYear →
      ∃ next, date.next? = some next ∧
        (∀ start stop, zone.dayBounds date = .ok (start, stop) ↔
          zone.Begins date start ∧ zone.Begins next stop) ∧
        (zone.Skips date → zone.dayBounds date = .error (missing zone date)) ∧
        (¬ zone.Skips date → zone.Skips next →
          zone.dayBounds date = .error (missing zone next))) ∧
    (∀ date start stop, zone.dayBounds date = .ok (start, stop) → start < stop) ∧
    (∀ date next start stop begun ended, date.next? = some next →
      zone.dayBounds date = .ok (start, stop) → zone.dayBounds next = .ok (begun, ended) →
        stop = begun) ∧
    ∀ first last start end_ begun stop, firstYear < first.year → last.year < lastYear →
      zone.dayBounds first = .ok (start, end_) → zone.dayBounds last = .ok (begun, stop) →
        ∀ at_, start ≤ at_ → at_ < stop →
          ((∃! date, zone.Contains date at_) ↔ ¬ ∃ skipped, zone.LiesAround skipped at_) ∧
          ((∃ skipped, zone.LiesAround skipped at_) → ∀ date, ¬ zone.Contains date at_) := by
  refine ⟨fun date inside within => ?_, fun date start stop bounded => ?_, ?_, ?_⟩
  · obtain ⟨next, follows⟩ := Date.exists_next within
    refine ⟨next, follows, fun start stop => ⟨fun bounded => ?_, fun both => ?_⟩,
      dayBounds_of_skips follows, fun shown skips => ?_⟩
    · obtain ⟨other, follows', begins, ends⟩ := begins_of_dayBounds bounded
      obtain rfl := Option.some.inj (follows.symm.trans follows')
      exact ⟨begins, ends⟩
    · exact regular.dayBounds_of_begins inside follows both.1 both.2
    · obtain ⟨start, begins⟩ := (zone.skips_or_begins date).resolve_left shown
      exact regular.dayBounds_of_next_skips inside follows begins skips
  · obtain ⟨next, follows, begins, ends⟩ := begins_of_dayBounds bounded
    have number := Date.dayNumber_next follows
    exact regular.begins_lt begins ends (by omega)
  · intro date next start stop begun ended follows bounded bounded'
    obtain ⟨other, follows', -, ends⟩ := begins_of_dayBounds bounded
    obtain rfl := Option.some.inj (follows.symm.trans follows')
    obtain ⟨_, -, begins, -⟩ := begins_of_dayBounds bounded'
    exact ends.unique begins
  · intro first last start end_ begun stop inside within opens closes at_ upTo before
    have around : (∃ skipped, zone.LiesAround skipped at_) → ∀ date, ¬ zone.Contains date at_ :=
      fun ⟨skipped, lies⟩ date => not_contains_of_liesAround lies
    refine ⟨⟨fun ⟨date, contains, _⟩ lies => around lies date contains, fun free => ?_⟩, around⟩
    obtain ⟨date, contains⟩ :=
      (regular.contains_or_liesAround inside within opens closes upTo before).resolve_right free
    exact ⟨date, contains, fun other contains' => regular.contains_unique contains' contains⟩

end Regular

/-- A zone whose clock is set forward from midnight to one o'clock in spring. -/
def havana : Zone := ⟨"America/Havana", -18000, [(1710046800, -14400), (1730610000, -18000)]⟩

/-- A day of March 2024. -/
def marchDay (day : Nat) (named : isDay 2024 3 day = true) : Date := ⟨2024, 3, day, named⟩

theorem regular_havana : havana.Regular := regular_of_database havana (by decide)

theorem bounds_before : havana.dayBounds (marchDay 8 rfl) =
    .ok (⟨1709874000, 0⟩, ⟨1709960400, 0⟩) := rfl

theorem bounds_behind : havana.dayBounds (marchDay 11 rfl) =
    .ok (⟨1710129600, 0⟩, ⟨1710216000, 0⟩) := rfl

/-- The day of the skipped midnight lies around it, and so does the day in front of it. -/
theorem around_skipped {seconds : Int} (behind : 1709960400 ≤ seconds)
    (before : seconds < 1710129600) : havana.LiesAround (marchDay 10 rfl) ⟨seconds, 0⟩ := by
  obtain ⟨eve, follows, -, eveBegins⟩ := begins_of_dayBounds bounds_before
  obtain ⟨_, -, nextBegins, -⟩ := begins_of_dayBounds bounds_behind
  have eveNumber := Date.dayNumber_next follows
  have number : (marchDay 8 rfl).dayNumber = 19790 ∧ (marchDay 10 rfl).dayNumber = 19792 ∧
      (marchDay 11 rfl).dayNumber = 19793 := by decide
  refine ⟨skips_iff.mpr rfl, fun date start begins inFront => ?_, fun date start begins later => ?_⟩
  · refine Instant.le_trans (regular_havana.begins_le begins eveBegins (by omega)) ?_
    rw [Instant.le_iff, Instant.lt_iff]
    simp only
    omega
  · refine Instant.lt_of_lt_of_le ?_ (regular_havana.begins_le nextBegins begins (by omega))
    rw [Instant.lt_iff]
    simp only
    omega

/-- At noon of the day behind the skipped midnight the clock is in that day alone, and at noon of
the day before in none. -/
theorem havana_days_tile :
    havana.Regular ∧
      havana.dayBounds (marchDay 8 rfl) = .ok (⟨1709874000, 0⟩, ⟨1709960400, 0⟩) ∧
      havana.dayBounds (marchDay 11 rfl) = .ok (⟨1710129600, 0⟩, ⟨1710216000, 0⟩) ∧
      (∃! date, havana.Contains date ⟨1710172800, 0⟩) ∧
      ∀ date, ¬ havana.Contains date ⟨1710086400, 0⟩ := by
  obtain ⟨-, -, -, tile⟩ := regular_havana.days_tile
  have within := tile _ _ _ _ _ _ (by decide) (by decide) bounds_before bounds_behind
  obtain ⟨unique, around⟩ := within ⟨1710172800, 0⟩ (by decide) (by decide)
  have free : ¬ ∃ skipped, havana.LiesAround skipped ⟨1710172800, 0⟩ := fun lies =>
    around lies (marchDay 11 rfl) ⟨_, _, bounds_behind, by decide, by decide⟩
  refine ⟨regular_havana, bounds_before, bounds_behind, unique.mpr free, ?_⟩
  exact (within ⟨1710086400, 0⟩ (by decide) (by decide)).2
    ⟨_, around_skipped (by decide) (by decide)⟩

/-- The day whose midnight the clock skips has no bounds, and neither has the day in front of it. -/
theorem skipped_midnight_is_refused :
    havana ∈ database ∧
      havana.dayBounds (marchDay 10 rfl) = .error (.invalidParameter
        "Midnight of 2024-03-10 does not exist in America/Havana") ∧
      havana.dayBounds (marchDay 9 rfl) = havana.dayBounds (marchDay 10 rfl) ∧
      ¬ ∀ zone ∈ database, ∀ date : Date, 1 ≤ date.year → date.year ≤ 9998 →
        ∃ start stop, zone.dayBounds date = .ok (start, stop) ∧ start < stop := by
  have refused : havana.dayBounds (marchDay 10 rfl) =
      .error (missing havana (marchDay 10 rfl)) := rfl
  have displayed : (marchDay 10 rfl).display = "2024-03-10" := by decide +kernel
  have wording : missing havana (marchDay 10 rfl) = .invalidParameter
      "Midnight of 2024-03-10 does not exist in America/Havana" := by
    rw [missing, displayed]
    rfl
  refine ⟨by decide, refused.trans (congrArg Except.error wording), rfl, fun succeeds => ?_⟩
  obtain ⟨start, stop, bounded, -⟩ :=
    succeeds havana (by decide) (marchDay 10 rfl) (by decide) (by decide)
  cases refused.symm.trans bounded

end Zone

end AccessFeed.Calendar
