/-
This file says how far back the cleanup can look.

A run needs the instant a number of days earlier, and the calendar has a first
day. Each part that removes what is expired looks for that instant on its own,
so a run without it breaks off at the first such part, when the parts for
pending entries are already done. What passes as settings bounds the days of
retention from below only, so that both kinds of runs occur.
-/

import AccessFeed.Proofs.Isolation
import AccessFeed.Proofs.Survivors

namespace AccessFeed

namespace Calendar.Instant

/-- Whether an instant is one of the calendar. -/
def IsDated (at_ : Instant) : Prop :=
  (inRange at_.seconds && nanosFit at_.seconds at_.nanos) = true

instance (at_ : Instant) : Decidable at_.IsDated :=
  inferInstanceAs (Decidable (_ = true))

/-- The second from which whole days are counted back; a leap second counts with the one behind it.
-/
def countedSecond (at_ : Instant) : Int :=
  if nanosPerSecond ≤ at_.nanos then at_.seconds + 1 else at_.seconds

/-- The nanoseconds that stand behind any second that lies whole days back. -/
def countedNanos (at_ : Instant) : Nat :=
  if nanosPerSecond ≤ at_.nanos then at_.nanos - nanosPerSecond else at_.nanos

/-- The number of days that the calendar goes back from an instant. -/
def daysBack (at_ : Instant) : Int :=
  at_.countedSecond / secondsPerDay - firstDayNumber

theorem daysEarlier?_of_ne_zero (at_ : Instant) {days : Nat} (positive : days ≠ 0) :
    at_.daysEarlier? days =
      ofParts? (at_.countedSecond - days * secondsPerDay) at_.countedNanos := by
  rw [daysEarlier?, if_neg positive, countedSecond, countedNanos]
  split <;> rfl

/-- From an instant of the calendar one gets back by a number of days exactly if the calendar has
that many in front of it. -/
theorem isSome_daysEarlier? {at_ : Instant} (dated : at_.IsDated) (days : Nat) :
    (at_.daysEarlier? days).isSome ↔ (days : Int) ≤ at_.daysBack := by
  rw [IsDated] at dated
  simp only [inRange, nanosFit, Bool.and_eq_true, Bool.or_eq_true, decide_eq_true_eq] at dated
  simp only [firstDayNumber, lastDayNumber, secondsPerDay, nanosPerSecond] at dated
  rcases Nat.eq_zero_or_pos days with rfl | positive
  · simp only [daysEarlier?, daysBack, countedSecond, firstDayNumber, secondsPerDay, ↓reduceIte,
      Option.isSome_some, true_iff]
    split <;> omega
  · have nanos : at_.countedNanos < nanosPerSecond := by
      rw [countedNanos]
      split <;> simp only [nanosPerSecond] at * <;> omega
    have second : at_.countedSecond ≤ at_.seconds + 1 := by
      rw [countedSecond]
      split <;> omega
    have fits : (inRange (at_.countedSecond - days * secondsPerDay) &&
        nanosFit (at_.countedSecond - days * secondsPerDay) at_.countedNanos) = true ↔
        (days : Int) ≤ at_.daysBack := by
      simp only [inRange, nanosFit, nanos, Bool.and_eq_true, Bool.or_eq_true, decide_eq_true_eq,
        true_or, and_true, daysBack]
      simp only [firstDayNumber, lastDayNumber, secondsPerDay]
      omega
    rw [daysEarlier?_of_ne_zero at_ (by omega), ofParts?, ← fits]
    split
    · rename_i within
      simp [within]
    · rename_i outside
      simp [outside]

/-- From the years 1970 to 9999 the calendar goes back by about as many days. -/
theorem daysBack_bounds {at_ : Instant} (since : 0 ≤ at_.seconds)
    (until_ : at_.seconds < 253402300800) :
    96465292 ≤ at_.daysBack ∧ at_.daysBack ≤ 99398189 := by
  simp only [daysBack, countedSecond, firstDayNumber, secondsPerDay]
  split <;> omega

end Calendar.Instant

namespace Retention

open Calendar (Instant)
open Settings (ConsumerSet)

/-- How a run ends: with a report, or by breaking off at a part, and with what is then left of the
pipeline. -/
inductive Ending
  | reported (report : CleanupReport) (left : Pipeline)
  | brokenOff (part : Part) (left : Pipeline)

namespace Cleaner

/-- The threshold with which a part is taken, if the calendar has it. For pending entries none is
looked for. -/
def thresholdFor? (cleaner : Cleaner) (now : Instant) : Part → Option Instant
  | .pending _ => some now
  | .expired _ => cleaner.threshold? now
  | .letters _ => cleaner.threshold? now
  | .purge => cleaner.threshold? now

/-- Takes parts one after the other, each with a threshold of its own, until one has none. -/
def runThrough (cleaner : Cleaner) (now : Instant) :
    List Part → CleanupReport × Pipeline → Ending
  | [], (report, pipeline) => .reported report pipeline
  | part :: rest, (report, pipeline) =>
    match cleaner.thresholdFor? now part with
    | none => .brokenOff part pipeline
    | some threshold =>
      runThrough cleaner now rest
        (settle part.message .add report (cleaner.take threshold pipeline part))

/-- The first part of a run that looks for a threshold. -/
def firstDated (cleaner : Cleaner) : Part :=
  match cleaner.streams with
  | [] => .purge
  | stream :: _ => .expired stream

variable (cleaner : Cleaner) {now : Instant}

/-- A part is taken the same way with its own threshold as with that of the run. -/
theorem exists_thresholdFor? {threshold : Instant} (limit : cleaner.threshold? now = some threshold)
    (part : Part) : ∃ own, cleaner.thresholdFor? now part = some own ∧
      ∀ pipeline, cleaner.take own pipeline part = cleaner.take threshold pipeline part := by
  cases part with
  | pending set => exact ⟨now, rfl, fun _ => rfl⟩
  | expired | letters | purge => exact ⟨threshold, limit, fun _ => rfl⟩

/-- With a threshold all parts are taken. -/
theorem runThrough_of_threshold {threshold : Instant}
    (limit : cleaner.threshold? now = some threshold) (parts : List Part)
    (state : CleanupReport × Pipeline) :
    cleaner.runThrough now parts state =
      .reported (cleaner.runParts threshold parts state).1
        (cleaner.runParts threshold parts state).2 := by
  induction parts generalizing state with
  | nil => rfl
  | cons part rest inductionHypothesis =>
    obtain ⟨own, found, same⟩ := cleaner.exists_thresholdFor? limit part
    simp only [runThrough, found, same, inductionHypothesis, runParts_cons]

/-- The pending entries are treated whether or not there is a threshold. -/
theorem runThrough_pending (sets : List ConsumerSet) (parts : List Part)
    (state : CleanupReport × Pipeline) :
    cleaner.runThrough now (sets.map .pending ++ parts) state =
      cleaner.runThrough now parts (cleaner.runPending sets state) := by
  induction sets generalizing state with
  | nil => rfl
  | cons set rest inductionHypothesis =>
    rw [cleaner.runPending_eq now, List.map_cons, runParts_cons, ← cleaner.runPending_eq now]
    exact inductionHypothesis _

/-- Without a threshold nothing is done but to treat the pending entries. -/
theorem runThrough_of_none (limit : cleaner.threshold? now = none)
    (state : CleanupReport × Pipeline) :
    cleaner.runThrough now cleaner.parts state =
      .brokenOff cleaner.firstDated (cleaner.runPending cleaner.consumers state).2 := by
  have first : ∃ rest, cleaner.parts =
      cleaner.consumers.map .pending ++ cleaner.firstDated :: rest := by
    rw [parts, streamParts, firstDated, List.append_assoc, List.append_assoc]
    cases cleaner.streams with
    | nil => exact ⟨[], by simp⟩
    | cons stream rest => exact ⟨_, rfl⟩
  have missing : cleaner.thresholdFor? now cleaner.firstDated = none := by
    rw [firstDated]
    split <;> exact limit
  obtain ⟨rest, parts⟩ := first
  rw [parts, runThrough_pending, runThrough, missing]

/-- A run finishes, with all its parts taken and a report, exactly if the calendar goes back from
its instant by as many days as entries are retained. Otherwise it breaks off at the first part that
removes what is expired, when all pending entries are already treated. In the years 1970 to 9999 the
calendar goes back by 96465292 days at least and by 99398189 at most. -/
theorem ends_by_daysBack (dated : now.IsDated) (pipeline : Pipeline) :
    ((cleaner.settings.retentionDays : Int) ≤ now.daysBack →
      ∃ threshold, cleaner.threshold? now = some threshold ∧
        cleaner.run? now pipeline = some (cleaner.runFor threshold pipeline) ∧
        cleaner.runThrough now cleaner.parts ({}, pipeline) =
          .reported (cleaner.runFor threshold pipeline).1
            (cleaner.runFor threshold pipeline).2) ∧
    (now.daysBack < cleaner.settings.retentionDays →
      cleaner.run? now pipeline = none ∧
        cleaner.runThrough now cleaner.parts ({}, pipeline) =
          .brokenOff cleaner.firstDated (cleaner.runPending cleaner.consumers ({}, pipeline)).2) ∧
    (0 ≤ now.seconds → now.seconds < 253402300800 →
      96465292 ≤ now.daysBack ∧ now.daysBack ≤ 99398189) := by
  have reach := Instant.isSome_daysEarlier? dated cleaner.settings.retentionDays
  refine ⟨fun within => ?_, fun beyond => ?_, Instant.daysBack_bounds⟩
  · obtain ⟨threshold, limit⟩ := Option.isSome_iff_exists.mp (reach.mpr within)
    refine ⟨threshold, limit, congrArg (Option.map fun _ => _) limit, ?_⟩
    rw [cleaner.runThrough_of_threshold limit, ← runFor_eq]
  · have limit : cleaner.threshold? now = none := by
      rw [← Option.not_isSome_iff_eq_none]
      exact fun found => absurd (reach.mp found) (Int.not_le.mpr beyond)
    exact ⟨congrArg (Option.map fun _ => _) limit, cleaner.runThrough_of_none limit _⟩

end Cleaner

/-- Settings under which entries of one stream are retained for a number of days. -/
def retaining (days : Nat) : Settings where
  server := {}
  reading := { consumers := [⟨"orders", "audit", "worker", 1⟩] }
  retention := { retentionDays := days }

/-- A hundred days after 1970 begins, the longest retention that a run finishes with. -/
theorem longest_retention_is_reported :
    (⟨8640000, 0⟩ : Instant).IsDated ∧ (⟨8640000, 0⟩ : Instant).daysBack = 96465392 ∧
      ∃ report left, (Cleaner.of (retaining 96465392)).runThrough ⟨8640000, 0⟩
        (Cleaner.of (retaining 96465392)).parts ({}, aged []) = .reported report left := by
  have dated : (⟨8640000, 0⟩ : Instant).IsDated := by decide
  obtain ⟨finishes, -, -⟩ := (Cleaner.of (retaining 96465392)).ends_by_daysBack dated (aged [])
  obtain ⟨threshold, -, -, reported⟩ := finishes (by decide)
  exact ⟨dated, by decide, _, _, reported⟩

/-- With the longest retention that can be set, a run breaks off with the pending entry of the
stream already acknowledged. -/
theorem endless_retention_breaks_off :
    (retaining 4294967295).check = .ok () ∧
      (aged []).service.store.pendingIds "orders" "audit" = [⟨6, 0⟩] ∧
      (∃ left, (Cleaner.of (retaining 4294967295)).runThrough ⟨8640000, 0⟩
          (Cleaner.of (retaining 4294967295)).parts ({}, aged []) =
            .brokenOff (.expired "orders") left ∧
        left.service.store.pendingIds "orders" "audit" = []) ∧
      ¬ ∀ (settings : Settings) (now : Instant) (pipeline : Pipeline),
        settings.check = .ok () → settings.retention.retentionDays < 4294967296 →
        0 ≤ now.seconds → now.seconds < 253402300800 →
        ((Cleaner.of settings).run? now pipeline).isSome := by
  refine ⟨by decide, rfl, ⟨_, rfl, rfl⟩, fun finishes => ?_⟩
  have finished := finishes (retaining 4294967295) ⟨8640000, 0⟩ (aged []) (by decide) (by decide)
    (by decide) (by decide)
  cases finished

end Retention

end AccessFeed
