/-
This file proves where the cutoff of an instant lies among the ids.

From the beginning of 1970 on a cutoff lies within the instant's own millisecond,
leap seconds included, so that all ids of earlier milliseconds are below it and
all ids of later ones above. Before 1970 the milliseconds are negative and stay
at zero, but the sequence still tells the millisecond within the second: cutoffs
go up and down there, below the ids of the first millisecond. The one exception
is the leap second at the very end of 1969, whose milliseconds are those of the
second behind it.
-/

import AccessFeed.Proofs.Ids
import AccessFeed.Proofs.Thresholds
import AccessFeed.Streams.Cutoff

namespace AccessFeed

namespace Calendar.Instant

/-- The beginning of 1970. -/
def epoch : Instant := ⟨0, 0⟩

/-- Whether an instant lies in a leap second. -/
def IsLeap (at_ : Instant) : Prop := nanosPerSecond ≤ at_.nanos

instance (at_ : Instant) : Decidable at_.IsLeap :=
  inferInstanceAs (Decidable (_ ≤ _))

/-- The whole milliseconds among the nanoseconds since the beginning of 1970, rounded down. -/
def elapsedMillis (at_ : Instant) : Int :=
  (at_.seconds * nanosPerSecond + at_.nanos) / 1000000

theorem millis_eq (at_ : Instant) : at_.millis = at_.elapsedMillis := by
  simp only [millis, elapsedMillis, nanosPerSecond]
  omega

theorem IsDated.bounds {at_ : Instant} (dated : at_.IsDated) :
    at_.seconds < 8210266876800 ∧ at_.nanos < 2000000000 :=
  within_of_ofParts? (if_pos dated : ofParts? at_.seconds at_.nanos = some at_)

end Calendar.Instant

namespace Streams.StreamId

open Calendar (Instant)
open Calendar.Instant (epoch)

/-! ### The parts of a cutoff -/

/-- The milliseconds of a cutoff are those of the instant, or zero before 1970. -/
theorem millis_cutoff {at_ : Instant} (dated : at_.IsDated) :
    ((cutoff at_).millis.toNat : Int) = max at_.elapsedMillis 0 := by
  obtain ⟨secondsSmall, nanosSmall⟩ := dated.bounds
  have small : at_.millis.toNat < 2 ^ 64 := by
    rw [Instant.millis]
    omega
  rw [cutoff, ← at_.millis_eq, show at_.millis.toNat.toUInt64.toNat = at_.millis.toNat from
    UInt64.toNat_ofNat_of_lt' small]
  omega

/-- The sequence of a cutoff is the millisecond within the second. -/
theorem seq_cutoff (at_ : Instant) :
    ((cutoff at_).seq.toNat : Int) = at_.elapsedMillis % 1000 := by
  have small : at_.nanos % Calendar.nanosPerSecond / 1000000 < 2 ^ 64 := by
    rw [Calendar.nanosPerSecond]
    omega
  rw [cutoff, show (at_.nanos % Calendar.nanosPerSecond / 1000000).toUInt64.toNat =
    at_.nanos % Calendar.nanosPerSecond / 1000000 from UInt64.toNat_ofNat_of_lt' small]
  simp only [Instant.elapsedMillis, Calendar.nanosPerSecond]
  omega

/-! ### The order of ids -/

theorem lt_of_millis_lt {first second : StreamId}
    (before : first.millis.toNat < second.millis.toNat) : first < second := by
  have bound := first.seq.toNat_lt
  rw [lt_iff, rank, rank]
  omega

/-- The ids of other milliseconds lie on their own side of a cutoff. -/
theorem cutoff_between {at_ : Instant} (dated : at_.IsDated) (id : StreamId) :
    ((id.millis.toNat : Int) < at_.elapsedMillis → id < cutoff at_) ∧
      (max at_.elapsedMillis 0 < id.millis.toNat → cutoff at_ < id) := by
  have millis := millis_cutoff dated
  exact ⟨fun below => lt_of_millis_lt (by omega), fun above => lt_of_millis_lt (by omega)⟩

/-! ### Instants around the beginning of 1970 -/

theorem elapsedMillis_nonneg {at_ : Instant} (since : epoch ≤ at_) : 0 ≤ at_.elapsedMillis := by
  rw [Instant.le_iff, Instant.lt_iff] at since
  simp only [epoch, Instant.elapsedMillis, Calendar.nanosPerSecond] at *
  omega

/-- Before 1970 only the leap second at its end has milliseconds above zero. -/
theorem elapsedMillis_nonpos_iff {at_ : Instant} (dated : at_.IsDated) (before : at_ < epoch) :
    at_.elapsedMillis ≤ 0 ↔
      ¬ (at_.seconds = -1 ∧ Calendar.nanosPerSecond + 1000000 ≤ at_.nanos) := by
  have bounds := dated.bounds
  rw [Instant.lt_iff] at before
  simp only [epoch, Instant.elapsedMillis, Calendar.nanosPerSecond] at *
  omega

/-- Before 1970 the ids behind the first millisecond lie above a cutoff whose milliseconds are not
above zero. -/
theorem forall_cutoff_lt_iff {at_ : Instant} (dated : at_.IsDated) :
    (∀ id : StreamId, 1 ≤ id.millis.toNat → cutoff at_ < id) ↔ at_.elapsedMillis ≤ 0 := by
  constructor
  · intro above
    by_contra positive
    have least : (cutoff at_).rank < 2 ^ 64 := above ⟨1, 0⟩ (by decide)
    have millis := millis_cutoff dated
    rw [rank] at least
    omega
  · intro nonpos id behind
    exact (cutoff_between dated id).2 (by omega)

/-- Outside leap seconds the milliseconds follow the order of instants. -/
theorem elapsedMillis_mono {first second : Instant} (upTo : first ≤ second)
    (firstPlain : ¬ first.IsLeap) (secondPlain : ¬ second.IsLeap) :
    first.elapsedMillis ≤ second.elapsedMillis := by
  rw [Instant.le_iff, Instant.lt_iff] at upTo
  simp only [Instant.IsLeap, Instant.elapsedMillis, Calendar.nanosPerSecond] at *
  omega

/-- Cutoffs follow the order of milliseconds, but for those whose milliseconds stay at zero: these
are ordered by the millisecond within the second. -/
theorem cutoff_le_cutoff_iff {first second : Instant} (firstDated : first.IsDated)
    (secondDated : second.IsDated) (upTo : first.elapsedMillis ≤ second.elapsedMillis) :
    cutoff first ≤ cutoff second ↔
      0 < second.elapsedMillis ∨
        first.elapsedMillis % 1000 ≤ second.elapsedMillis % 1000 := by
  have firstMillis := millis_cutoff firstDated
  have secondMillis := millis_cutoff secondDated
  have firstSeq := seq_cutoff first
  have secondSeq := seq_cutoff second
  rw [le_iff, rank, rank]
  omega

/-- From 1970 on a cutoff has the milliseconds of its instant and separates the ids of earlier
milliseconds from those of later ones. Before 1970 all ids behind the first millisecond lie above
it, unless the instant lies in the leap second at the end of 1969, and there behind its first
millisecond. Outside leap seconds cutoffs follow the order of instants from 1970 on; an earlier and
a later instant have them in order exactly if the later one lies behind the first millisecond of
1970 or the milliseconds within their seconds are in order. -/
theorem cutoff_separates {at_ : Instant} (dated : at_.IsDated) :
    (epoch ≤ at_ →
      ((cutoff at_).millis.toNat : Int) = at_.elapsedMillis ∧
      ((cutoff at_).seq.toNat : Int) = at_.elapsedMillis % 1000 ∧
      ∀ id : StreamId, ((id.millis.toNat : Int) < at_.elapsedMillis → id < cutoff at_) ∧
        (at_.elapsedMillis < id.millis.toNat → cutoff at_ < id)) ∧
    (at_ < epoch →
      ((∀ id : StreamId, 1 ≤ id.millis.toNat → cutoff at_ < id) ↔
        ¬ (at_.seconds = -1 ∧ Calendar.nanosPerSecond + 1000000 ≤ at_.nanos))) ∧
    ∀ later : Instant, later.IsDated → at_ ≤ later → ¬ at_.IsLeap → ¬ later.IsLeap →
      (epoch ≤ at_ → cutoff at_ ≤ cutoff later) ∧
      (cutoff at_ ≤ cutoff later ↔
        0 < later.elapsedMillis ∨ at_.elapsedMillis % 1000 ≤ later.elapsedMillis % 1000) := by
  refine ⟨fun since => ?_, fun before => ?_, fun later laterDated upTo plain laterPlain => ?_⟩
  · have nonneg := elapsedMillis_nonneg since
    have millis := millis_cutoff dated
    rw [max_eq_left nonneg] at millis
    refine ⟨millis, seq_cutoff at_, fun id => ?_⟩
    have between := cutoff_between dated id
    rwa [max_eq_left nonneg] at between
  · rw [forall_cutoff_lt_iff dated, elapsedMillis_nonpos_iff dated before]
  · have grows := elapsedMillis_mono upTo plain laterPlain
    have ordered := cutoff_le_cutoff_iff dated laterDated grows
    refine ⟨fun since => ordered.mpr ?_, ordered⟩
    have nonneg := elapsedMillis_nonneg since
    omega

/-- The leap second of 2016, in its last nanosecond. -/
def lastOf2016 : Instant := ⟨1483228799, 1999999999⟩

/-- Its cutoff separates ids, so does that of the last nanosecond before 1970, and the cutoffs of
the two seconds around the leap second are in order. -/
theorem lastOf2016_separates :
    (lastOf2016.IsDated ∧ epoch ≤ lastOf2016 ∧
      (⟨1483228800998, 18446744073709551615⟩ : StreamId) < cutoff lastOf2016 ∧
      cutoff lastOf2016 < ⟨1483228801000, 0⟩) ∧
    ((⟨-1, 999999999⟩ : Instant).IsDated ∧ (⟨-1, 999999999⟩ : Instant) < epoch ∧
      cutoff ⟨-1, 999999999⟩ < ⟨1, 0⟩) ∧
    ((⟨1483228799, 999999999⟩ : Instant) ≤ ⟨1483228800, 0⟩ ∧
      cutoff ⟨1483228799, 999999999⟩ ≤ cutoff ⟨1483228800, 0⟩) := by
  have dated : lastOf2016.IsDated := by decide
  have separates := ((cutoff_separates dated).1 (by decide)).2.2
  have before := (cutoff_separates (by decide : (⟨-1, 999999999⟩ : Instant).IsDated)).2.1
    (by decide)
  have ordered := (cutoff_separates (by decide : (⟨1483228799, 999999999⟩ : Instant).IsDated)).2.2
    ⟨1483228800, 0⟩ (by decide) (by decide) (by decide) (by decide)
  exact ⟨⟨dated, by decide, (separates _).1 (by decide), (separates _).2 (by decide)⟩,
    ⟨by decide, by decide, before.mpr (by decide) _ (by decide)⟩,
    ⟨by decide, ordered.1 (by decide)⟩⟩

/-- In the leap second at the end of 1969 the cutoff lies above ids of 1970, and the cutoff of an
instant a second before 1970 lies below that of the millisecond in front of it. -/
theorem cutoffs_disordered_before_epoch :
    ((⟨-1, 1500000000⟩ : Instant).IsDated ∧ (⟨-1, 1500000000⟩ : Instant) < epoch ∧
      ¬ cutoff ⟨-1, 1500000000⟩ < ⟨1, 0⟩) ∧
    ((⟨-2, 999000000⟩ : Instant).IsDated ∧ (⟨-1, 0⟩ : Instant).IsDated ∧
      ¬ (⟨-2, 999000000⟩ : Instant).IsLeap ∧ ¬ (⟨-1, 0⟩ : Instant).IsLeap ∧
      (⟨-2, 999000000⟩ : Instant) ≤ ⟨-1, 0⟩ ∧
      ¬ cutoff ⟨-2, 999000000⟩ ≤ cutoff ⟨-1, 0⟩) := by
  decide

end Streams.StreamId

end AccessFeed
