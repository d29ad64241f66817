/-
This file proves that the summary of a day files every event of the day once.

The categories that are not deleted are walked in the order of their ids, and
each takes the events that carry its code, in the order of their times. Where no
two of them share a code, the one that comes first takes nothing from another,
so that what is left over in the end are the events of codes without a category.
-/

import AccessFeed.Archive.Summary
import AccessFeed.Proofs.Days
import AccessFeed.Proofs.EventMaps
import AccessFeed.Proofs.Publications

namespace AccessFeed

open Archive (CategorySummary DailySummary CategoryRow CategoryTable KeptEvent NewEvent Reply)
open Calendar (Date Instant Zone)
open Event (Category)

/-! ### Groups of events -/

namespace Archive

variable {events : List KeptEvent}

/-- The events of a category. -/
def filedUnder (events : List KeptEvent) (category : Category) : List KeptEvent :=
  events.filter fun kept => kept.event.category == category

theorem mem_filedUnder {kept : KeptEvent} {category : Category} :
    kept ∈ filedUnder events category ↔ kept ∈ events ∧ kept.event.category = category := by
  rw [filedUnder, List.mem_filter, beq_iff_eq]

/-- Rows of different categories, none of which came before, are each given all their events. -/
theorem group_of_distinct {taken : List Category} {rows : List CategoryRow}
    (distinct : (rows.map CategoryRow.category).Nodup)
    (fresh : ∀ row ∈ rows, row.category ∉ taken) :
    group events taken rows =
      rows.map fun row => ⟨row.category, filedUnder events row.category⟩ := by
  induction rows generalizing taken with
  | nil => rfl
  | cons row rest inductionHypothesis =>
    obtain ⟨single, others⟩ := List.nodup_cons.mp distinct
    obtain ⟨own, later⟩ := List.forall_mem_cons.mp fresh
    have behind : ∀ other ∈ rest, other.category ∉ row.category :: taken := by
      intro other member listed
      rcases List.mem_cons.mp listed with same | earlier
      · exact single (List.mem_map.mpr ⟨other, member, same⟩)
      · exact later other member earlier
    rw [group, inductionHypothesis others behind, List.map_cons,
      if_neg (by rw [List.contains_iff_mem]; exact own)]
    rfl

/-- The events of different categories, and those of no such category, are all events. -/
theorem sum_length_filedUnder {categories : List Category} (distinct : categories.Nodup) :
    (categories.map fun category => (filedUnder events category).length).sum +
      (events.filter fun kept => decide (kept.event.category ∉ categories)).length =
        events.length := by
  induction categories with
  | nil => simp
  | cons category rest inductionHypothesis =>
    obtain ⟨single, others⟩ := List.nodup_cons.mp distinct
    -- what the rest leaves over is what this category takes and what is left over of that
    have split := List.length_eq_length_filter_add
      (l := events.filter fun kept => decide (kept.event.category ∉ rest))
      fun kept => kept.event.category == category
    have taken : (events.filter fun kept => decide (kept.event.category ∉ rest)).filter
        (fun kept => kept.event.category == category) = filedUnder events category := by
      rw [List.filter_filter, filedUnder]
      refine List.filter_congr fun kept _ => ?_
      by_cases own : kept.event.category = category
      · simp [own, single]
      · simp [own]
    have left : (events.filter fun kept => decide (kept.event.category ∉ rest)).filter
        (fun kept => !(kept.event.category == category)) =
          events.filter fun kept => decide (kept.event.category ∉ category :: rest) := by
      rw [List.filter_filter]
      refine List.filter_congr fun kept _ => ?_
      by_cases own : kept.event.category = category <;> simp [own]
    rw [taken, left] at split
    rw [List.map_cons, List.sum_cons, ← inductionHypothesis others, split]
    omega

/-! ### Active categories -/

namespace CategoryTable

variable (table : CategoryTable)

/-- Whether a category has a row that is not deleted. -/
def IsActive (category : Category) : Prop :=
  ∃ row ∈ table.rows.values, row.isDeleted = false ∧ row.category = category

instance (category : Category) : Decidable (table.IsActive category) :=
  inferInstanceAs (Decidable (∃ row ∈ table.rows.values, _))

/-- Whether no two rows that are not deleted have the same category. -/
def Single : Prop :=
  ((table.rows.values.filter fun row => !row.isDeleted).map CategoryRow.category).Nodup

theorem perm_active : table.active.Perm (table.rows.values.filter fun row => !row.isDeleted) :=
  List.mergeSort_perm _ _

theorem ordered_active : table.active.Pairwise fun first second => first.id ≤ second.id := by
  refine (List.pairwise_mergeSort ?_ ?_ _).imp of_decide_eq_true
  · exact fun first second third left right => decide_eq_true
      (Nat.le_trans (of_decide_eq_true left) (of_decide_eq_true right))
  · intro first second
    rw [Bool.or_eq_true, decide_eq_true_iff, decide_eq_true_iff]
    exact Nat.le_total _ _

variable {table}

theorem isActive_iff {category : Category} :
    table.IsActive category ↔ category ∈ table.active.map CategoryRow.category := by
  simp [IsActive, List.mem_map, table.perm_active.mem_iff, List.mem_filter, and_assoc]

theorem Single.nodup_active (single : table.Single) :
    (table.active.map CategoryRow.category).Nodup :=
  (table.perm_active.map CategoryRow.category).nodup_iff.mpr single

end CategoryTable

/-! ### Summaries -/

/-- The events of a span of time that an archive keeps. -/
def keptWithin (archive : Archive) (start stop : Instant) : List KeptEvent :=
  (archive.events.listed.map Prod.snd).filter fun kept => kept.isWithin start stop

/-- Whether a summary files the events of a span of time under the categories of an archive. It has
an entry for each category that is not deleted, in the order of their ids. An entry lists the events
of its category in the order of their times, so that an event is in the one entry of its category
if that has one, and otherwise in none. The total counts all events of the span, those without an
entry among them. -/
structure DailySummary.Partitions (summary : DailySummary) (archive : Archive)
    (start stop : Instant) : Prop where
  entries : ∃ rows : List CategoryRow,
    rows.Perm (archive.categories.rows.values.filter fun row => !row.isDeleted) ∧
      (rows.Pairwise fun first second => first.id ≤ second.id) ∧
      summary.categories.map CategorySummary.category = rows.map CategoryRow.category
  distinct : (summary.categories.map CategorySummary.category).Nodup
  filed : ∀ entry ∈ summary.categories,
    entry.events.Perm (filedUnder (archive.keptWithin start stop) entry.category)
  ordered : ∀ entry ∈ summary.categories, entry.events.Pairwise fun first second =>
    first.event.createdAt ≤ second.event.createdAt
  once : ∀ kept ∈ archive.keptWithin start stop,
    archive.categories.IsActive kept.event.category →
      ∃ entry ∈ summary.categories, entry.category = kept.event.category ∧ kept ∈ entry.events ∧
        ∀ other ∈ summary.categories, kept ∈ other.events → other = entry
  unfiled : ∀ kept, ¬ archive.categories.IsActive kept.event.category →
    ∀ entry ∈ summary.categories, kept ∉ entry.events
  total : summary.total = (archive.keptWithin start stop).length
  counted : summary.total =
    (summary.categories.map fun entry => entry.events.length).sum +
      ((archive.keptWithin start stop).filter fun kept =>
        decide ¬ archive.categories.IsActive kept.event.category).length

section

variable {archive : Archive} {start stop : Instant}

/-- The summary that is put together from the categories and the events of a span of time files
these events. -/
theorem partitions_group (single : archive.categories.Single) (date : Date) :
    DailySummary.Partitions ⟨date, (archive.events.find start stop).length,
      group (archive.events.find start stop) [] archive.categories.active⟩ archive start stop := by
  have found : (archive.events.find start stop).Perm (archive.keptWithin start stop) :=
    archive.events.perm_find start stop
  have sorted := archive.events.ordered_find start stop
  generalize archive.events.find start stop = events at found sorted
  have distinct := single.nodup_active
  rw [group_of_distinct distinct fun _ _ => List.not_mem_nil]
  have categories : (archive.categories.active.map fun row =>
      CategorySummary.mk row.category (filedUnder events row.category)).map
        CategorySummary.category = archive.categories.active.map CategoryRow.category := by
    rw [List.map_map]
    rfl
  have own : ∀ entry ∈ archive.categories.active.map fun row =>
      CategorySummary.mk row.category (filedUnder events row.category),
      entry.events = filedUnder events entry.category := by
    intro entry member
    obtain ⟨row, _, rfl⟩ := List.mem_map.mp member
    rfl
  exact {
    entries := ⟨_, archive.categories.perm_active, archive.categories.ordered_active, categories⟩
    distinct := categories ▸ distinct
    filed := fun entry member => by
      rw [own entry member]
      exact found.filter _
    ordered := fun entry member => by
      rw [own entry member]
      exact sorted.filter _
    once := fun kept inside active => by
      obtain ⟨row, listed, same⟩ := List.mem_map.mp (CategoryTable.isActive_iff.mp active)
      refine ⟨⟨row.category, filedUnder events row.category⟩, List.mem_map_of_mem listed, same,
        mem_filedUnder.mpr ⟨found.mem_iff.mpr inside, same.symm⟩, fun other member filed => ?_⟩
      obtain ⟨another, _, rfl⟩ := List.mem_map.mp member
      have also : kept.event.category = another.category := (mem_filedUnder.mp filed).2
      rw [same, also]
    unfiled := fun kept inactive entry member filed => by
      refine inactive (CategoryTable.isActive_iff.mpr ?_)
      rw [own entry member] at filed
      rw [(mem_filedUnder.mp filed).2, ← categories]
      exact List.mem_map_of_mem member
    total := found.length_eq
    counted := by
      have whole := @sum_length_filedUnder events _ distinct
      have left := (found.filter fun kept =>
        decide ¬ archive.categories.IsActive kept.event.category).length_eq
      simp only [← CategoryTable.isActive_iff] at whole
      rw [← left, List.map_map]
      rw [List.map_map] at whole
      exact whole.symm }

end

variable {archive : Archive} {zone : Zone} {date : Date} {start stop : Instant}

/-- A summary that is answered is put together from what the archive keeps. -/
theorem eq_of_summary (bounded : zone.dayBounds date = .ok (start, stop)) {summary : DailySummary}
    (answered : (archive.summary zone date).1 = .ok summary) :
    summary = ⟨date, (archive.events.find start stop).length,
      group (archive.events.find start stop) [] archive.categories.active⟩ := by
  rw [Archive.summary] at answered
  obtain ⟨outages, ⟨failure, listed⟩ | listed⟩ := archive.call_cases .findAll
    fun archive => (.ok archive.categories.active, archive)
  · rw [show archive.findAll = _ from listed] at answered
    cases answered
  · rw [show archive.findAll = _ from listed, bounded] at answered
    dsimp only [findSpan] at answered
    by_cases reversed : stop < start
    · rw [if_pos reversed] at answered
      cases answered
    · rw [if_neg reversed] at answered
      obtain ⟨later, ⟨failure, found⟩ | found⟩ := { archive with outages }.call_cases .findBetween
        fun archive => (.ok (archive.events.find start stop), archive)
      · rw [show findBetween _ start stop = _ from found] at answered
        cases answered
      · rw [show findBetween _ start stop = _ from found] at answered
        exact (Except.ok.inj answered).symm

/-- Where neither call on the archive fails, a day that does not end before it begins has a
summary. -/
theorem exists_summary (bounded : zone.dayBounds date = .ok (start, stop))
    (lists : archive.Answers .findAll) (finds : archive.Answers .findBetween)
    (upTo : start ≤ stop) : ∃ summary, (archive.summary zone date).1 = .ok summary := by
  have listed : archive.findAll = (.ok archive.categories.active, archive) :=
    archive.call_of_answers lists _
  have found : archive.findBetween start stop = (.ok (archive.events.find start stop), archive) :=
    archive.call_of_answers finds _
  rw [Archive.summary, listed, bounded]
  dsimp only [findSpan]
  rw [if_neg (Instant.not_lt_of_le upTo), found]
  exact ⟨_, rfl⟩

/-- Where no two categories that are not deleted share a code, the summary of a day with bounds
files the events of the day under these categories. It is answered unless a call on the archive
fails: in every regular zone a day begins before it ends. -/
theorem summary_partitions (single : archive.categories.Single)
    (bounded : zone.dayBounds date = .ok (start, stop)) :
    (∀ summary, (archive.summary zone date).1 = .ok summary →
      summary.date = date ∧ summary.Partitions archive start stop) ∧
    (archive.Answers .findAll → archive.Answers .findBetween → start ≤ stop →
      ∃ summary, (archive.summary zone date).1 = .ok summary) ∧
    (zone.Regular → start < stop) := by
  refine ⟨fun summary answered => ?_, exists_summary bounded, fun regular => ?_⟩
  · obtain rfl := eq_of_summary bounded answered
    exact ⟨rfl, partitions_group single date⟩
  · obtain ⟨next, follows, begins, ends⟩ := Zone.begins_of_dayBounds bounded
    have number := Date.dayNumber_next follows
    exact regular.begins_lt begins ends (by omega)

/-- An archive whose third category is deleted, with accesses of the eighth of March 2024 in Havana
and one each of the second before it and the second behind it. -/
def visited : Archive :=
  [accessAt "2-0" .apiPublic 1709960399, accessAt "1-0" .apiPublic 1709874000,
    accessAt "3-0" .healthSystem 1709917200, accessAt "4-0" .apiAdmin 1709917200,
    accessAt "5-0" .apiPublic 1709873999, accessAt "6-0" .apiPublic 1709960400].foldl
    (fun archive event => (archive.create ⟨0, 0⟩ event).2)
    (seededPipeline.archive.changeCategory ⟨0, 0⟩ 3 none none (some true)).2

/-- Four accesses are of that day, one of them of the deleted category and in no entry. -/
theorem visited_day_is_partitioned :
    visited.categories.Single ∧
      Zone.havana.dayBounds (Zone.marchDay 8 rfl) = .ok (⟨1709874000, 0⟩, ⟨1709960400, 0⟩) ∧
      ∃ summary, (visited.summary Zone.havana (Zone.marchDay 8 rfl)).1 = .ok summary ∧
        summary.total = 4 ∧ (summary.categories.map fun entry => entry.events.length).sum = 3 ∧
        ∀ entry ∈ summary.categories, ∀ kept ∈ entry.events, kept.event.category ≠ .apiAdmin := by
  have single : visited.categories.Single := by
    show List.Nodup _
    decide
  have unconcerned (method : ArchiveMethod) : visited.Answers method :=
    fun _ impossible => nomatch impossible
  obtain ⟨partitions, answered, begins⟩ := summary_partitions single Zone.bounds_before
  obtain ⟨summary, told⟩ := answered (unconcerned .findAll) (unconcerned .findBetween)
    (Instant.le_of_lt (begins Zone.regular_havana))
  obtain ⟨-, files⟩ := partitions summary told
  have total := files.total
  have counted := files.counted
  have four : (visited.keptWithin ⟨1709874000, 0⟩ ⟨1709960400, 0⟩).length = 4 := by decide
  have one : ((visited.keptWithin ⟨1709874000, 0⟩ ⟨1709960400, 0⟩).filter fun kept =>
      decide ¬ visited.categories.IsActive kept.event.category).length = 1 := by decide
  refine ⟨single, Zone.bounds_before, summary, told, total.trans four, by omega, ?_⟩
  intro entry member kept listed deleted
  exact files.unfiled kept (deleted ▸ by decide) entry member listed

end Archive

end AccessFeed
