/-
This file proves what the deletion of expired entries leaves of a stream, and
how often it has to be repeated.

A call looks at a batch of the entries up to the cutoff and deletes those behind
the spared ones. The spared entries take their places in every batch anew, so
that a batch makes progress by as many entries as it holds besides them. Two
calls in a row are one call with a larger batch; so any number of them is one,
and the calls come to an end when that batch holds all entries up to the cutoff.
-/

import Mathlib.Algebra.Order.Floor.Div
import AccessFeed.Proofs.Bookkeeping
import AccessFeed.Proofs.Survivors

namespace AccessFeed

/-! ### The entries up to an id -/

namespace Streams

namespace IdMap

variable {Value : Type} {map : IdMap Value}

/-- The entries up to an id, in their order. -/
def upTo (map : IdMap Value) (cutoff : StreamId) : List (StreamId × Value) :=
  map.entries.filter fun entry => entry.1 ≤ cutoff

/-- The entries behind an id, in their order. -/
def behind (map : IdMap Value) (cutoff : StreamId) : List (StreamId × Value) :=
  map.entries.filter fun entry => cutoff < entry.1

theorem between_least (map : IdMap Value) (cutoff : StreamId) :
    map.between .least cutoff = map.upTo cutoff := by
  refine List.filter_congr fun entry _ => ?_
  rw [decide_eq_true (show StreamId.least ≤ entry.1 from Nat.zero_le _), Bool.true_and]

/-- In a map in order the entries up to an id stand before the others. -/
theorem Ascending.upTo_append_behind (ascending : map.Ascending) (cutoff : StreamId) :
    map.upTo cutoff ++ map.behind cutoff = map.entries := by
  obtain ⟨entries⟩ := map
  induction entries with
  | nil => rfl
  | cons entry rest inductionHypothesis =>
    obtain ⟨first, others⟩ := List.pairwise_cons.mp ascending
    have later := inductionHypothesis others
    rw [upTo, behind] at later ⊢
    by_cases within : entry.1 ≤ cutoff
    · rw [List.filter_cons_of_pos (by simpa using within),
        List.filter_cons_of_neg (by simpa using StreamId.not_lt.mpr within), List.cons_append,
        later]
    · have beyond := StreamId.not_le.mp within
      have all : ∀ other ∈ entry :: rest, cutoff < other.1 := by
        refine List.forall_mem_cons.mpr ⟨beyond, fun other member => ?_⟩
        exact StreamId.lt_trans beyond (first other member)
      rw [List.filter_eq_nil_iff.mpr fun other member => by
          simpa using StreamId.not_le.mpr (all other member),
        List.filter_eq_self.mpr fun other member => by simpa using all other member,
        List.nil_append]

theorem entries_eraseAll (map : IdMap Value) (ids : List StreamId) :
    (map.eraseAll ids).2.entries = map.entries.filter fun entry => entry.1 ∉ ids := by
  induction ids generalizing map with
  | nil => simp [IdMap.eraseAll]
  | cons id rest inductionHypothesis =>
    show ((map.erase id).eraseAll rest).2.entries = _
    rw [inductionHypothesis, erase, List.filter_filter]
    refine List.filter_congr fun entry _ => ?_
    simp [Bool.and_comm]

/-- Erasing different entries that are there counts them all. -/
theorem eraseAll_count_of_mem {ids : List StreamId} (distinct : ids.Nodup)
    (present : ∀ id ∈ ids, id ∈ map.ids) : (map.eraseAll ids).1 = ids.length := by
  rw [eraseAll_count, Finset.filter_true_of_mem fun id listed =>
    present id (List.mem_toFinset.mp listed), List.toFinset_card_of_nodup distinct]

/-- Erasing entries that stand in a row leaves those before them and those behind them. -/
theorem Ascending.eraseAll_row (ascending : map.Ascending)
    {before row after : List (StreamId × Value)} (split : before ++ row ++ after = map.entries) :
    (map.eraseAll (row.map Prod.fst)).1 = row.length ∧
      (map.eraseAll (row.map Prod.fst)).2.entries = before ++ after := by
  have distinct : ((before ++ row ++ after).map Prod.fst).Nodup := by
    rw [split]
    exact ascending.ids.imp StreamId.ne_of_lt
  rw [List.map_append, List.map_append, List.nodup_append, List.nodup_append] at distinct
  obtain ⟨⟨_, own, early⟩, _, late⟩ := distinct
  constructor
  · rw [eraseAll_count_of_mem own, List.length_map]
    intro id listed
    rw [IdMap.ids, ← split, List.map_append, List.map_append]
    exact List.mem_append_left _ (List.mem_append_right _ listed)
  · rw [entries_eraseAll, ← split, List.filter_append, List.filter_append]
    rw [List.filter_eq_self.mpr fun entry member => ?_,
      List.filter_eq_nil_iff.mpr fun entry member => ?_,
      List.filter_eq_self.mpr fun entry member => ?_, List.append_nil]
    · refine decide_eq_true fun listed => ?_
      exact late _ (List.mem_append_right _ listed) _ (List.mem_map_of_mem member) rfl
    · rw [decide_eq_true_iff, not_not]
      exact List.mem_map_of_mem member
    · refine decide_eq_true fun listed => ?_
      exact early _ (List.mem_map_of_mem member) _ listed rfl

/-- The entries up to an id without those of a batch behind the spared ones. -/
def trimmed (map : IdMap Value) (spared batch : Nat) (cutoff : StreamId) :
    List (StreamId × Value) :=
  (map.upTo cutoff).take spared ++ (map.upTo cutoff).drop (max spared batch)

/-- The map without the entries of a batch up to an id, but for the spared ones. -/
def trim (map : IdMap Value) (spared batch : Nat) (cutoff : StreamId) : IdMap Value :=
  ⟨map.trimmed spared batch cutoff ++ map.behind cutoff⟩

theorem le_of_mem_trimmed {spared batch : Nat} {cutoff : StreamId} {entry : StreamId × Value}
    (member : entry ∈ map.trimmed spared batch cutoff) : entry.1 ≤ cutoff := by
  have among : entry ∈ map.upTo cutoff :=
    (List.mem_append.mp member).elim List.mem_of_mem_take List.mem_of_mem_drop
  exact of_decide_eq_true (List.mem_filter.mp among).2

theorem upTo_trim (map : IdMap Value) (spared batch : Nat) (cutoff : StreamId) :
    (map.trim spared batch cutoff).upTo cutoff = map.trimmed spared batch cutoff := by
  rw [upTo, trim, List.filter_append, List.filter_eq_self.mpr, List.filter_eq_nil_iff.mpr,
    List.append_nil]
  · intro entry member
    have beyond := of_decide_eq_true (List.mem_filter.mp member).2
    simpa using StreamId.not_le.mpr beyond
  · exact fun entry member => decide_eq_true (le_of_mem_trimmed member)

theorem behind_trim (map : IdMap Value) (spared batch : Nat) (cutoff : StreamId) :
    (map.trim spared batch cutoff).behind cutoff = map.behind cutoff := by
  rw [behind, trim, List.filter_append, List.filter_eq_nil_iff.mpr, List.nil_append]
  · exact List.filter_eq_self.mpr fun entry member => (List.mem_filter.mp member).2
  · intro entry member
    simpa using StreamId.not_lt.mpr (le_of_mem_trimmed member)

/-- A batch that holds no more than the spared entries takes nothing away. -/
theorem Ascending.trim_of_le (ascending : map.Ascending) {spared batch : Nat}
    (small : batch ≤ spared) (cutoff : StreamId) : map.trim spared batch cutoff = map := by
  obtain ⟨entries⟩ := map
  rw [trim, trimmed, max_eq_left small, List.take_append_drop]
  exact congrArg IdMap.mk (ascending.upTo_append_behind cutoff)

/-- A batch that holds all entries up to the cutoff leaves the spared ones of them. -/
theorem trim_of_length_le {spared batch : Nat} {cutoff : StreamId}
    (large : (map.upTo cutoff).length ≤ batch) :
    map.trim spared batch cutoff = ⟨(map.upTo cutoff).take spared ++ map.behind cutoff⟩ := by
  rw [trim, trimmed, List.drop_eq_nil_of_le (large.trans (Nat.le_max_right spared batch)),
    List.append_nil]

/-- Two batches in a row take away what one of their size does, the spared entries counted once. -/
theorem trim_trim (map : IdMap Value) (spared first second : Nat) (cutoff : StreamId) :
    (map.trim spared first cutoff).trim spared second cutoff =
      map.trim spared (max spared first + (second - spared)) cutoff := by
  have listed : (map.trim spared first cutoff).trimmed spared second cutoff =
      map.trimmed spared (max spared first + (second - spared)) cutoff := by
    rw [trimmed, upTo_trim, trimmed, trimmed]
    generalize map.upTo cutoff = entries
    rcases Nat.le_total entries.length spared with few | many
    · -- All entries are spared, whatever a batch holds.
      have whole (batch : Nat) :
          entries.take spared ++ entries.drop (max spared batch) = entries := by
        rw [List.take_of_length_le few,
          List.drop_eq_nil_of_le (few.trans (Nat.le_max_left spared batch)), List.append_nil]
      rw [whole, whole, whole]
    · have length : (entries.take spared).length = spared := by
        rw [List.length_take, Nat.min_eq_left many]
      rw [List.take_append_of_le_length length.ge, List.take_take, Nat.min_self,
        List.drop_append, List.drop_eq_nil_of_le (length.trans_le (Nat.le_max_left _ _)), length,
        List.nil_append, List.drop_drop]
      congr 2
      omega
  rw [trim, listed, behind_trim, trim]

theorem Ascending.trim (ascending : map.Ascending) (spared batch : Nat) (cutoff : StreamId) :
    (map.trim spared batch cutoff).Ascending := by
  have entire := ascending.upTo_append_behind cutoff
  rw [Ascending, ← entire, ← List.take_append_drop spared (map.upTo cutoff)] at ascending
  exact ascending.sublist
    (((List.drop_sublist_drop_left _ (Nat.le_max_left spared batch)).append_left _).append_right _)

theorem take_append_row (entries : List (StreamId × Value)) (spared batch : Nat) :
    entries.take spared ++ (entries.take batch).drop spared ++
      entries.drop (max spared batch) = entries := by
  rcases Nat.le_total batch spared with small | large
  · rw [List.drop_eq_nil_of_le ((List.length_take_le batch entries).trans small),
      List.append_nil, max_eq_left small, List.take_append_drop]
  · rw [show entries.take spared = (entries.take batch).take spared by
        rw [List.take_take, Nat.min_eq_left large],
      List.take_append_drop, max_eq_right large, List.take_append_drop]

/-- Erasing the entries of a batch behind the spared ones leaves the others. -/
theorem Ascending.eraseAll_batch (ascending : map.Ascending) (spared batch : Nat)
    (cutoff : StreamId) :
    map.eraseAll ((((map.upTo cutoff).take batch).drop spared).map Prod.fst) =
      (min (map.upTo cutoff).length batch - spared, map.trim spared batch cutoff) := by
  have split : (map.upTo cutoff).take spared ++ ((map.upTo cutoff).take batch).drop spared ++
      ((map.upTo cutoff).drop (max spared batch) ++ map.behind cutoff) = map.entries := by
    rw [← List.append_assoc, take_append_row, ascending.upTo_append_behind]
  obtain ⟨number, left⟩ := ascending.eraseAll_row split
  refine Prod.ext ?_ ?_
  · rw [number, List.length_drop, List.length_take, Nat.min_comm]
  · rw [← List.append_assoc] at left
    exact congrArg IdMap.mk left

end IdMap

/-- A deletion takes entries out of its stream and counts them. -/
theorem Service.delete_of_present {service : Service} (working : service.Working)
    {stream : String} {content : Content} (present : service.store.content? stream = some content)
    (ids : List StreamId) :
    service.delete stream ids = (.ok (content.entries.eraseAll ids).1,
      ⟨service.store.setContent stream
        { content with entries := (content.entries.eraseAll ids).2 }, []⟩) := by
  rw [delete, call_of_working working, Store.delete, Store.guarded_of_working working.2, present]

end Streams

/-! ### Deletions -/

open Streams (Content Fields IdMap Record Store StreamId)

/-- The entries of a stream up to an id. -/
def Pipeline.upTo (pipeline : Pipeline) (stream : String) (cutoff : StreamId) :
    List (StreamId × Fields) :=
  ((pipeline.service.store.content? stream).getD .empty).entries.upTo cutoff

theorem Pipeline.upTo_eq {pipeline : Pipeline} {stream : String} {content : Content}
    (present : pipeline.service.store.content? stream = some content) (cutoff : StreamId) :
    pipeline.upTo stream cutoff = content.entries.upTo cutoff := by
  rw [upTo, present, Option.getD_some]

namespace Retention.Cleaner

open Calendar (Instant)

variable {pipeline : Pipeline} {stream : String}

/-- The ids of the entries that a deletion up to a cutoff takes. -/
theorem ids_expired (cleaner : Cleaner) (spared : Nat) (cutoff : StreamId) (pipeline : Pipeline) :
    ((pipeline.service.store.listed stream .least cutoff cleaner.settings.deleteBatch).drop
        spared).map Record.id =
      (((pipeline.upTo stream cutoff).take cleaner.settings.deleteBatch).drop spared).map
        Prod.fst := by
  rw [List.map_drop, ids_listed, ← List.map_drop, IdMap.between_least, Pipeline.upTo]

/-- Where no entry but spared ones is up to the cutoff, a deletion does nothing. -/
theorem deleteUpTo_of_few (cleaner : Cleaner) (working : pipeline.service.Working) {spared : Nat}
    {cutoff : StreamId} (few : (pipeline.upTo stream cutoff).length ≤ spared) :
    cleaner.deleteUpTo spared stream cutoff pipeline = (.ok 0, pipeline) := by
  rw [deleteUpTo, Pipeline.ask, Streams.Service.range_of_working working]
  dsimp only
  rw [cleaner.ids_expired, List.drop_eq_nil_of_le ((List.length_take_le' _ _).trans few),
    List.map_nil, List.isEmpty_nil, if_pos rfl]

/-- Where no call fails, deleting up to a cutoff takes the entries of a batch behind the spared ones
out of the stream, counts them, and changes nothing else in the store. -/
theorem deleteUpTo_of_working (cleaner : Cleaner) (working : pipeline.service.Working)
    (ascending : ((pipeline.service.store.content? stream).getD .empty).entries.Ascending)
    (spared : Nat) (cutoff : StreamId) :
    let batch := cleaner.settings.deleteBatch
    let (answer, after) := cleaner.deleteUpTo spared stream cutoff pipeline
    answer = .ok (min (pipeline.upTo stream cutoff).length batch - spared) ∧
      after.service.Working ∧
      ∀ other, after.service.store.content? other =
        if other = stream then
          (pipeline.service.store.content? stream).map fun content =>
            { content with entries := content.entries.trim spared batch cutoff }
        else pipeline.service.store.content? other := by
  cases present : pipeline.service.store.content? stream with
  | none =>
    have empty : pipeline.upTo stream cutoff = [] := by
      rw [Pipeline.upTo, present]
      rfl
    rw [cleaner.deleteUpTo_of_few working (by rw [empty]; exact Nat.zero_le spared), empty]
    exact ⟨congrArg Except.ok (by simp), working, Streams.StoreCall.content?_of_missing present⟩
  | some content =>
    rw [present, Option.getD_some] at ascending
    have erased := ascending.eraseAll_batch spared cleaner.settings.deleteBatch cutoff
    rw [deleteUpTo, Pipeline.ask, Streams.Service.range_of_working working]
    dsimp only
    rw [cleaner.ids_expired, Pipeline.upTo_eq present]
    generalize List.map Prod.fst (List.drop spared _) = ids at erased ⊢
    cases ids with
    | nil =>
      obtain ⟨number, left⟩ := Prod.mk.inj erased
      rw [List.isEmpty_nil, if_pos rfl, Option.map_some, ← left]
      exact ⟨congrArg Except.ok number, working,
        Streams.StoreCall.content?_of_unchanged present⟩
    | cons id rest =>
      rw [List.isEmpty_cons, if_neg Bool.false_ne_true, deleteEntries, Pipeline.ask,
        Streams.Service.delete_of_present working present, erased]
      exact ⟨rfl, ⟨rfl, working.2⟩, fun other => Store.content?_setContent _ _ _ _⟩

/-- The pipeline after entries up to a cutoff were deleted several times. -/
def deletedUpTo (cleaner : Cleaner) (spared : Nat) (stream : String) (cutoff : StreamId)
    (pipeline : Pipeline) (times : Nat) : Pipeline :=
  (fun reached => (cleaner.deleteUpTo spared stream cutoff reached).2)^[times] pipeline

/-- Deleting several times takes away what one batch of the size of all does, the spared entries
counted once. -/
theorem deletedUpTo_of_working (cleaner : Cleaner) (working : pipeline.service.Working)
    (ascending : ((pipeline.service.store.content? stream).getD .empty).entries.Ascending)
    (spared : Nat) (cutoff : StreamId) (times : Nat) :
    let batch := cleaner.settings.deleteBatch
    let reached := cleaner.deletedUpTo spared stream cutoff pipeline times
    reached.service.Working ∧
      ∀ other, reached.service.store.content? other =
        if other = stream then
          (pipeline.service.store.content? stream).map fun content =>
            { content with
              entries := content.entries.trim spared (spared + times * (batch - spared)) cutoff }
        else pipeline.service.store.content? other := by
  induction times with
  | zero =>
    refine ⟨working, fun other => ?_⟩
    rw [Nat.zero_mul, Nat.add_zero]
    cases present : pipeline.service.store.content? stream with
    | none => exact Streams.StoreCall.content?_of_missing present other
    | some content =>
      rw [present, Option.getD_some] at ascending
      rw [Option.map_some, ascending.trim_of_le (Nat.le_refl spared)]
      exact Streams.StoreCall.content?_of_unchanged present other
  | succ times inductionHypothesis =>
    obtain ⟨still, before⟩ := inductionHypothesis
    have own := (before stream).trans (if_pos rfl)
    have ordered : (((cleaner.deletedUpTo spared stream cutoff pipeline
        times).service.store.content? stream).getD .empty).entries.Ascending := by
      rw [own]
      cases present : pipeline.service.store.content? stream with
      | none => exact IdMap.ascending_empty
      | some content =>
        rw [present, Option.getD_some] at ascending
        exact ascending.trim _ _ _
    have one := cleaner.deleteUpTo_of_working still ordered spared cutoff
    rw [deletedUpTo, Function.iterate_succ_apply']
    refine ⟨one.2.1, fun other => (one.2.2 other).trans ?_⟩
    rw [own, before other, Option.map_map]
    split
    · refine congrArg (Option.map · _) (funext fun content => ?_)
      show ({ content with entries := _ } : Content) = _
      rw [IdMap.trim_trim, max_eq_right (Nat.le_add_right _ _), Nat.add_assoc, ← Nat.succ_mul]
    · rfl

/-- Deleting as often as the batches take to hold all entries up to the cutoff leaves the spared
ones, and a further deletion finds nothing. -/
theorem deletedUpTo_of_enough (cleaner : Cleaner) (working : pipeline.service.Working)
    (ascending : ((pipeline.service.store.content? stream).getD .empty).entries.Ascending)
    {spared : Nat} {cutoff : StreamId} {times : Nat}
    (enough : (pipeline.upTo stream cutoff).length ≤
      spared + times * (cleaner.settings.deleteBatch - spared)) :
    let reached := cleaner.deletedUpTo spared stream cutoff pipeline times
    (cleaner.deleteUpTo spared stream cutoff reached).1 = .ok 0 ∧
      ∀ other, reached.service.store.content? other =
        if other = stream then
          (pipeline.service.store.content? stream).map fun content =>
            { content with
              entries :=
                ⟨(pipeline.upTo stream cutoff).take spared ++ content.entries.behind cutoff⟩ }
        else pipeline.service.store.content? other := by
  obtain ⟨still, reached⟩ :=
    cleaner.deletedUpTo_of_working working ascending spared cutoff times
  have left (content : Content)
      (present : pipeline.service.store.content? stream = some content) :
      content.entries.trim spared (spared + times * (cleaner.settings.deleteBatch - spared))
          cutoff =
        ⟨(pipeline.upTo stream cutoff).take spared ++ content.entries.behind cutoff⟩ := by
    rw [Pipeline.upTo_eq present] at enough ⊢
    exact IdMap.trim_of_length_le enough
  have few : ((cleaner.deletedUpTo spared stream cutoff pipeline times).upTo stream
      cutoff).length ≤ spared := by
    rw [Pipeline.upTo, reached stream, if_pos rfl]
    cases present : pipeline.service.store.content? stream with
    | none => exact Nat.zero_le spared
    | some content =>
      rw [Pipeline.upTo_eq present] at enough
      show ((content.entries.trim _ _ cutoff).upTo cutoff).length ≤ spared
      rw [IdMap.upTo_trim, IdMap.trimmed,
        List.drop_eq_nil_of_le (enough.trans (Nat.le_max_right _ _)), List.append_nil]
      exact List.length_take_le spared _
  refine ⟨congrArg Prod.fst (cleaner.deleteUpTo_of_few still few),
    fun other => (reached other).trans ?_⟩
  split
  · exact Option.map_congr fun content present => by rw [left content present]
  · rfl

/-- Where no call fails, deleting expired entries deletes the second entry up to the cutoff and the
following ones, as many as are in a batch with the first, answers their number, and changes nothing
else in the store. With batches of two or more entries, as many calls as there are such entries
behind the first, divided by what a batch holds besides it, leave only the first; every later call
finds nothing to delete. -/
theorem removeExpired_of_working (cleaner : Cleaner) (working : pipeline.service.Working)
    (ascending : ((pipeline.service.store.content? stream).getD .empty).entries.Ascending)
    (threshold : Instant) :
    let cutoff := StreamId.cutoff threshold
    let batch := cleaner.settings.deleteBatch
    let expired := pipeline.upTo stream cutoff
    let taken := min expired.length batch
    let (answer, after) := cleaner.removeExpired stream threshold pipeline
    answer = .ok (taken - 1) ∧
      (∀ other, after.service.store.content? other =
        if other = stream then
          (pipeline.service.store.content? stream).map fun content =>
            { content with
              entries :=
                ⟨expired.take 1 ++ expired.drop (max 1 taken) ++ content.entries.behind cutoff⟩ }
        else pipeline.service.store.content? other) ∧
      (2 ≤ batch → ∀ times, (expired.length - 1) ⌈/⌉ (batch - 1) ≤ times →
        let reached :=
          (fun reached => (cleaner.removeExpired stream threshold reached).2)^[times] pipeline
        (cleaner.removeExpired stream threshold reached).1 = .ok 0 ∧
          ∀ other, reached.service.store.content? other =
            if other = stream then
              (pipeline.service.store.content? stream).map fun content =>
                { content with
                  entries := ⟨expired.take 1 ++ content.entries.behind cutoff⟩ }
            else pipeline.service.store.content? other) := by
  intro cutoff batch expired taken
  obtain ⟨answered, _, changed⟩ := cleaner.deleteUpTo_of_working working ascending 1 cutoff
  have dropped : expired.drop (max 1 batch) = expired.drop (max 1 taken) := by
    rcases Nat.le_total batch expired.length with within | beyond
    · rw [show taken = batch from Nat.min_eq_right within]
    · rw [show taken = expired.length from Nat.min_eq_left beyond,
        List.drop_eq_nil_of_le (Nat.le_max_right 1 expired.length),
        List.drop_eq_nil_of_le (beyond.trans (Nat.le_max_right 1 batch))]
  refine ⟨answered, fun other => (changed other).trans ?_, fun several times enough => ?_⟩
  · split
    · refine Option.map_congr fun content present => ?_
      rw [IdMap.trim, IdMap.trimmed, ← Pipeline.upTo_eq present, dropped]
    · rfl
  · have product := (ceilDiv_le_iff_le_mul (show 0 < batch - 1 by omega)).mp enough
    rw [Nat.mul_comm] at product
    have all : expired.length ≤ 1 + times * (batch - 1) := by omega
    exact cleaner.deletedUpTo_of_enough working ascending all

/-- The four overdue entries are brought down to the first by two calls with batches of three. -/
theorem removeExpired_overdue :
    let cleaner : Cleaner := { hasty with settings := { deleteBatch := 3 } }
    let expired := overdue.upTo "orders" (.cutoff ⟨3456000, 0⟩)
    overdue.service.Working ∧
      ((overdue.service.store.content? "orders").getD .empty).entries.Ascending ∧
      expired.length = 4 ∧
      (cleaner.removeExpired "orders" ⟨3456000, 0⟩ overdue).1 = .ok 2 ∧
      let reached := (fun reached =>
        (cleaner.removeExpired "orders" ⟨3456000, 0⟩ reached).2)^[2] overdue
      (cleaner.removeExpired "orders" ⟨3456000, 0⟩ reached).1 = .ok 0 := by
  intro cleaner expired
  have working : overdue.service.Working := ⟨rfl, rfl⟩
  have ascending := (Streams.orderly_after overdueCalls "orders").ascending
  obtain ⟨answered, _, repeated⟩ :=
    cleaner.removeExpired_of_working working ascending ⟨3456000, 0⟩
  exact ⟨working, ascending, rfl, answered, (repeated (by decide) 2 (by decide)).1⟩

end Retention.Cleaner

end AccessFeed
