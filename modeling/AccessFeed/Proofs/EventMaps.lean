/-
This file proves that the two tables of events are one map.

What a call answers is told of a map from source ids to rows, whatever keeps the
rows: an event is kept unless a row stands under its source id, the rows of a
span of time are listed in the order of their times, a removal takes away those
of an earlier time, and a count tells how many there are. Both tables answer
every sequence of calls as such a map. What such a map answers is determined by
the events it holds, up to the numbers and times rows are kept under and to the
order of rows of one time, so that neither table can be told from the other.
-/

import Mathlib.Data.Finset.Card
import AccessFeed.Proofs.Keeping
import AccessFeed.Proofs.Tables

namespace AccessFeed.Archive

open Calendar (Instant)

/-! ### Calls -/

/-- A call on a table of events. -/
inductive EventCall
  | create (event : NewEvent)
  | find (start stop : Instant)
  | removeBefore (threshold : Instant)
  | count
deriving DecidableEq, Repr

/-- What a call on a table of events answers. -/
inductive EventReply
  | created (creation : Creation)
  | found (events : List KeptEvent)
  | removed (number : Nat)
  | counted (number : Nat)
deriving DecidableEq, Repr

namespace EventRows

/-- Makes a call on a table. -/
def perform (rows : EventRows) (now : Instant) : EventCall → EventReply × EventRows
  | .create event => (.created (rows.create now event).1, (rows.create now event).2)
  | .find start stop => (.found (rows.find start stop), rows)
  | .removeBefore threshold =>
    (.removed (rows.removeBefore threshold).1, (rows.removeBefore threshold).2)
  | .count => (.counted rows.count, rows)

/-- What a table answers to some calls, each made when the clock shows its own time. -/
def replies (rows : EventRows) (clock : Nat → Instant) : List EventCall → List EventReply
  | [] => []
  | call :: rest =>
    (rows.perform (clock 0) call).1 ::
      (rows.perform (clock 0) call).2.replies (fun turn => clock (turn + 1)) rest

end EventRows

/-! ### Maps of events -/

/-- A map from source ids to rows. -/
abbrev EventMap : Type := String → Option KeptEvent

namespace EventMap

/-- The map without rows. -/
def empty : EventMap := fun _ => none

/-- Whether a map answers a call so, and leaves a map so. -/
inductive Answers (held : EventMap) : EventCall → EventReply → EventMap → Prop
  | created {event : NewEvent} {kept : KeptEvent} (absent : held event.sourceId = none)
    (own : kept.event = event) :
    Answers held (.create event) (.created (.created kept))
      (Function.update held event.sourceId (some kept))
  | duplicate {event : NewEvent} {kept : KeptEvent} (present : held event.sourceId = some kept) :
    Answers held (.create event) (.created (.duplicate kept)) held
  | found {start stop : Instant} {events : List KeptEvent} (distinct : events.Nodup)
    (listed : ∀ kept, kept ∈ events ↔ ∃ key, held key = some kept ∧
      start ≤ kept.event.createdAt ∧ kept.event.createdAt < stop)
    (ordered : events.Pairwise fun first second =>
      first.event.createdAt ≤ second.event.createdAt) :
    Answers held (.find start stop) (.found events) held
  | removed {threshold : Instant} {keys : Finset String}
    (expired : ∀ key, key ∈ keys ↔
      ∃ kept, held key = some kept ∧ kept.event.createdAt < threshold) :
    Answers held (.removeBefore threshold) (.removed keys.card)
      (fun key => (held key).filter fun kept => !decide (kept.event.createdAt < threshold))
  | counted {keys : Finset String} (all : ∀ key, key ∈ keys ↔ ∃ kept, held key = some kept) :
    Answers held .count (.counted keys.card) held

/-- Whether a map answers some calls so, one after the other. -/
inductive Run : EventMap → List EventCall → List EventReply → Prop
  | nil (held : EventMap) : Run held [] []
  | cons {held left : EventMap} {call : EventCall} {reply : EventReply} {calls : List EventCall}
    {replies : List EventReply} (answered : held.Answers call reply left)
    (rest : Run left calls replies) : Run held (call :: calls) (reply :: replies)

/-- Whether every row stands under the source id of its event. -/
def Own (held : EventMap) : Prop :=
  ∀ key kept, held key = some kept → kept.event.sourceId = key

/-- Whether two maps hold the same events. -/
def Agrees (held other : EventMap) : Prop :=
  ∀ key, (held key).map KeptEvent.event = (other key).map KeptEvent.event

end EventMap

/-- Whether two answers differ only in the numbers and times under which rows are kept, and in the
order of rows of one time. -/
inductive EventReply.Alike : EventReply → EventReply → Prop
  | created {first second : KeptEvent} (same : first.event = second.event) :
    Alike (.created (.created first)) (.created (.created second))
  | duplicate {first second : KeptEvent} (same : first.event = second.event) :
    Alike (.created (.duplicate first)) (.created (.duplicate second))
  | found {first second : List KeptEvent}
    (same : (first.map KeptEvent.event).Perm (second.map KeptEvent.event))
    (ordered : (first.map fun kept => kept.event.createdAt) =
      second.map fun kept => kept.event.createdAt) :
    Alike (.found first) (.found second)
  | removed (number : Nat) : Alike (.removed number) (.removed number)
  | counted (number : Nat) : Alike (.counted number) (.counted number)

/-! ### Maps of the same events -/

namespace EventMap

variable {held other left rest : EventMap} {call : EventCall} {reply answer : EventReply}

theorem own_empty : empty.Own := fun _ _ present => by cases present

/-- A call leaves every row under the source id of its event. -/
theorem Own.answers (own : held.Own) (answered : held.Answers call reply left) : left.Own := by
  cases answered with
  | @created event kept absent same =>
    intro key row present
    rw [Function.update_apply] at present
    split at present
    · rename_i place
      rw [← Option.some.inj present, same, place]
    · exact own key row present
  | duplicate => exact own
  | found => exact own
  | removed =>
    intro key row present
    exact own key row (Option.filter_eq_some_iff.mp present).1
  | counted => exact own

theorem Agrees.refl (held : EventMap) : held.Agrees held := fun _ => rfl

/-- A row of one map has a row of the same event in the other. -/
theorem Agrees.row (agrees : held.Agrees other) {key : String} {kept : KeptEvent}
    (present : held key = some kept) :
    ∃ row, other key = some row ∧ row.event = kept.event := by
  have same := agrees key
  rw [present, Option.map_some] at same
  exact Option.map_eq_some_iff.mp same.symm

theorem Agrees.symm (agrees : held.Agrees other) : other.Agrees held :=
  fun key => (agrees key).symm

/-- The events among the rows of a map, with a property, are those of the other map. -/
theorem Agrees.events_subset (agrees : held.Agrees other) (property : NewEvent → Prop)
    {events rows : List KeptEvent}
    (listed : ∀ kept, kept ∈ events ↔ ∃ key, held key = some kept ∧ property kept.event)
    (others : ∀ kept, kept ∈ rows ↔ ∃ key, other key = some kept ∧ property kept.event)
    {event : NewEvent} (member : event ∈ events.map KeptEvent.event) :
    event ∈ rows.map KeptEvent.event := by
  obtain ⟨kept, among, rfl⟩ := List.mem_map.mp member
  obtain ⟨key, present, told⟩ := (listed kept).mp among
  obtain ⟨row, found, same⟩ := agrees.row present
  exact List.mem_map.mpr ⟨row, (others row).mpr ⟨key, found, same ▸ told⟩, same⟩

/-- Different rows of a map are of different events. -/
theorem Own.nodup_events (own : held.Own) (property : NewEvent → Prop) {events : List KeptEvent}
    (listed : ∀ kept, kept ∈ events ↔ ∃ key, held key = some kept ∧ property kept.event)
    (distinct : events.Nodup) : (events.map KeptEvent.event).Nodup := by
  refine distinct.map_on fun first firstListed second secondListed same => ?_
  obtain ⟨key, present, _⟩ := (listed first).mp firstListed
  obtain ⟨place, found, _⟩ := (listed second).mp secondListed
  have together : key = place := by
    rw [← own key first present, ← own place second found, same]
  exact Option.some.inj (present.symm.trans (together ▸ found))

/-- Lists of the same events in the order of their times have the same times. -/
theorem times_eq {first second : List KeptEvent}
    (same : (first.map KeptEvent.event).Perm (second.map KeptEvent.event))
    (left : first.Pairwise fun one other => one.event.createdAt ≤ other.event.createdAt)
    (right : second.Pairwise fun one other => one.event.createdAt ≤ other.event.createdAt) :
    (first.map fun kept => kept.event.createdAt) =
      second.map fun kept => kept.event.createdAt := by
  have times := same.map NewEvent.createdAt
  rw [List.map_map, List.map_map] at times
  exact times.eq_of_pairwise (fun _ _ _ _ => Instant.le_antisymm) (List.pairwise_map.mpr left)
    (List.pairwise_map.mpr right)

/-- Maps of the same events answer a call alike, and hold the same events afterwards. -/
theorem Agrees.answers (agrees : held.Agrees other) (own : held.Own) (otherOwn : other.Own)
    (first : held.Answers call reply left) (second : other.Answers call answer rest) :
    reply.Alike answer ∧ left.Agrees rest := by
  cases first with
  | @created event kept absent same =>
    cases second with
    | created _ alsoSame =>
      refine ⟨.created (same.trans alsoSame.symm), fun key => ?_⟩
      rw [Function.update_apply, Function.update_apply]
      split
      · rw [Option.map_some, Option.map_some, same, alsoSame]
      · exact agrees key
    | duplicate present =>
      obtain ⟨row, found, _⟩ := agrees.symm.row present
      exact absurd (absent.symm.trans found) (by simp)
  | duplicate present =>
    obtain ⟨row, found, same⟩ := agrees.row present
    cases second with
    | created absent _ => exact absurd (absent.symm.trans found) (by simp)
    | duplicate alsoPresent =>
      obtain rfl := Option.some.inj (found.symm.trans alsoPresent)
      exact ⟨.duplicate same.symm, agrees⟩
  | @found start stop _ distinct listed ordered =>
    cases second with
    | found alsoDistinct alsoListed alsoOrdered =>
      let property (event : NewEvent) : Prop := start ≤ event.createdAt ∧ event.createdAt < stop
      have same := (List.perm_ext_iff_of_nodup
        (own.nodup_events property listed distinct)
        (otherOwn.nodup_events property alsoListed alsoDistinct)).mpr fun _ =>
          ⟨agrees.events_subset property listed alsoListed,
            agrees.symm.events_subset property alsoListed listed⟩
      exact ⟨.found same (times_eq same ordered alsoOrdered), agrees⟩
  | @removed threshold keys expired =>
    cases second with
    | @removed _ others alsoExpired =>
      have same : keys = others := by
        ext key
        rw [expired, alsoExpired]
        constructor
        · rintro ⟨kept, present, before⟩
          obtain ⟨row, found, event⟩ := agrees.row present
          exact ⟨row, found, event ▸ before⟩
        · rintro ⟨kept, present, before⟩
          obtain ⟨row, found, event⟩ := agrees.symm.row present
          exact ⟨row, found, event ▸ before⟩
      refine ⟨same ▸ .removed _, fun key => ?_⟩
      have filtered (map : EventMap) :
          ((map key).filter fun kept => !decide (kept.event.createdAt < threshold)).map
              KeptEvent.event =
            ((map key).map KeptEvent.event).filter fun event =>
              !decide (event.createdAt < threshold) := by
        rw [Option.filter_map]
        rfl
      show ((held key).filter _).map _ = ((other key).filter _).map _
      rw [filtered held, filtered other, agrees key]
  | @counted keys all =>
    cases second with
    | @counted others alsoAll =>
      have same : keys = others := by
        ext key
        rw [all, alsoAll]
        constructor
        · rintro ⟨kept, present⟩
          obtain ⟨row, found, _⟩ := agrees.row present
          exact ⟨row, found⟩
        · rintro ⟨kept, present⟩
          obtain ⟨row, found, _⟩ := agrees.symm.row present
          exact ⟨row, found⟩
      exact ⟨same ▸ .counted _, agrees⟩

/-- Maps of the same events answer every sequence of calls alike. -/
theorem Agrees.run (agrees : held.Agrees other) (own : held.Own) (otherOwn : other.Own)
    {calls : List EventCall} {replies answers : List EventReply} (first : held.Run calls replies)
    (second : other.Run calls answers) : List.Forall₂ EventReply.Alike replies answers := by
  induction first generalizing other answers with
  | nil =>
    cases second
    exact .nil
  | cons answered _ inductionHypothesis =>
    cases second with
    | cons alsoAnswered others =>
      obtain ⟨alike, stillAgrees⟩ := agrees.answers own otherOwn answered alsoAnswered
      exact .cons alike (inductionHypothesis stillAgrees (own.answers answered)
        (otherOwn.answers alsoAnswered) others)

end EventMap

/-! ### Tables as maps -/

theorem EventTree.perm_insertRow (key : String) (value : KeptEvent)
    (rows : List (String × KeptEvent)) :
    (insertRow key value rows).Perm ((key, value) :: rows) := by
  induction rows with
  | nil => exact .refl _
  | cons row rest inductionHypothesis =>
    obtain ⟨other, held⟩ := row
    rw [insertRow]
    split
    · exact .refl _
    · exact (inductionHypothesis.cons _).trans (.swap _ _ _)

/-- Of rows with different keys, removing the keys of those with a property leaves the others. -/
theorem filter_keys {rows : List (String × KeptEvent)} (distinct : (rows.map Prod.fst).Nodup)
    (keeps : KeptEvent → Bool) :
    (rows.filter fun row =>
        !((rows.filter fun row => !keeps row.2).map Prod.fst).contains row.1) =
      rows.filter fun row => keeps row.2 := by
  refine List.filter_congr fun row member => ?_
  rw [Bool.eq_iff_iff, Bool.not_eq_true', Bool.eq_false_iff, ne_eq, List.contains_iff_mem]
  constructor
  · intro unlisted
    by_contra gone
    exact unlisted (List.mem_map.mpr ⟨row, List.mem_filter.mpr ⟨member, by simp [gone]⟩, rfl⟩)
  · rintro kept listed
    obtain ⟨other, expired, same⟩ := List.mem_map.mp listed
    obtain ⟨among, gone⟩ := List.mem_filter.mp expired
    obtain rfl := List.inj_on_of_nodup_map distinct among member same
    simp [kept] at gone

namespace EventRows

/-- The rows of a table, with their keys. -/
def listed : EventRows → List (String × KeptEvent)
  | .table held => held.rows.rows
  | .tree held => held.rows

/-- Whether the keys of a table are different, and are the source ids of its events. -/
structure Keyed (rows : EventRows) : Prop where
  distinct : (rows.listed.map Prod.fst).Nodup
  own : ∀ row ∈ rows.listed, row.2.event.sourceId = row.1

/-- A table as a map. -/
def toMap (rows : EventRows) : EventMap := rows.get?

variable {rows : EventRows}

theorem get?_eq (rows : EventRows) (key : String) :
    rows.get? key = Table.lookup? key rows.listed := by
  cases rows <;> rfl

theorem find_eq (rows : EventRows) (start stop : Instant) :
    rows.find start stop = within (rows.listed.map Prod.snd) start stop := by
  cases rows <;> rfl

theorem count_eq (rows : EventRows) : rows.count = rows.listed.length := by
  cases rows <;> rfl

theorem keyed_table : (EventRows.table .empty).Keyed where
  distinct := List.nodup_nil
  own := fun _ never => absurd never List.not_mem_nil

theorem keyed_tree : (EventRows.tree .empty).Keyed where
  distinct := List.nodup_nil
  own := fun _ never => absurd never List.not_mem_nil

/-- The row under a key is the one listed with it. -/
theorem Keyed.toMap_iff (keyed : rows.Keyed) {key : String} {kept : KeptEvent} :
    rows.toMap key = some kept ↔ (key, kept) ∈ rows.listed := by
  rw [toMap, get?_eq]
  exact Table.lookup?_eq_some_iff keyed.distinct

/-- An event whose source id has a row is not kept again. -/
theorem create_of_present {event : NewEvent} {kept : KeptEvent}
    (present : rows.toMap event.sourceId = some kept) (now : Instant) :
    rows.create now event = (.duplicate kept, rows) := by
  cases rows with
  | table held =>
    rw [create, EventTable.create, show held.rows.get? event.sourceId = some kept from present]
  | tree held =>
    rw [create, EventTree.create, show held.get? event.sourceId = some kept from present]

/-- An event whose source id has no row is kept, and listed with the other rows. -/
theorem create_of_absent {event : NewEvent} (absent : rows.toMap event.sourceId = none)
    (now : Instant) :
    ∃ kept : KeptEvent, kept.event = event ∧ (rows.create now event).1 = .created kept ∧
      (rows.create now event).2.listed.Perm ((event.sourceId, kept) :: rows.listed) := by
  cases rows with
  | table held =>
    refine ⟨⟨held.nextSerial, event, now⟩, rfl, ?_, ?_⟩
    · rw [create, EventTable.create, show held.rows.get? event.sourceId = none from absent]
    · rw [create, EventTable.create, show held.rows.get? event.sourceId = none from absent]
      show (Table.setRow _ _ _).Perm _
      rw [Table.setRow_of_absent absent]
      exact List.perm_append_singleton _ _
  | tree held =>
    refine ⟨⟨held.nextSerial, event, now⟩, rfl, ?_, ?_⟩
    · rw [create, EventTree.create, show held.get? event.sourceId = none from absent]
    · rw [create, EventTree.create, show held.get? event.sourceId = none from absent]
      exact EventTree.perm_insertRow _ _ _

/-- A removal takes away the rows of an earlier time, and answers how many there were. -/
theorem Keyed.removeBefore_eq (keyed : rows.Keyed) (threshold : Instant) :
    (rows.removeBefore threshold).1 =
        (rows.listed.filter fun row => !row.2.isKeptAfter threshold).length ∧
      (rows.removeBefore threshold).2.listed =
        rows.listed.filter fun row => row.2.isKeptAfter threshold := by
  cases rows with
  | table held =>
    refine ⟨?_, rfl⟩
    have together := List.length_eq_length_filter_add (l := held.rows.rows)
      fun row => row.2.isKeptAfter threshold
    show held.rows.rows.length -
      (held.rows.rows.filter fun row => row.2.isKeptAfter threshold).length =
        (held.rows.rows.filter fun row => !row.2.isKeptAfter threshold).length
    omega
  | tree held => exact ⟨rfl, filter_keys keyed.distinct fun kept => kept.isKeptAfter threshold⟩

/-! ### Tables answer as maps -/

/-- The keys of some rows of a table. -/
def keysWhere (rows : EventRows) (chosen : KeptEvent → Bool) : Finset String :=
  ((rows.listed.filter fun row => chosen row.2).map Prod.fst).toFinset

theorem Keyed.mem_keysWhere (keyed : rows.Keyed) (chosen : KeptEvent → Bool) {key : String} :
    key ∈ rows.keysWhere chosen ↔ ∃ kept, rows.toMap key = some kept ∧ chosen kept = true := by
  rw [keysWhere, List.mem_toFinset]
  constructor
  · intro listed
    obtain ⟨⟨_, kept⟩, member, rfl⟩ := List.mem_map.mp listed
    obtain ⟨among, told⟩ := List.mem_filter.mp member
    exact ⟨kept, keyed.toMap_iff.mpr among, told⟩
  · rintro ⟨kept, present, told⟩
    exact List.mem_map.mpr ⟨(key, kept),
      List.mem_filter.mpr ⟨keyed.toMap_iff.mp present, told⟩, rfl⟩

theorem Keyed.card_keysWhere (keyed : rows.Keyed) (chosen : KeptEvent → Bool) :
    (rows.keysWhere chosen).card = (rows.listed.filter fun row => chosen row.2).length := by
  have distinct := keyed.distinct.sublist
    ((List.filter_sublist (p := fun row => chosen row.2)).map Prod.fst)
  rw [keysWhere, List.toFinset_card_of_nodup distinct, List.length_map]

/-- The rows of a table are different. -/
theorem Keyed.nodup_events (keyed : rows.Keyed) : (rows.listed.map Prod.snd).Nodup := by
  refine List.Nodup.of_map (fun kept => kept.event.sourceId) ?_
  have ids : (rows.listed.map Prod.snd).map (fun kept => kept.event.sourceId) =
      rows.listed.map Prod.fst := by
    rw [List.map_map]
    exact List.map_congr_left keyed.own
  rw [ids]
  exact keyed.distinct

theorem perm_find (rows : EventRows) (start stop : Instant) :
    (rows.find start stop).Perm
      ((rows.listed.map Prod.snd).filter fun kept => kept.isWithin start stop) := by
  rw [find_eq]
  exact List.mergeSort_perm _ _

theorem ordered_find (rows : EventRows) (start stop : Instant) :
    (rows.find start stop).Pairwise fun first second =>
      first.event.createdAt ≤ second.event.createdAt := by
  rw [find_eq]
  refine (List.pairwise_mergeSort ?_ ?_ _).imp of_decide_eq_true
  · exact fun first second third left right => decide_eq_true
      (Instant.le_trans (of_decide_eq_true left) (of_decide_eq_true right))
  · intro first second
    rw [Bool.or_eq_true, decide_eq_true_iff, decide_eq_true_iff]
    exact Instant.le_total _ _

/-- The rows of a span of time, each once, in the order of their times. -/
theorem Keyed.find_answers (keyed : rows.Keyed) (start stop : Instant) :
    rows.toMap.Answers (.find start stop) (.found (rows.find start stop)) rows.toMap := by
  have sorted := rows.perm_find start stop
  refine .found (sorted.nodup_iff.mpr (keyed.nodup_events.filter _)) (fun kept => ?_)
    (rows.ordered_find start stop)
  rw [sorted.mem_iff, List.mem_filter, KeptEvent.isWithin, Bool.and_eq_true, decide_eq_true_iff,
    decide_eq_true_iff]
  constructor
  · rintro ⟨among, inside⟩
    obtain ⟨⟨key, _⟩, member, rfl⟩ := List.mem_map.mp among
    exact ⟨key, keyed.toMap_iff.mpr member, inside⟩
  · rintro ⟨key, present, inside⟩
    exact ⟨List.mem_map.mpr ⟨(key, kept), keyed.toMap_iff.mp present, rfl⟩, inside⟩

/-- A call leaves the keys of a table what they are to be. -/
theorem Keyed.perform (keyed : rows.Keyed) (now : Instant) (call : EventCall) :
    (rows.perform now call).2.Keyed := by
  cases call with
  | create event =>
    show (rows.create now event).2.Keyed
    cases found : rows.toMap event.sourceId with
    | some kept =>
      rw [create_of_present found]
      exact keyed
    | none =>
      obtain ⟨kept, same, _, listed⟩ := create_of_absent found now
      have fresh : event.sourceId ∉ rows.listed.map Prod.fst := by
        rw [toMap, get?_eq] at found
        exact Table.lookup?_eq_none_iff.mp found
      refine ⟨(listed.map Prod.fst).nodup_iff.mpr (List.nodup_cons.mpr ⟨fresh, keyed.distinct⟩),
        fun row member => ?_⟩
      rcases List.mem_cons.mp (listed.mem_iff.mp member) with rfl | earlier
      · exact congrArg NewEvent.sourceId same
      · exact keyed.own row earlier
  | removeBefore threshold =>
    have left := (keyed.removeBefore_eq threshold).2
    refine ⟨?_, fun row member => ?_⟩
    · show ((rows.removeBefore threshold).2.listed.map Prod.fst).Nodup
      rw [left]
      exact keyed.distinct.sublist (List.filter_sublist.map Prod.fst)
    · rw [show (rows.perform now (.removeBefore threshold)).2.listed = _ from left] at member
      exact keyed.own row (List.mem_filter.mp member).1
  | find | count => exact keyed

/-- A call on a table is answered as by its map. -/
theorem Keyed.answers (keyed : rows.Keyed) (now : Instant) (call : EventCall) :
    rows.toMap.Answers call (rows.perform now call).1 (rows.perform now call).2.toMap := by
  have after := keyed.perform now call
  cases call with
  | create event =>
    show rows.toMap.Answers _ (.created (rows.create now event).1) (rows.create now event).2.toMap
    cases found : rows.toMap event.sourceId with
    | some kept =>
      rw [create_of_present found]
      exact .duplicate found
    | none =>
      obtain ⟨kept, same, answered, listed⟩ := create_of_absent found now
      have left : (rows.create now event).2.toMap =
          Function.update rows.toMap event.sourceId (some kept) := by
        funext key
        rw [Function.update_apply]
        refine Option.ext fun row => ?_
        have member : (rows.create now event).2.toMap key = some row ↔
            (key, row) ∈ (event.sourceId, kept) :: rows.listed :=
          after.toMap_iff.trans listed.mem_iff
        rw [member, List.mem_cons, ← keyed.toMap_iff]
        split
        · rename_i own
          simp [own, found, eq_comm]
        · rename_i other
          simp [other]
      rw [answered, left]
      exact .created found same
  | find start stop => exact keyed.find_answers start stop
  | removeBefore threshold =>
    obtain ⟨number, left⟩ := keyed.removeBefore_eq threshold
    have gone : (rows.removeBefore threshold).2.toMap = fun key => (rows.toMap key).filter
        fun kept => !decide (kept.event.createdAt < threshold) := by
      funext key
      refine Option.ext fun row => ?_
      show (rows.perform now (.removeBefore threshold)).2.toMap key = some row ↔ _
      rw [after.toMap_iff, show (rows.perform now (.removeBefore threshold)).2.listed = _ from left,
        List.mem_filter, ← keyed.toMap_iff, Option.filter_eq_some_iff]
      rfl
    show rows.toMap.Answers _ (.removed (rows.removeBefore threshold).1)
      (rows.removeBefore threshold).2.toMap
    rw [gone, number, ← keyed.card_keysWhere fun kept => !kept.isKeptAfter threshold]
    refine .removed fun key => (keyed.mem_keysWhere _).trans ?_
    simp [KeptEvent.isKeptAfter]
  | count =>
    show rows.toMap.Answers _ (.counted rows.count) rows.toMap
    have all : rows.listed.filter (fun _ => true) = rows.listed :=
      List.filter_eq_self.mpr fun _ _ => rfl
    rw [count_eq, ← all, ← keyed.card_keysWhere fun _ => true]
    refine .counted fun key => (keyed.mem_keysWhere _).trans ?_
    simp

/-- A table answers every sequence of calls as its map does. -/
theorem Keyed.run (keyed : rows.Keyed) (clock : Nat → Instant) (calls : List EventCall) :
    rows.toMap.Run calls (rows.replies clock calls) := by
  induction calls generalizing rows clock with
  | nil => exact .nil _
  | cons call rest inductionHypothesis =>
    exact .cons (keyed.answers (clock 0) call)
      (inductionHypothesis (keyed.perform (clock 0) call) _)

end EventRows

/-- From no rows on, both tables answer every sequence of calls as one map from source ids to rows
does, whatever their clocks show, and so they answer alike: what differs are the numbers and times
under which rows are kept, and the order of rows of one time. -/
theorem tables_are_one_map (calls : List EventCall) (first second : Nat → Instant) :
    EventMap.empty.Run calls ((EventRows.table .empty).replies first calls) ∧
      EventMap.empty.Run calls ((EventRows.tree .empty).replies second calls) ∧
      List.Forall₂ EventReply.Alike ((EventRows.table .empty).replies first calls)
        ((EventRows.tree .empty).replies second calls) := by
  have table : EventMap.empty.Run calls ((EventRows.table .empty).replies first calls) :=
    EventRows.keyed_table.run first calls
  have tree : EventMap.empty.Run calls ((EventRows.tree .empty).replies second calls) :=
    EventRows.keyed_tree.run second calls
  exact ⟨table, tree, (EventMap.Agrees.refl _).run EventMap.own_empty EventMap.own_empty table tree⟩

/-- An access to be kept from a record, filed under a category at a time. -/
def accessAt (sourceId : String) (category : Event.Category) (seconds : Int) : NewEvent :=
  ⟨sourceId, 1, category, "u-1", "/api/v1/items", "GET", none, 200, .zero false, "10.0.0.1", "curl",
    none, none, ⟨seconds, 0⟩⟩

end AccessFeed.Archive
