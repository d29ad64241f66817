/-
This file says what holds at every stage of a replay.

A listener that replays reads the pending ids of its consumer batch by batch,
each behind the last one, while its own acknowledgements take ids from the list
it reads. What it is done with, what is left of its batch and what it has not
read are at any time the list it started with; and since what it has read lies
before its cursor, the ids behind the cursor are those it has not read.
-/

import AccessFeed.Listening.Listener
import AccessFeed.Proofs.Pendings

namespace AccessFeed

open Streams (Content Group ReadOffset Record Store StoreCall StreamId)

/-! ### What a replay did -/

/-- The ids that are pending with the consumer of a listener. -/
def Streams.Store.backlog (store : Store) (spec : ListenerSpec) : List StreamId :=
  store.pendingOf spec.stream spec.group spec.consumer

/-- Whether the entry of an id is in the stream of a listener. -/
def Streams.Store.holds (store : Store) (spec : ListenerSpec) (id : StreamId) : Bool :=
  (store.fieldsAt? spec.stream id).isSome

/-- What a listener did so far: the batches it read, how the dispatches of their records ended, and
the tombstones it acknowledged. -/
structure Tally where
  reads : List (List Record) := []
  outcomes : List (StreamId × DispatchOutcome) := []
  swept : List StreamId := []

/-- The ids that were acknowledged. -/
def Tally.resolved (tally : Tally) : List StreamId :=
  tally.swept ++ (tally.outcomes.filter fun ended => ended.2.isAcknowledged).map Prod.fst

/-! ### Stages of a replay -/

/-- How far a replay has come: the ids it is done with, the records left of its batch, the
tombstones it has set aside, and the ids it has not read. -/
structure Stage where
  treated : List StreamId
  left : List Record
  tombstones : List StreamId
  back : List StreamId

namespace Stage

variable (stage : Stage)

/-- The ids that were read. -/
def read : List StreamId :=
  stage.treated ++ stage.left.map Record.id

/-- Taking up a record of the batch changes nothing of what was read. -/
theorem read_take {record : Record} {rest : List Record} (left : stage.left = record :: rest)
    (tombstones : List StreamId) :
    read ⟨stage.treated ++ [record.id], rest, tombstones, stage.back⟩ = stage.read := by
  rw [read, read, left, List.append_assoc]
  rfl

/-- The id behind which the next read begins. -/
def cursor : StreamId :=
  stage.read.getLast?.getD .least

variable {stage}

/-- The cursor lies between what was read and what was not. -/
theorem cursor_bounds (inOrder : stage.read.Pairwise (· < ·))
    (behind : ∀ one ∈ stage.read, ∀ other ∈ stage.back, one < other)
    (rooted : ∀ id ∈ stage.back, .least < id) (below : ∀ id ∈ stage.read, id ≠ .greatest) :
    stage.cursor ≠ .greatest ∧ (∀ id ∈ stage.read, id ≤ stage.cursor) ∧
      ∀ id ∈ stage.back, stage.cursor < id := by
  rw [cursor]
  cases last : stage.read.getLast? with
  | none =>
    rw [List.getLast?_eq_none_iff] at last
    rw [last]
    exact ⟨by decide, fun _ never => absurd never List.not_mem_nil, rooted⟩
  | some cursor =>
    obtain ⟨first, whole⟩ := List.getLast?_eq_some_iff.mp last
    have among : cursor ∈ stage.read := whole ▸ List.mem_append_right _ (List.mem_singleton.mpr rfl)
    refine ⟨below cursor among, fun id member => ?_, behind cursor among⟩
    rw [whole] at inOrder member
    rcases List.mem_append.mp member with early | late
    · exact StreamId.le_of_lt
        ((List.pairwise_append.mp inOrder).2.2 id early cursor (List.mem_singleton.mpr rfl))
    · exact List.mem_singleton.mp late ▸ StreamId.le_refl _

end Stage

/-- What holds of the streams, and of what a listener did, at a stage of its replay. -/
structure Progress (settings : ListenerSettings) (spec : ListenerSpec) (start : Store)
    (tally : Tally) (store : Store) (stage : Stage) : Prop where
  whole : store.Whole
  backlog : start.backlog spec = stage.read ++ stage.back
  left : ∀ record ∈ stage.left,
    record.stream = spec.stream ∧ record.isTombstone = !start.holds spec record.id
  outcomes : tally.outcomes.map Prod.fst = stage.treated.filter (start.holds spec)
  swept : tally.swept ++ stage.tombstones = stage.treated.filter fun id => !start.holds spec id
  reads : tally.reads.flatten.map Record.id = stage.read
  filled : [] ∉ tally.reads
  most : stage.read.length ≤ tally.reads.length * settings.readCount
  few : tally.reads.length * settings.readCount < stage.read.length + settings.readCount
  full : stage.back ≠ [] → tally.reads.length * settings.readCount ≤ stage.read.length
  pending : store.backlog spec = (start.backlog spec).filter fun id => id ∉ tally.resolved
  entries : ∀ id ∈ store.backlog spec,
    store.fieldsAt? spec.stream id = start.fieldsAt? spec.stream id

/-- What a listener did when its replay is over: it read the ids that were pending in order, in full
batches but for the last one, and then an empty one; it dispatched the entries that were there and
acknowledged the others; and what is pending is what was dispatched and not acknowledged. -/
structure Replayed (settings : ListenerSettings) (spec : ListenerSpec) (start : Store)
    (tally : Tally) (store : Store) : Prop where
  ascending : (start.backlog spec).Pairwise (· < ·)
  reads : ∃ batches, tally.reads = batches ++ [[]] ∧ [] ∉ batches ∧
    batches.length = ((start.backlog spec).length + settings.readCount - 1) / settings.readCount ∧
    batches.flatten.map Record.id = start.backlog spec
  outcomes : tally.outcomes.map Prod.fst = (start.backlog spec).filter (start.holds spec)
  swept : tally.swept = (start.backlog spec).filter fun id => !start.holds spec id
  pending : store.backlog spec =
    (tally.outcomes.filter fun ended => !ended.2.isAcknowledged).map Prod.fst

/-- Whether a change of the streams takes ids from what is pending with a listener's consumer, and
leaves all entries. -/
structure Resolves (spec : ListenerSpec) (ids : List StreamId) (before after : Store) : Prop where
  whole : after.Whole
  pending : after.backlog spec = (before.backlog spec).filter fun id => id ∉ ids
  entries : ∀ id, after.fieldsAt? spec.stream id = before.fieldsAt? spec.stream id

theorem resolves_nil {store : Store} (whole : store.Whole) (spec : ListenerSpec) :
    Resolves spec [] store store where
  whole := whole
  pending := (List.filter_eq_self.mpr fun _ _ => decide_eq_true List.not_mem_nil).symm
  entries := fun _ => rfl

/-- When nothing is acknowledged, what is pending stays. -/
theorem Resolves.pending_of_nil {spec : ListenerSpec} {before after : Store}
    (resolves : Resolves spec [] before after) : after.backlog spec = before.backlog spec :=
  resolves.pending.trans (List.filter_eq_self.mpr fun _ _ => decide_eq_true List.not_mem_nil)

theorem resolves_of_answer {service : Streams.Service} (whole : service.store.Whole)
    {spec : ListenerSpec} {ids : List StreamId} {count : Nat}
    (answer : (service.acknowledge spec.stream spec.group ids).1 = .ok count) :
    Resolves spec ids service.store (service.acknowledge spec.stream spec.group ids).2.store := by
  rcases service.acknowledge_made spec.stream spec.group ids with
    ⟨error, failed, _⟩ | ⟨working, _, made⟩
  · rw [answer] at failed
    cases failed
  · obtain ⟨pending, entries⟩ :=
      Store.acknowledge_pending working whole.sound spec.stream spec.group spec.consumer ids
    rw [made]
    refine ⟨@Store.Whole.perform _ whole (.acknowledge spec.stream spec.group ids) ?_, pending,
      entries⟩
    exact StoreCall.answer_ne_greatest (fun _ impossible => by cases impossible) _

/-- Acknowledging more ids leaves fewer of them. -/
theorem filter_unresolved {ids before after given : List StreamId}
    (told : ∀ id, id ∈ after ↔ id ∈ before ∨ id ∈ given) :
    (ids.filter fun id => id ∉ before).filter (fun id => id ∉ given) =
      ids.filter fun id => id ∉ after := by
  rw [List.filter_filter]
  refine List.filter_congr fun id _ => ?_
  simp [told, Bool.and_comm]

/-- A read goes on behind the last id of its batch. -/
theorem behind_batch (stage : Stage) {batch : List Record} (nonempty : batch ≠ [])
    (back : List StreamId) :
    (ReadOffset.pendingAfter stage.cursor).behind batch =
      .pendingAfter (Stage.cursor ⟨stage.treated, batch, [], back⟩) := by
  obtain ⟨first, last, rfl⟩ : ∃ first last, batch = first ++ [last] :=
    ⟨batch.dropLast, batch.getLast nonempty, (List.dropLast_concat_getLast nonempty).symm⟩
  have read : Stage.read ⟨stage.treated, first ++ [last], [], back⟩ =
      (stage.treated ++ first.map Record.id) ++ [last.id] := by
    rw [Stage.read, List.map_append, ← List.append_assoc]
    rfl
  have cursor : Stage.cursor ⟨stage.treated, first ++ [last], [], back⟩ = last.id := by
    rw [Stage.cursor, read, List.getLast?_concat]
    rfl
  simp only [cursor, ReadOffset.behind, List.getLast?_concat]

/-- A dispatched id was acknowledged exactly if its dispatch ended so, as no other one had this
id. -/
theorem Tally.mem_resolved_iff {tally : Tally}
    (inOrder : (tally.outcomes.map Prod.fst).Pairwise (· < ·)) {id : StreamId}
    {outcome : DispatchOutcome} (ended : (id, outcome) ∈ tally.outcomes)
    (unswept : id ∉ tally.swept) : id ∈ tally.resolved ↔ outcome.isAcknowledged = true := by
  have ordered : (⟨tally.outcomes⟩ : Streams.IdMap DispatchOutcome).Ascending :=
    List.pairwise_map.mp inOrder
  constructor
  · intro resolved
    rcases List.mem_append.mp resolved with swept | acknowledged
    · exact absurd swept unswept
    · obtain ⟨⟨_, other⟩, among, rfl⟩ := List.mem_map.mp acknowledged
      obtain ⟨listed, told⟩ := List.mem_filter.mp among
      obtain rfl :=
        Option.some.inj ((ordered.get?_of_mem ended).symm.trans (ordered.get?_of_mem listed))
      exact told
  · intro acknowledged
    exact List.mem_append_right _
      (List.mem_map.mpr ⟨_, List.mem_filter.mpr ⟨ended, acknowledged⟩, rfl⟩)

/-- Of the ids that were there, those are left that were dispatched but not acknowledged. -/
theorem filter_resolved {ids : List StreamId} (ascending : ids.Pairwise (· < ·)) {tally : Tally}
    {holds : StreamId → Bool} (outcomes : tally.outcomes.map Prod.fst = ids.filter holds)
    (swept : tally.swept = ids.filter fun id => !holds id) :
    (ids.filter fun id => id ∉ tally.resolved) =
      (tally.outcomes.filter fun ended => !ended.2.isAcknowledged).map Prod.fst := by
  have inOrder : (tally.outcomes.map Prod.fst).Pairwise (· < ·) := outcomes ▸ ascending.filter _
  refine StreamId.eq_of_ascending (ascending.filter _)
    (inOrder.sublist (List.filter_sublist.map Prod.fst)) fun id => ?_
  have dispatched : id ∈ tally.outcomes.map Prod.fst ↔ id ∈ ids ∧ holds id = true := by
    rw [outcomes, List.mem_filter]
  have kept : id ∈ tally.swept ↔ id ∈ ids ∧ holds id = false := by
    rw [swept, List.mem_filter, Bool.not_eq_true']
  constructor
  · intro member
    obtain ⟨present, left⟩ := List.mem_filter.mp member
    have unresolved := of_decide_eq_true left
    have unswept : id ∉ tally.swept := fun gone => unresolved (List.mem_append_left _ gone)
    have there : holds id = true :=
      Bool.not_eq_false _ ▸ fun gone => unswept (kept.mpr ⟨present, gone⟩)
    obtain ⟨⟨_, outcome⟩, among, rfl⟩ := List.mem_map.mp (dispatched.mpr ⟨present, there⟩)
    rw [Tally.mem_resolved_iff inOrder among unswept] at unresolved
    exact List.mem_map.mpr ⟨_, List.mem_filter.mpr ⟨among, by simpa using unresolved⟩, rfl⟩
  · intro member
    obtain ⟨⟨_, outcome⟩, filtered, rfl⟩ := List.mem_map.mp member
    obtain ⟨among, unacknowledged⟩ := List.mem_filter.mp filtered
    obtain ⟨present, there⟩ := dispatched.mp (List.mem_map.mpr ⟨_, among, rfl⟩)
    have unswept : _ ∉ tally.swept := fun gone =>
      Bool.false_ne_true ((kept.mp gone).2.symm.trans there)
    refine List.mem_filter.mpr ⟨present, decide_eq_true ?_⟩
    rw [Tally.mem_resolved_iff inOrder among unswept]
    simpa using unacknowledged

namespace Progress

variable {settings : ListenerSettings} {spec : ListenerSpec} {start store : Store}
  {tally : Tally} {stage : Stage}

/-- Others leave a replay where it is. -/
theorem others (progress : Progress settings spec start tally store stage)
    {after : Store} (whole : after.Whole) (pending : after.backlog spec = store.backlog spec)
    (entries : ∀ id ∈ store.backlog spec,
      after.fieldsAt? spec.stream id = store.fieldsAt? spec.stream id) :
    Progress settings spec start tally after stage :=
  { progress with
    whole
    pending := pending.trans progress.pending
    entries := fun id member =>
      (entries id (pending ▸ member)).trans (progress.entries id (pending ▸ member)) }

/-- What was acknowledged the replay is done with. -/
theorem mem_treated (progress : Progress settings spec start tally store stage) {id : StreamId}
    (resolved : id ∈ tally.resolved) : id ∈ stage.treated := by
  rcases List.mem_append.mp resolved with swept | acknowledged
  · have member : id ∈ tally.swept ++ stage.tombstones := List.mem_append_left _ swept
    rw [progress.swept] at member
    exact (List.mem_filter.mp member).1
  · obtain ⟨ended, among, rfl⟩ := List.mem_map.mp acknowledged
    have member : ended.1 ∈ tally.outcomes.map Prod.fst :=
      List.mem_map.mpr ⟨ended, (List.mem_filter.mp among).1, rfl⟩
    rw [progress.outcomes] at member
    exact (List.mem_filter.mp member).1

/-- A step that reads nothing. -/
theorem move (progress : Progress settings spec start tally store stage) {later : Stage}
    {next : Tally} {after : Store} {ids : List StreamId} (resolves : Resolves spec ids store after)
    (resolved : ∀ id, id ∈ next.resolved ↔ id ∈ tally.resolved ∨ id ∈ ids)
    (read : later.read = stage.read) (back : later.back = stage.back)
    (reads : next.reads = tally.reads) (left : ∀ record ∈ later.left, record ∈ stage.left)
    (outcomes : next.outcomes.map Prod.fst = later.treated.filter (start.holds spec))
    (swept : next.swept ++ later.tombstones =
      later.treated.filter fun id => !start.holds spec id) :
    Progress settings spec start next after later where
  whole := resolves.whole
  backlog := by rw [read, back, progress.backlog]
  left := fun record among => progress.left record (left record among)
  outcomes := outcomes
  swept := swept
  reads := by rw [reads, read, progress.reads]
  filled := reads ▸ progress.filled
  most := by rw [reads, read]; exact progress.most
  few := by rw [reads, read]; exact progress.few
  full := by rw [reads, read, back]; exact progress.full
  pending := by rw [resolves.pending, progress.pending, filter_unresolved resolved]
  entries := by
    intro id member
    rw [resolves.pending] at member
    exact (resolves.entries id).trans (progress.entries id (List.mem_filter.mp member).1)

/-- A tombstone is set aside. -/
theorem setAside (progress : Progress settings spec start tally store stage) {record : Record}
    {rest : List Record} (left : stage.left = record :: rest)
    (tombstone : record.isTombstone = true) :
    Progress settings spec start tally store
      ⟨stage.treated ++ [record.id], rest, stage.tombstones ++ [record.id], stage.back⟩ := by
  have absent : start.holds spec record.id = false := by
    have told := (progress.left record (left ▸ List.mem_cons_self)).2
    rw [tombstone] at told
    simpa using told.symm
  refine progress.move (resolves_nil progress.whole spec) (by simp) (stage.read_take left _) rfl rfl
    ?_ ?_ ?_
  · intro other among
    rw [left]
    exact List.mem_cons_of_mem _ among
  · rw [List.filter_append, ← progress.outcomes, List.filter_cons_of_neg (by simp [absent])]
    exact (List.append_nil _).symm
  · rw [List.filter_append, ← progress.swept, List.filter_cons_of_pos (by simp [absent]),
      List.append_assoc]
    rfl

/-- A dispatch ends. -/
theorem finished (progress : Progress settings spec start tally store stage) {record : Record}
    {rest : List Record} (left : stage.left = record :: rest)
    (alive : record.isTombstone = false) {outcome : DispatchOutcome} {after : Store}
    (resolves : Resolves spec (if outcome.isAcknowledged then [record.id] else []) store after) :
    Progress settings spec start
      { tally with outcomes := tally.outcomes ++ [(record.id, outcome)] } after
      ⟨stage.treated ++ [record.id], rest, stage.tombstones, stage.back⟩ := by
  have present : start.holds spec record.id = true := by
    have told := (progress.left record (left ▸ List.mem_cons_self)).2
    rw [alive] at told
    simpa using told.symm
  refine progress.move resolves (fun id => ?_) (stage.read_take left _) rfl rfl ?_ ?_ ?_
  · rw [Tally.resolved, Tally.resolved, List.filter_append, List.map_append, ← List.append_assoc,
      List.mem_append]
    refine or_congr Iff.rfl ?_
    cases outcome <;> exact Iff.rfl
  · intro other among
    rw [left]
    exact List.mem_cons_of_mem _ among
  · rw [List.map_append, progress.outcomes, List.filter_append,
      List.filter_cons_of_pos (by simp [present])]
    rfl
  · rw [List.filter_append, ← progress.swept, List.filter_cons_of_neg (by simp [present])]
    exact (List.append_nil _).symm

/-- The tombstones of a batch are acknowledged. -/
theorem sweep (progress : Progress settings spec start tally store stage) {after : Store}
    (resolves : Resolves spec stage.tombstones store after) :
    Progress settings spec start { tally with swept := tally.swept ++ stage.tombstones } after
      { stage with tombstones := [] } := by
  refine progress.move resolves (fun id => ?_) rfl rfl rfl (fun _ => id) progress.outcomes
    ((List.append_nil _).trans progress.swept)
  simp only [Tally.resolved, List.mem_append]
  exact or_right_comm

/-- Of the pending ids, those behind the cursor are the ones that were not read. -/
theorem behind_cursor (progress : Progress settings spec start tally store stage)
    (whole : start.Whole) :
    (store.backlog spec).filter (fun id => stage.cursor.successor ≤ id) = stage.back := by
  have ascending := Store.ascending_pendingOf whole.sound spec.stream spec.group spec.consumer
  rw [← Store.backlog, progress.backlog] at ascending
  obtain ⟨inOrder, _, behind⟩ := List.pairwise_append.mp ascending
  have pending : ∀ id ∈ stage.read ++ stage.back, id ∈ start.backlog spec := fun id member =>
    progress.backlog ▸ member
  obtain ⟨below, atMost, ahead⟩ := stage.cursor_bounds inOrder behind
    (fun id member => Store.lt_of_pending whole (pending id (List.mem_append_right _ member)))
    fun id member => Store.ne_greatest_of_pending whole.sound
      (pending id (List.mem_append_left _ member))
  have kept : ∀ id ∈ stage.back, id ∉ tally.resolved := by
    intro id member resolved
    have read : id ∈ stage.read := List.mem_append_left _ (progress.mem_treated resolved)
    exact StreamId.lt_irrefl id (behind id read id member)
  rw [progress.pending, progress.backlog, List.filter_append, List.filter_append]
  have none : (stage.read.filter fun id => id ∉ tally.resolved).filter
      (fun id => stage.cursor.successor ≤ id) = [] := by
    refine List.filter_eq_nil_iff.mpr fun id member reached => ?_
    have less := (StreamId.successor_le_iff below).mp (of_decide_eq_true reached)
    exact StreamId.not_le.mpr less (atMost id (List.mem_filter.mp member).1)
  have all : (stage.back.filter fun id => id ∉ tally.resolved).filter
      (fun id => stage.cursor.successor ≤ id) = stage.back := by
    rw [List.filter_eq_self.mpr fun id member => decide_eq_true (kept id member)]
    exact List.filter_eq_self.mpr fun id member =>
      decide_eq_true ((StreamId.successor_le_iff below).mpr (ahead id member))
  rw [none, all]
  rfl

/-- A read answers the first of the ids that were not read, with tombstones for those whose entry is
not there, and changes none of this. -/
theorem of_read {service : Streams.Service}
    (progress : Progress settings spec start tally service.store stage) (startWhole : start.Whole)
    (filled : start.Filled) {batch : List Record}
    (answer : (service.readGroup spec.stream spec.group spec.consumer (.pendingAfter stage.cursor)
      settings.readCount).1 = .ok batch) :
    batch.map Record.id = stage.back.take settings.readCount ∧
      (∀ record ∈ batch,
        record.stream = spec.stream ∧ record.isTombstone = !start.holds spec record.id) ∧
      Resolves spec [] service.store (service.readGroup spec.stream spec.group spec.consumer
        (.pendingAfter stage.cursor) settings.readCount).2.store := by
  rcases service.readGroup_cases spec.stream spec.group spec.consumer
    (.pendingAfter stage.cursor) settings.readCount with
    ⟨error, failed, _⟩ | ⟨content, held, working, present, member, answered, made⟩
  · rw [answer] at failed
    cases failed
  · obtain rfl := Except.ok.inj (answer.symm.trans answered)
    have listed : service.store.backlog spec = held.idsOf spec.consumer :=
      Store.pendingOf_eq ((Store.group?_eq present spec.group).trans member) spec.consumer
    have ids := content.map_readRecords spec.stream spec.consumer stage.cursor settings.readCount
      held
    obtain ⟨pending, entries⟩ := Store.readGroup_pending working progress.whole.sound present member
      spec.consumer stage.cursor settings.readCount
    refine ⟨?_, fun record among => ?_, ?_⟩
    · rw [ids, ← listed, progress.behind_cursor startWhole]
    · obtain ⟨stream, fields⟩ := Content.of_mem_readRecords among
      have waiting : record.id ∈ service.store.backlog spec := by
        have read := @List.mem_map_of_mem _ _ _ _ Record.id among
        rw [ids] at read
        rw [listed]
        exact (List.mem_filter.mp (List.mem_of_mem_take read)).1
      have same := progress.entries record.id waiting
      rw [Store.fieldsAt?, present, Option.bind_some] at same
      refine ⟨stream, ?_⟩
      rw [Record.isTombstone, fields, same, Store.isEmpty_fieldsAt? filled]
      rfl
    · rw [made]
      refine ⟨@Store.Whole.perform _ progress.whole (.readGroup spec.stream spec.group
        spec.consumer (.pendingAfter stage.cursor) settings.readCount) ?_, ?_, entries⟩
      · exact StoreCall.answer_ne_greatest (fun _ impossible => by cases impossible) _
      · exact pending.trans
          (List.filter_eq_self.mpr fun _ _ => decide_eq_true List.not_mem_nil).symm

/-- A batch is read. -/
theorem receive (progress : Progress settings spec start tally store stage)
    (taken : stage.left = []) (unset : stage.tombstones = [])
    {batch : List Record} (nonempty : batch ≠ [])
    (ids : batch.map Record.id = stage.back.take settings.readCount)
    (records : ∀ record ∈ batch,
      record.stream = spec.stream ∧ record.isTombstone = !start.holds spec record.id)
    {after : Store} (resolves : Resolves spec [] store after) :
    Progress settings spec start { tally with reads := tally.reads ++ [batch] } after
      ⟨stage.treated, batch, [], stage.back.drop settings.readCount⟩ := by
  have before : stage.read = stage.treated := by
    rw [Stage.read, taken]
    exact List.append_nil _
  have size : batch.length = min settings.readCount stage.back.length := by
    rw [← List.length_map Record.id, ids, List.length_take]
  have positive : 0 < batch.length := List.length_pos_iff.mpr nonempty
  have most := progress.most
  have few := progress.few
  have left : stage.back ≠ [] := by
    intro none
    rw [none, List.length_nil, Nat.min_zero] at size
    omega
  have full := progress.full left
  have length : (Stage.read ⟨stage.treated, batch, [], stage.back.drop settings.readCount⟩).length =
      stage.read.length + batch.length := by
    rw [before, Stage.read, List.length_append, List.length_map]
  have reads : (tally.reads ++ [batch]).length * settings.readCount =
      tally.reads.length * settings.readCount + settings.readCount := by
    rw [List.length_append]
    exact Nat.succ_mul _ _
  have pending := resolves.pending_of_nil
  refine ⟨resolves.whole, ?_, records, progress.outcomes, ?_, ?_, ?_, ?_, ?_, fun unread => ?_,
    pending.trans progress.pending, fun id member => ?_⟩
  · rw [progress.backlog, before, Stage.read, ids, List.append_assoc, List.take_append_drop]
  · rw [← progress.swept, unset]
  · rw [List.flatten_concat, List.map_append, progress.reads, before]
    rfl
  · rw [List.mem_append, List.mem_singleton]
    exact fun member => member.elim progress.filled fun same => nonempty same.symm
  · rw [reads, length]
    omega
  · rw [reads, length]
    omega
  · rw [reads, length]
    have longer : 0 < (stage.back.drop settings.readCount).length := List.length_pos_iff.mpr unread
    rw [List.length_drop] at longer
    omega
  · exact (resolves.entries id).trans (progress.entries id (pending ▸ member))

/-- An empty read ends a replay. -/
theorem complete (progress : Progress settings spec start tally store stage)
    (startWhole : start.Whole) (taken : stage.left = []) (unset : stage.tombstones = [])
    (none : stage.back = []) {after : Store} (resolves : Resolves spec [] store after) :
    Replayed settings spec start { tally with reads := tally.reads ++ [[]] } after := by
  have all : start.backlog spec = stage.treated := by
    rw [progress.backlog, none, List.append_nil, Stage.read, taken]
    exact List.append_nil _
  have read : stage.read = start.backlog spec := by
    rw [progress.backlog, none, List.append_nil]
  have ascending := Store.ascending_pendingOf startWhole.sound spec.stream spec.group spec.consumer
  have outcomes := progress.outcomes
  have swept := progress.swept
  rw [← all] at outcomes swept
  rw [unset, List.append_nil] at swept
  refine ⟨ascending, ⟨tally.reads, rfl, progress.filled, ?_, progress.reads.trans read⟩, outcomes,
    swept, ?_⟩
  · have most := progress.most
    have few := progress.few
    rw [read] at most few
    refine (Nat.div_eq_of_lt_le ?_ ?_).symm
    · omega
    · rw [Nat.succ_mul]
      omega
  · rw [resolves.pending_of_nil, progress.pending]
    exact filter_resolved ascending outcomes swept

end Progress

end AccessFeed
