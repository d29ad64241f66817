/-
This file proves that a cleanup has nothing left to do when it is run again.

A part of a run is idle when it finds nothing to do: nothing is pending in its
group, its stream has no entries up to the cutoff but spared ones, the archive
has no rows from before the threshold. A run whose parts are all idle changes
nothing and reports nothing. A run whose batches hold all there is to do leaves
its parts idle, for what one part has done no other undoes: the turn of a set
empties its group, and nothing is delivered to a group meanwhile; a deletion
leaves what it spares, and nothing is added up to the cutoff after it.
-/

import AccessFeed.Proofs.CleanupReports
import AccessFeed.Proofs.DeadLetters

namespace AccessFeed

open Streams (Content IdMap PendingEntry StoreCall StreamId)

/-! ### Rows -/

/-- A removal that finds no row from before the threshold changes nothing. -/
theorem Archive.EventRows.removeBefore_of_none {rows : Archive.EventRows}
    {threshold : Calendar.Instant}
    (none : ∀ row ∈ rows.listed, row.2.isKeptAfter threshold = true) :
    rows.removeBefore threshold = (0, rows) := by
  cases rows with
  | table held =>
    have kept : held.rows.keep (fun kept => kept.isKeptAfter threshold) = held.rows :=
      congrArg Table.mk (List.filter_eq_self.mpr none)
    rw [removeBefore, EventTable.removeBefore]
    dsimp only
    rw [kept, Nat.sub_self]
  | tree held =>
    have expired : held.rows.filter (fun row => !row.2.isKeptAfter threshold) = [] :=
      List.filter_eq_nil_iff.mpr fun row member => by simp [none row member]
    rw [removeBefore, EventTree.removeBefore]
    dsimp only
    rw [expired]
    simp

/-- What a removal leaves is not from before the threshold. -/
theorem Archive.EventRows.isKeptAfter_of_mem_removeBefore {rows : Archive.EventRows}
    {threshold : Calendar.Instant} {row : String × Archive.KeptEvent}
    (left : row ∈ (rows.removeBefore threshold).2.listed) :
    row.2.isKeptAfter threshold = true := by
  cases rows with
  | table held => exact (List.mem_filter.mp left).2
  | tree held =>
    obtain ⟨among, unlisted⟩ := List.mem_filter.mp left
    by_contra expired
    have listed : row.1 ∈ (held.rows.filter fun row => !row.2.isKeptAfter threshold).map
        Prod.fst := List.mem_map_of_mem (List.mem_filter.mpr ⟨among, by simp [expired]⟩)
    rw [List.contains_iff_mem.mpr listed] at unlisted
    cases unlisted

theorem Archive.deleteBefore_of_answers {archive : Archive}
    (answers : archive.Answers .deleteBefore) (threshold : Calendar.Instant) :
    archive.deleteBefore threshold = (.ok (archive.events.removeBefore threshold).1,
      { archive with events := (archive.events.removeBefore threshold).2 }) := by
  have still (events : EventRows) : Archive.Answers { archive with events } .deleteBefore := answers
  rw [deleteBefore, call_of_answers answers]
  exact flush_of_answers (still _) _ _

/-- A second removal finds no row from before the threshold. -/
theorem Archive.deleteBefore_deleteBefore {archive : Archive}
    (answers : archive.Answers .deleteBefore) (threshold : Calendar.Instant) :
    (archive.deleteBefore threshold).2.deleteBefore threshold =
      (.ok 0, (archive.deleteBefore threshold).2) := by
  have still : (archive.deleteBefore threshold).2.Answers .deleteBefore := by
    rw [deleteBefore_of_answers answers]
    exact answers
  rw [deleteBefore_of_answers still, deleteBefore_of_answers answers]
  dsimp only
  rw [EventRows.removeBefore_of_none fun _ => EventRows.isKeptAfter_of_mem_removeBefore]

/-! ### Streams with few entries -/

namespace Streams

/-- A map has no more entries up to an id than one that has theirs. -/
theorem IdMap.Ascending.length_upTo_le {Value : Type} {map other : IdMap Value}
    (ascending : map.Ascending) {cutoff : StreamId}
    (there : ∀ id ∈ map.ids, id ≤ cutoff → id ∈ other.ids) :
    (map.upTo cutoff).length ≤ (other.upTo cutoff).length := by
  have distinct : ((map.upTo cutoff).map Prod.fst).Nodup :=
    (List.pairwise_map.mpr (List.Pairwise.filter _ ascending)).imp StreamId.ne_of_lt
  have within : (map.upTo cutoff).map Prod.fst ⊆ (other.upTo cutoff).map Prod.fst := by
    intro id listed
    obtain ⟨entry, early, rfl⟩ := List.mem_map.mp listed
    obtain ⟨among, low⟩ := List.mem_filter.mp early
    obtain ⟨found, member, same⟩ := List.mem_map.mp
      (there entry.1 (List.mem_map_of_mem among) (of_decide_eq_true low))
    exact List.mem_map.mpr ⟨found, List.mem_filter.mpr ⟨member, same ▸ low⟩, same⟩
  simpa using (List.subperm_of_subset distinct within).length_le

/-- Whether a group of a stream is there, with at most some number of pending entries. -/
def Few (group : String) (number : Nat) (held : Option Content) : Prop :=
  ∃ found, (held.bind fun content => content.groups.get? group) = some found ∧
    found.pending.size ≤ number

/-- An acknowledgement leaves a group there, and no more pending in it. -/
theorem Few.acknowledge {stream group : String} {number : Nat} {held : Option Content}
    (few : Few group number held) (ids : List StreamId) :
    Few group number ((StoreCall.acknowledge stream group ids).effect held) := by
  obtain ⟨found, own, small⟩ := few
  obtain ⟨content, rfl, member⟩ := Option.bind_eq_some_iff.mp own
  refine ⟨{ found with pending := (found.pending.eraseAll ids).2 }, ?_, ?_⟩
  · rw [StoreCall.effect, Option.map_some, StoreCall.changeGroup_of_some member]
    exact Table.get?_set_self _ _ _
  · refine Nat.le_trans ?_ small
    rw [IdMap.size, IdMap.entries_eraseAll]
    exact List.length_filter_le _ _

end Streams

open Streams (Few)

namespace Retention.Cleaner

open Calendar (Instant)
open Settings (ConsumerSet)

variable {cleaner : Cleaner} {threshold : Instant} {pipeline : Pipeline}

/-- Nothing that a cleanup does adds to what is pending in a group. -/
theorem few_effect {call : StoreCall} (made : cleaner.CleanupCall call) {stream group : String}
    (named : call.target? = some stream) {number : Nat} {held : Option Content}
    (few : Few group number held) : Few group number (call.effect held) := by
  by_cases concerns : call.Concerns stream group
  · cases made with
    | delete => exact concerns.elim
    | copy copies =>
      cases copies with
      | range | pending | append => exact concerns.elim
      | acknowledge target asked ids =>
        obtain ⟨rfl, rfl⟩ := concerns
        exact few.acknowledge ids
  · obtain ⟨found, own, small⟩ := few
    exact ⟨found, (call.group_effect held named concerns).trans own, small⟩

theorem few_of_leads {before after : Pipeline} (leads : Leads cleaner.CleanupCall before after)
    {stream group : String} {number : Nat}
    (few : Few group number (before.service.store.content? stream)) :
    Few group number (after.service.store.content? stream) :=
  leads.holds (Few group number) (fun _ made named _ => few_effect made named) few

/-! ### Runs that find nothing to do -/

/-- Whether a part of a run finds nothing to do. -/
def Idle (cleaner : Cleaner) (threshold : Instant) (pipeline : Pipeline) : Part → Prop
  | .pending set => Few set.group 0 (pipeline.service.store.content? set.stream)
  | .expired stream => (pipeline.upTo stream (.cutoff threshold)).length ≤ 1
  | .letters stream =>
    (pipeline.upTo (cleaner.settings.deadLetterStream stream) (.cutoff threshold)).length ≤ 0
  | .purge => pipeline.archive.deleteBefore threshold = (.ok 0, pipeline.archive)

theorem Idle.of_same {before after : Pipeline} {part : Part}
    (idle : cleaner.Idle threshold before part) (service : after.service = before.service)
    (archive : after.archive = before.archive) : cleaner.Idle threshold after part := by
  cases part with
  | pending | expired | letters =>
    simp only [Idle, Pipeline.upTo, service] at idle ⊢
    exact idle
  | purge =>
    rw [Idle, ← archive] at idle
    exact idle

theorem acknowledgePending_of_idle (working : pipeline.service.Working) {set : ConsumerSet}
    (idle : Few set.group 0 (pipeline.service.store.content? set.stream)) :
    cleaner.acknowledgePending set pipeline = (.ok {}, pipeline) := by
  obtain ⟨held, member, none⟩ := idle
  have listed : held.listed cleaner.settings.pendingBatch = [] := by
    rw [Streams.Group.listed, List.length_eq_zero_iff.mp (Nat.le_zero.mp none), List.take_nil,
      List.map_nil]
  rw [acknowledgePending]
  dsimp only
  rw [ask_pending_of_answers working.2 (Streams.Service.answers_of_working working _ _) member,
    listed]
  exact ite_self _

/-- A part that finds nothing to do reports nothing and changes nothing. -/
theorem take_of_idle (working : pipeline.service.Working) {part : Part} (other : part ≠ .purge)
    (idle : cleaner.Idle threshold pipeline part) :
    cleaner.take threshold pipeline part = (.ok {}, pipeline) := by
  cases part with
  | pending set => rw [take, acknowledgePending_of_idle working idle]; rfl
  | expired stream => rw [take, removeExpired, cleaner.deleteUpTo_of_few working idle]; rfl
  | letters stream => rw [take, removeDeadLetters, cleaner.deleteUpTo_of_few working idle]; rfl
  | purge => exact absurd rfl other

theorem runParts_of_idle {state : CleanupReport × Pipeline} (working : state.2.service.Working)
    {parts : List Part} (early : .purge ∉ parts)
    (idle : ∀ part ∈ parts, cleaner.Idle threshold state.2 part) :
    cleaner.runParts threshold parts state = state := by
  induction parts with
  | nil => rfl
  | cons part rest inductionHypothesis =>
    obtain ⟨other, later⟩ := List.ne_and_not_mem_of_not_mem_cons early
    obtain ⟨own, others⟩ := List.forall_mem_cons.mp idle
    rw [runParts_cons, take_of_idle working other.symm own]
    exact inductionHypothesis later others

/-- A run whose parts all find nothing to do reports nothing and changes nothing but the counts. -/
theorem runFor_of_idle (working : pipeline.service.Working)
    (idle : ∀ part ∈ cleaner.parts, cleaner.Idle threshold pipeline part) :
    cleaner.runFor threshold pipeline = ({}, pipeline.count .cleanupRowsDeleted 0) := by
  have streams := @runParts_of_idle cleaner threshold ({}, pipeline) working _
    cleaner.purge_not_mem_streamParts fun part member => idle part (List.mem_append_left _ member)
  have rows : pipeline.archive.deleteBefore threshold = (.ok 0, pipeline.archive) :=
    idle .purge (List.mem_append_right _ (List.mem_singleton.mpr rfl))
  rw [runFor_eq, parts, runParts_append, streams, runParts_cons, take, purge, Pipeline.look, rows]
  rfl

/-! ### Parts that delete -/

/-- Whether no call fails and all streams are in order. -/
structure Fit (pipeline : Pipeline) : Prop where
  working : pipeline.service.Working
  ascending : ∀ stream,
    ((pipeline.service.store.content? stream).getD .empty).entries.Ascending

theorem Fit.of_leads {before after : Pipeline} (fit : Fit before)
    (leads : Leads cleaner.CleanupCall before after) : Fit after where
  working := working_of_leads leads fit.working
  ascending := fun stream => leads.holds (fun held => (held.getD .empty).entries.Ascending)
    (fun call _ _ _ ascending => call.ascending_effect ascending) (fit.ascending stream)

theorem Fit.upTo_deleteUpTo (fit : Fit pipeline) (spared : Nat) (stream : String)
    (cutoff : StreamId) (other : String) :
    (cleaner.deleteUpTo spared stream cutoff pipeline).2.upTo other cutoff =
      if other = stream then
        (pipeline.upTo stream cutoff).take spared ++
          (pipeline.upTo stream cutoff).drop (max spared cleaner.settings.deleteBatch)
      else pipeline.upTo other cutoff := by
  have deleted := cleaner.deleteUpTo_of_working fit.working (fit.ascending stream) spared cutoff
  have changed :
      (cleaner.deleteUpTo spared stream cutoff pipeline).2.service.store.content? other = _ :=
    deleted.2.2 other
  rw [Pipeline.upTo, changed, Pipeline.upTo, Pipeline.upTo]
  split
  · cases pipeline.service.store.content? stream with
    | none => simp [Content.empty, IdMap.upTo, IdMap.empty]
    | some content => exact content.entries.upTo_trim _ _ _
  · rfl

/-- The parts that delete, how many entries each spares, and the stream it deletes from. -/
inductive Deletion (cleaner : Cleaner) : Part → Nat → String → Prop
  | expired (stream : String) : Deletion cleaner (.expired stream) 1 stream
  | letters (stream : String) :
    Deletion cleaner (.letters stream) 0 (cleaner.settings.deadLetterStream stream)

/-- Writing the report is nothing to the stream service. -/
theorem service_settle {Value : Type} (message : String)
    (merge : CleanupReport → Value → CleanupReport) (report : CleanupReport)
    (answer : Except CleanupError Value × Pipeline) :
    (settle message merge report answer).2.service = answer.2.service := by
  obtain ⟨answer, after⟩ := answer
  cases answer <;> rfl

theorem Deletion.service_settle {part : Part} {spared : Nat} {stream : String}
    (deletion : cleaner.Deletion part spared stream) (report : CleanupReport) :
    (settle part.message .add report (cleaner.take threshold pipeline part)).2.service =
      (cleaner.deleteUpTo spared stream (.cutoff threshold) pipeline).2.service := by
  cases deletion with
  | expired => exact Cleaner.service_settle _ _ report _
  | letters => exact Cleaner.service_settle _ _ report _

/-- A part that deletes leaves, of a stream whose entries up to the cutoff fit a batch, the spared
ones of them, and adds no entry to any stream. -/
theorem Deletion.upTo_settle {part : Part} {spared : Nat} {stream : String}
    (deletion : cleaner.Deletion part spared stream) (fit : Fit pipeline) (threshold : Instant)
    (report : CleanupReport) :
    let after := (settle part.message .add report (cleaner.take threshold pipeline part)).2
    let cutoff := StreamId.cutoff threshold
    Fit after ∧
      (∀ other, (after.upTo other cutoff).length ≤ (pipeline.upTo other cutoff).length) ∧
      ((pipeline.upTo stream cutoff).length ≤ cleaner.settings.deleteBatch →
        (after.upTo stream cutoff).length ≤ spared) := by
  intro after cutoff
  have service : after.service = (cleaner.deleteUpTo spared stream cutoff pipeline).2.service :=
    deletion.service_settle report
  have left (other : String) : after.upTo other cutoff =
      if other = stream then
        (pipeline.upTo stream cutoff).take spared ++
          (pipeline.upTo stream cutoff).drop (max spared cleaner.settings.deleteBatch)
      else pipeline.upTo other cutoff := by
    rw [Pipeline.upTo, service]
    exact fit.upTo_deleteUpTo spared stream cutoff other
  refine ⟨fit.of_leads ((cleaner.leads_deleteUpTo spared stream cutoff pipeline).trans
    (.of_service service)), fun other => ?_, fun within => ?_⟩
  · rw [left]
    split
    · rename_i own
      rw [own, List.length_append, List.length_take, List.length_drop]
      omega
    · exact Nat.le_refl _
  · rw [left, if_pos rfl, List.drop_eq_nil_of_le (within.trans (Nat.le_max_right _ _)),
      List.append_nil]
    exact List.length_take_le _ _

/-- Parts that delete add no entries, and each whose batch holds all entries up to the cutoff leaves
the spared ones. -/
theorem upTo_runParts {parts : List Part}
    (deletions : ∀ part ∈ parts, ∃ spared stream, cleaner.Deletion part spared stream)
    {state : CleanupReport × Pipeline} (fit : Fit state.2) :
    let after := (cleaner.runParts threshold parts state).2
    let cutoff := StreamId.cutoff threshold
    (∀ stream, (after.upTo stream cutoff).length ≤ (state.2.upTo stream cutoff).length) ∧
      ∀ part ∈ parts, ∀ spared stream, cleaner.Deletion part spared stream →
        (state.2.upTo stream cutoff).length ≤ cleaner.settings.deleteBatch →
          (after.upTo stream cutoff).length ≤ spared := by
  induction parts generalizing state with
  | nil => exact ⟨fun _ => Nat.le_refl _, fun _ never => absurd never List.not_mem_nil⟩
  | cons part rest inductionHypothesis =>
    obtain ⟨⟨spared, stream, deletion⟩, others⟩ := List.forall_mem_cons.mp deletions
    rw [runParts_cons]
    obtain ⟨still, fewer, -⟩ := deletion.upTo_settle fit threshold state.1
    obtain ⟨later, rests⟩ := inductionHypothesis others still
    refine ⟨fun stream => (later stream).trans (fewer stream), List.forall_mem_cons.mpr ⟨?_, ?_⟩⟩
    · intro spared stream own within
      exact (later stream).trans ((own.upTo_settle fit threshold state.1).2.2 within)
    · intro other member spared stream own within
      exact rests other member spared stream own ((fewer stream).trans within)

/-! ### The turns of the consumer sets -/

/-- Whether no call fails from one moment on, nor any group was changed up to another. -/
structure Undisturbed (before after : Pipeline) : Prop where
  working : after.service.Working
  groups : ∀ stream group,
    after.service.store.group? stream group = before.service.store.group? stream group

theorem Undisturbed.trans {first second third : Pipeline} (left : Undisturbed first second)
    (right : Undisturbed second third) : Undisturbed first third where
  working := right.working
  groups := fun stream group => (right.groups stream group).trans (left.groups stream group)

/-- Where no call fails, no copy fails, and it changes no group. -/
theorem deadLetter_of_working (working : pipeline.service.Working) (stream group : String)
    (entry : PendingEntry) :
    Undisturbed pipeline (cleaner.deadLetter stream group entry pipeline).2 ∧
      ∃ there, (cleaner.deadLetter stream group entry pipeline).1 = .ok there := by
  rw [deadLetter, Pipeline.ask, Streams.Service.range_of_working working]
  dsimp only
  cases pipeline.service.store.listed stream entry.id entry.id 1 with
  | nil => exact ⟨⟨working, fun _ _ => rfl⟩, false, rfl⟩
  | cons record rest =>
    obtain ⟨⟨id, appended⟩, still, groups⟩ := Streams.Service.append_of_working working
      pipeline.wallMillis (cleaner.settings.deadLetterStream stream)
      (deadLetterFields record group entry pipeline.wall)
    dsimp only [Pipeline.ask, Pipeline.wallMillis] at appended still groups ⊢
    generalize pipeline.service.append _ _ _ = made at appended still groups ⊢
    obtain ⟨answer, after⟩ := made
    obtain rfl : answer = .ok id := appended
    exact ⟨⟨still, groups⟩, true, rfl⟩

/-- Where no call fails, all entries can be acknowledged, and no group was changed so far. -/
theorem deadLetterAll_of_working (working : pipeline.service.Working) (stream group : String)
    (entries : List PendingEntry) :
    Undisturbed pipeline (cleaner.deadLetterAll stream group entries pipeline).2 ∧
      (cleaner.deadLetterAll stream group entries pipeline).1.1 =
        entries.map PendingEntry.id := by
  induction entries generalizing pipeline with
  | nil => exact ⟨⟨working, fun _ _ => rfl⟩, rfl⟩
  | cons entry rest inductionHypothesis =>
    obtain ⟨one, there, made⟩ := cleaner.deadLetter_of_working working stream group entry
    rw [deadLetterAll]
    generalize cleaner.deadLetter stream group entry pipeline = answer at made one ⊢
    obtain ⟨answer, after⟩ := answer
    obtain rfl : answer = .ok there := made
    obtain ⟨others, released⟩ := inductionHypothesis one.working
    exact ⟨one.trans others, congrArg (List.cons entry.id) released⟩

/-- Where no call fails, the turn of a set whose batch holds all that is pending in its group leaves
nothing pending there. -/
theorem idle_acknowledgePending (working : pipeline.service.Working)
    (forced : cleaner.settings.ackStalePending = true)
    (enabled : cleaner.settings.deadLetterEnabled = true) (set : ConsumerSet)
    (few : Few set.group cleaner.settings.pendingBatch
      (pipeline.service.store.content? set.stream)) :
    Few set.group 0
      ((cleaner.acknowledgePending set pipeline).2.service.store.content? set.stream) := by
  obtain ⟨held, member, small⟩ := few
  have asked := ask_pending_of_answers working.2
    (Streams.Service.answers_of_working working .pending set.stream) member
    cleaner.settings.pendingBatch
  obtain ⟨undisturbed, released⟩ := cleaner.deadLetterAll_of_working working set.stream set.group
    (held.listed cleaner.settings.pendingBatch)
  have still := (undisturbed.groups set.stream set.group).trans member
  have releases := (releases_forceAcknowledge undisturbed.working.2
    (Streams.Service.answers_of_working undisturbed.working .acknowledge set.stream) still
    (cleaner.deadLetterAll set.stream set.group (held.listed cleaner.settings.pendingBatch)
      pipeline).1.1).2
  have left := (releases.of_service (acknowledgePending_of_listed forced enabled asked).2).released
  rw [released, ids_listed_group,
    List.take_of_length_le (by rwa [IdMap.ids, List.length_map]), still, Option.map_some] at left
  refine ⟨_, left, ?_⟩
  rw [IdMap.size, List.filter_eq_nil_iff.mpr fun entry listed => ?_]
  · exact Nat.le_refl 0
  · have among : entry.1 ∈ held.pending.ids := List.mem_map_of_mem listed
    simpa using among

/-- Where no call fails, the turns of consumer sets leave nothing pending in the groups whose
pending entries fit a batch. -/
theorem few_runPending (forced : cleaner.settings.ackStalePending = true)
    (enabled : cleaner.settings.deadLetterEnabled = true) {sets : List ConsumerSet}
    (subset : ∀ set ∈ sets, set ∈ cleaner.consumers) {state : CleanupReport × Pipeline}
    (working : state.2.service.Working) {set : ConsumerSet} (member : set ∈ sets)
    (few : Few set.group cleaner.settings.pendingBatch
      (state.2.service.store.content? set.stream)) :
    Few set.group 0
      ((cleaner.runPending sets state).2.service.store.content? set.stream) := by
  induction sets generalizing state with
  | nil => exact absurd member List.not_mem_nil
  | cons first rest inductionHypothesis =>
    obtain ⟨own, others⟩ := List.forall_mem_cons.mp subset
    obtain ⟨report, pipeline⟩ := state
    have emptied := idle_acknowledgePending working forced enabled first
    have turn := (cleaner.leads_acknowledgePending own pipeline).mono fun _ => CleanupCall.copy
    rw [runPending]
    generalize cleaner.acknowledgePending first pipeline = answer at emptied turn ⊢
    have settled := leads_settle "Pending entry cleanup failed"
      (fun report (done : PendingCleanup) => { report with
        pendingAcknowledged := report.pendingAcknowledged + done.acknowledged
        deadLettered := report.deadLettered + done.deadLettered })
      report (.of_service rfl : Leads cleaner.CleanupCall answer.2 answer.2)
    generalize settle "Pending entry cleanup failed" _ report answer = next at settled ⊢
    -- Several sets may read one group: the turn of the first empties it, and it stays empty.
    rcases List.mem_cons.mp member with rfl | listed
    · have later := (leads_runPending others next).mono fun _ => CleanupCall.copy
      exact few_of_leads (settled.trans later) (emptied few)
    · have reached := turn.trans settled
      exact inductionHypothesis others (working_of_leads reached working) listed
        (few_of_leads reached few)

/-- Whether the letters that a run writes are behind a cutoff: of those that are there when the
consumer sets have been treated, all that were not there before. -/
def WritesBehind (cleaner : Cleaner) (pipeline : Pipeline) (cutoff : StreamId) : Prop :=
  ∀ stream ∈ cleaner.streams,
    ∀ id ∈ (cleaner.letters (cleaner.afterSets pipeline cleaner.consumers) stream).entries.ids,
      id ∈ (cleaner.letters pipeline stream).entries.ids ∨ cutoff < id

/-- The consumer sets add no entry up to the cutoff to a stream or to its dead letters. -/
theorem upTo_afterSets (apart : ∀ stream ∈ cleaner.streams, stream ∉ cleaner.letterStreams)
    (fit : Fit pipeline) {cutoff : StreamId} (behind : cleaner.WritesBehind pipeline cutoff)
    {stream : String} (member : stream ∈ cleaner.streams ++ cleaner.letterStreams) :
    ((cleaner.afterSets pipeline cleaner.consumers).upTo stream cutoff).length ≤
      (pipeline.upTo stream cutoff).length := by
  rcases List.mem_append.mp member with own | letters
  · rw [Pipeline.upTo, entries_afterSets (fun _ source listed same => ?_), Pipeline.upTo]
    exact apart stream own (same ▸ List.mem_map_of_mem (mem_streams.mpr ⟨source, listed, rfl⟩))
  · obtain ⟨source, listed, rfl⟩ := List.mem_map.mp letters
    have swept := fit.of_leads ((cleaner.leads_afterSets pipeline).mono fun _ => CleanupCall.copy)
    refine (swept.ascending _).length_upTo_le fun id present low => ?_
    exact (behind source listed id present).resolve_right (StreamId.not_lt.mpr low)

/-! ### Two runs in a row -/

/-- Whether the batches of a cleanup hold all that a run finds to do. -/
structure Covers (cleaner : Cleaner) (pipeline : Pipeline) (cutoff : StreamId) : Prop where
  groups : ∀ set ∈ cleaner.consumers, ∃ held,
    pipeline.service.store.group? set.stream set.group = some held ∧
      held.pending.size ≤ cleaner.settings.pendingBatch
  streams : ∀ stream ∈ cleaner.streams ++ cleaner.letterStreams,
    (pipeline.upTo stream cutoff).length ≤ cleaner.settings.deleteBatch

theorem mem_parts (enabled : cleaner.settings.deadLetterEnabled = true) {part : Part} :
    part ∈ cleaner.parts ↔ (∃ set ∈ cleaner.consumers, part = .pending set) ∨
      (∃ stream ∈ cleaner.streams, part = .expired stream ∨ part = .letters stream) ∨
        part = .purge := by
  rw [parts, streamParts, if_pos enabled]
  simp only [List.mem_append, List.mem_map, List.mem_singleton]
  constructor
  · rintro (((⟨set, member, rfl⟩ | ⟨stream, member, rfl⟩) | ⟨stream, member, rfl⟩) | rfl)
    · exact .inl ⟨set, member, rfl⟩
    · exact .inr (.inl ⟨stream, member, .inl rfl⟩)
    · exact .inr (.inl ⟨stream, member, .inr rfl⟩)
    · exact .inr (.inr rfl)
  · rintro (⟨set, member, rfl⟩ | ⟨stream, member, rfl | rfl⟩ | rfl)
    · exact .inl (.inl (.inl ⟨set, member, rfl⟩))
    · exact .inl (.inl (.inr ⟨stream, member, rfl⟩))
    · exact .inl (.inr ⟨stream, member, rfl⟩)
    · exact .inr rfl

theorem service_runFor (enabled : cleaner.settings.deadLetterEnabled = true) :
    (cleaner.runFor threshold pipeline).2.service =
      (cleaner.afterLetters threshold pipeline cleaner.streams).service := by
  have purged (state : CleanupReport × Pipeline) :
      (runPurge threshold state).2.service = state.2.service := by
    rw [runPurge, purge, Pipeline.look]
    generalize state.2.archive.deleteBefore threshold = answer
    obtain ⟨answer, archive⟩ := answer
    cases answer <;> rfl
  rw [runFor, purged, if_pos enabled]
  rfl

/-- Of a stream whose entries up to the cutoff fit a batch when the consumer sets have been treated,
the part that deletes from it leaves the spared ones. -/
theorem upTo_afterLetters (swept : Fit (cleaner.afterSets pipeline cleaner.consumers))
    {part : Part} (member : part ∈ cleaner.streams.map .expired ++ cleaner.streams.map .letters)
    {spared : Nat} {stream : String} (deletion : cleaner.Deletion part spared stream)
    (within : ((cleaner.afterSets pipeline cleaner.consumers).upTo stream
      (.cutoff threshold)).length ≤ cleaner.settings.deleteBatch) :
    ((cleaner.afterLetters threshold pipeline cleaner.streams).upTo stream
      (.cutoff threshold)).length ≤ spared := by
  rw [afterLetters, runExpired_eq, runDeadLetters_eq, ← runParts_append]
  refine (upTo_runParts (fun part listed => ?_) swept).2 part member spared stream deletion within
  rcases List.mem_append.mp listed with expired | letters
  · obtain ⟨stream, _, rfl⟩ := List.mem_map.mp expired
    exact ⟨1, stream, .expired stream⟩
  · obtain ⟨stream, _, rfl⟩ := List.mem_map.mp letters
    exact ⟨0, _, .letters stream⟩

/-- Where no call fails and the batches hold all there is to do, a run leaves all its parts idle. -/
theorem idle_runFor (forced : cleaner.settings.ackStalePending = true)
    (enabled : cleaner.settings.deadLetterEnabled = true)
    (apart : ∀ stream ∈ cleaner.streams, stream ∉ cleaner.letterStreams) (fit : Fit pipeline)
    (answers : pipeline.archive.Answers .deleteBefore)
    (covers : cleaner.Covers pipeline (.cutoff threshold))
    (behind : cleaner.WritesBehind pipeline (.cutoff threshold)) {part : Part}
    (member : part ∈ cleaner.parts) :
    cleaner.Idle threshold (cleaner.runFor threshold pipeline).2 part := by
  have swept := fit.of_leads ((cleaner.leads_afterSets pipeline).mono fun _ => CleanupCall.copy)
  have within {stream : String} (listed : stream ∈ cleaner.streams ++ cleaner.letterStreams) :=
    (upTo_afterSets apart fit behind listed).trans (covers.streams stream listed)
  rcases (mem_parts enabled).mp member with
    ⟨set, own, rfl⟩ | ⟨stream, own, rfl | rfl⟩ | rfl
  · rw [Idle, service_runFor enabled]
    refine few_of_leads ((cleaner.leads_runExpired threshold cleaner.streams _).trans
      (cleaner.leads_runDeadLetters threshold cleaner.streams _)) ?_
    exact few_runPending forced enabled (fun _ member => member) fit.working own
      (covers.groups set own)
  · rw [Idle, Pipeline.upTo, service_runFor enabled]
    exact upTo_afterLetters swept (List.mem_append_left _ (List.mem_map_of_mem own))
      (.expired stream) (within (List.mem_append_left _ own))
  · rw [Idle, Pipeline.upTo, service_runFor enabled]
    exact upTo_afterLetters swept (List.mem_append_right _ (List.mem_map_of_mem own))
      (.letters stream) (within (List.mem_append_right _ (List.mem_map_of_mem own)))
  · rw [Idle, (cleaner.archive_runFor threshold pipeline).1]
    exact Archive.deleteBefore_deleteBefore answers threshold

/-- Where no call fails, a run whose batches hold all that there is to do leaves its parts idle, if
no stream is the dead-letter stream of another and the letters written are behind the cutoff: a
second run at the same time reports nothing and changes neither a stream nor a row. -/
theorem run_again {cleaner : Cleaner} {pipeline : Pipeline} {now threshold : Instant}
    (forced : cleaner.settings.ackStalePending = true)
    (enabled : cleaner.settings.deadLetterEnabled = true)
    (apart : ∀ stream ∈ cleaner.streams, stream ∉ cleaner.letterStreams)
    (limit : cleaner.threshold? now = some threshold) (fit : Fit pipeline)
    (answers : pipeline.archive.Answers .deleteBefore)
    (covers : cleaner.Covers pipeline (.cutoff threshold))
    (behind : cleaner.WritesBehind pipeline (.cutoff threshold)) :
    ∃ report first, cleaner.run? now pipeline = some (report, first) ∧
      (∀ part ∈ cleaner.parts, cleaner.Idle threshold first part) ∧
      ∀ again : Pipeline, again.service = first.service → again.archive = first.archive →
        ∃ second, cleaner.run? now again = some ({}, second) ∧
          second.service = first.service ∧ second.archive = first.archive := by
  have idle : ∀ part ∈ cleaner.parts,
      cleaner.Idle threshold (cleaner.runFor threshold pipeline).2 part :=
    fun _ member => idle_runFor forced enabled apart fit answers covers behind member
  refine ⟨_, _, by rw [run?, limit, Option.map_some], idle, fun again service archive => ?_⟩
  have still : ∀ part ∈ cleaner.parts, cleaner.Idle threshold again part :=
    fun part member => (idle part member).of_same service archive
  have swept := fit.of_leads (cleaner.leads_afterLetters threshold pipeline cleaner.streams)
  have working : again.service.Working := by
    rw [service, service_runFor enabled]
    exact swept.working
  refine ⟨again.count .cleanupRowsDeleted 0, ?_, service, archive⟩
  rw [run?, limit, Option.map_some, runFor_of_idle working still]

/-- A cleanup whose two consumer sets read one group, and whose batches hold all that is overdue. -/
def thorough : Cleaner where
  consumers := [⟨"orders", "audit", "worker", 1⟩, ⟨"orders", "audit", "helper", 1⟩]
  settings := { pendingBatch := 10, deleteBatch := 10 }

/-- The first run copies three pending entries and deletes three of four old ones, the second run
does nothing. -/
theorem run_again_overdue :
    thorough.settings.ackStalePending = true ∧ thorough.settings.deadLetterEnabled = true ∧
      (∀ stream ∈ thorough.streams, stream ∉ thorough.letterStreams) ∧
      thorough.threshold? ⟨8640000, 0⟩ = some ⟨3456000, 0⟩ ∧ Fit overdue ∧
      overdue.archive.Answers .deleteBefore ∧
      thorough.Covers overdue (.cutoff ⟨3456000, 0⟩) ∧
      thorough.WritesBehind overdue (.cutoff ⟨3456000, 0⟩) ∧
      ∃ report first, thorough.run? ⟨8640000, 0⟩ overdue = some (report, first) ∧
        report = { pendingAcknowledged := 3, deadLettered := 3, entriesDeleted := 3 } ∧
        ∃ second, thorough.run? ⟨8640000, 0⟩ first = some ({}, second) ∧
          second.service = first.service ∧ second.archive = first.archive := by
  have limit : thorough.threshold? ⟨8640000, 0⟩ = some ⟨3456000, 0⟩ := by decide
  have apart : ∀ stream ∈ thorough.streams, stream ∉ thorough.letterStreams := by decide
  have fit : Fit overdue :=
    ⟨⟨rfl, rfl⟩, fun stream => (Streams.orderly_after overdueCalls stream).ascending⟩
  have answers : overdue.archive.Answers .deleteBefore :=
    fun _ never => absurd never List.not_mem_nil
  have covers : thorough.Covers overdue (.cutoff ⟨3456000, 0⟩) := by
    have one : ∀ set ∈ thorough.consumers, set.stream = "orders" ∧ set.group = "audit" := by decide
    refine ⟨fun set member => ?_, by decide⟩
    rw [(one set member).1, (one set member).2]
    exact ⟨_, rfl, by decide⟩
  have places : (thorough.letters (thorough.afterSets overdue thorough.consumers)
      "orders").entries.ids = [⟨8640000000, 0⟩, ⟨8640000000, 1⟩, ⟨8640000000, 2⟩] := rfl
  have behind : thorough.WritesBehind overdue (.cutoff ⟨3456000, 0⟩) := by
    intro stream member id present
    obtain rfl : stream = "orders" := List.mem_singleton.mp member
    rw [places] at present
    refine Or.inr ?_
    revert id
    decide
  obtain ⟨report, first, ran, -, again⟩ := run_again rfl rfl apart limit fit answers covers behind
  have counted : (thorough.runFor ⟨3456000, 0⟩ overdue).1 =
      { pendingAcknowledged := 3, deadLettered := 3, entriesDeleted := 3 } := rfl
  refine ⟨rfl, rfl, apart, limit, fit, answers, covers, behind, report, first, ran, ?_,
    again first rfl rfl⟩
  rw [run?, limit, Option.map_some] at ran
  rw [← counted, Option.some.inj ran]

end Retention.Cleaner

end AccessFeed
