/-
This file tells which pending entries survive a cleanup.

The first part of a run copies pending entries, a batch of each group, and the
later parts delete old entries, a batch of each stream, without a look at what
is pending. An entry that is neither in the batch of its group nor spared is
therefore deleted without a copy, and so is one whose copy failed. The file
proves that this is the only way to lose an entry: after a run the entry is
there or was copied exactly if the run copied it or did not remove it.
-/

import AccessFeed.Proofs.Services
import AccessFeed.Retention.Cleanup

namespace AccessFeed

open Streams (Content Fields PendingEntry Record StoreError StreamId)

/-- The fields of an entry of a stream. -/
def Pipeline.fieldsAt? (pipeline : Pipeline) (stream : String) (id : StreamId) : Option Fields :=
  pipeline.service.store.fieldsAt? stream id

theorem Pipeline.of_ask {Value : Type} {pipeline reached : Pipeline}
    {request : Streams.Service → Streams.Reply Value} {answer : Except StoreError Value}
    (asked : pipeline.ask request = (answer, reached)) :
    (request pipeline.service).1 = answer ∧
      reached = { pipeline with service := (request pipeline.service).2 } := by
  obtain ⟨told, rfl⟩ := Prod.mk.inj asked
  exact ⟨told, rfl⟩

namespace Retention

open Calendar (Instant)
open Settings (ConsumerSet)

namespace Cleaner

/-! ### Moments of a run -/

/-- The pipeline when the first consumer sets have been treated. -/
def afterSets (cleaner : Cleaner) (pipeline : Pipeline) (done : List ConsumerSet) : Pipeline :=
  (cleaner.runPending done ({}, pipeline)).2

/-- The pipeline when all consumer sets and the first streams have been treated. -/
def afterStreams (cleaner : Cleaner) (threshold : Instant) (pipeline : Pipeline)
    (done : List String) : Pipeline :=
  (cleaner.runExpired threshold done (cleaner.runPending cleaner.consumers ({}, pipeline))).2

/-- The pipeline when all streams and the first dead-letter streams have been treated. -/
def afterLetters (cleaner : Cleaner) (threshold : Instant) (pipeline : Pipeline)
    (done : List String) : Pipeline :=
  (cleaner.runDeadLetters threshold done (cleaner.runExpired threshold cleaner.streams
    (cleaner.runPending cleaner.consumers ({}, pipeline)))).2

/-- The moments of a run at which a pending entry is to be copied: its consumer set has its turn,
and the entries listed before it have been treated. -/
inductive Copying (cleaner : Cleaner) (pipeline : Pipeline) :
    ConsumerSet → PendingEntry → Pipeline → Prop
  | intro {before after : List ConsumerSet} {set : ConsumerSet}
    {earlier later : List PendingEntry} {entry : PendingEntry} {reached : Pipeline}
    (turn : cleaner.consumers = before ++ set :: after)
    (listed : (cleaner.afterSets pipeline before).ask
      (fun service => service.pending set.stream set.group cleaner.settings.pendingBatch) =
        (.ok (earlier ++ entry :: later), reached)) :
    Copying cleaner pipeline set entry
      (cleaner.deadLetterAll set.stream set.group earlier reached).2

/-- Whether a run copies an entry of a stream. -/
def Copies (cleaner : Cleaner) (pipeline : Pipeline) (stream : String) (id : StreamId) : Prop :=
  ∃ set entry reached, cleaner.Copying pipeline set entry reached ∧ set.stream = stream ∧
    entry.id = id ∧ (cleaner.deadLetter set.stream set.group entry reached).1 = .ok true

/-- The content of the dead-letter stream of a stream. -/
def letters (cleaner : Cleaner) (pipeline : Pipeline) (stream : String) : Content :=
  (pipeline.service.store.content? (cleaner.settings.deadLetterStream stream)).getD .empty

/-- The id that the next dead letter of a stream is given. -/
def nextLetter (cleaner : Cleaner) (pipeline : Pipeline) (stream : String) : StreamId :=
  (cleaner.letters pipeline stream).nextId pipeline.wallMillis

/-- Whether all copies of a run are given ids behind a cutoff and behind the dead letters that are
there. -/
def CopiesAhead (cleaner : Cleaner) (pipeline : Pipeline) (cutoff : StreamId) : Prop :=
  ∀ set entry reached, cleaner.Copying pipeline set entry reached →
    (cleaner.deadLetter set.stream set.group entry reached).1 = .ok true →
      cutoff < cleaner.nextLetter reached set.stream ∧
        ∀ id ∈ (cleaner.letters reached set.stream).entries.ids,
          id < cleaner.nextLetter reached set.stream

/-- Whether an entry is deleted when those up to a cutoff are, the first ones being spared. -/
def Deletes (cleaner : Cleaner) (spared : Nat) (stream : String) (cutoff : StreamId)
    (pipeline : Pipeline) (id : StreamId) : Prop :=
  ∃ records read count left,
    pipeline.ask (fun service =>
      service.range stream .least cutoff cleaner.settings.deleteBatch) = (.ok records, read) ∧
    read.ask (fun service =>
      service.delete stream ((records.drop spared).map Record.id)) = (.ok count, left) ∧
    id ∈ (records.drop spared).map Record.id

/-- Whether a run removes an entry of a stream: as an expired one, or as an expired dead letter
when the stream holds those of another. -/
def Removes (cleaner : Cleaner) (threshold : Instant) (pipeline : Pipeline) (stream : String)
    (id : StreamId) : Prop :=
  (∃ before after, cleaner.streams = before ++ stream :: after ∧
    cleaner.Deletes 1 stream (.cutoff threshold)
      (cleaner.afterStreams threshold pipeline before) id) ∨
  ∃ before source after, cleaner.streams = before ++ source :: after ∧
    cleaner.settings.deadLetterStream source = stream ∧
    cleaner.Deletes 0 stream (.cutoff threshold)
      (cleaner.afterLetters threshold pipeline before) id

/-! ### One copy -/

theorem ofList_append (first second : List (String × String)) :
    Fields.ofList (first ++ second) =
      second.foldl (fun fields entry => fields.insert entry.1 entry.2) (Fields.ofList first) :=
  List.foldl_append

/-- A dead letter names the id of its source. -/
theorem sourceId_deadLetterFields (record : Record) (group : String) (entry : PendingEntry)
    (now : Instant) :
    (Fields.ofList (deadLetterFields record group entry now)).get? deadLetterNames.sourceId =
      some entry.id.display := by
  rw [deadLetterFields, ofList_append]
  simp only [List.foldl_cons, List.foldl_nil]
  rw [Fields.get?_insert_of_ne _ (by decide), Fields.get?_insert_of_ne _ (by decide),
    Fields.get?_insert_of_ne _ (by decide), Fields.get?_insert_of_ne _ (by decide),
    Fields.get?_insert_self]

/-- A copy is not made and changes no entry, or it adds a dead letter that names its source. -/
theorem deadLetter_cases (cleaner : Cleaner) (stream group : String) (entry : PendingEntry)
    (pipeline : Pipeline) :
    ((cleaner.deadLetter stream group entry pipeline).1 ≠ .ok true ∧
      ∀ other id, (cleaner.deadLetter stream group entry pipeline).2.fieldsAt? other id =
        pipeline.fieldsAt? other id) ∨
    ((cleaner.deadLetter stream group entry pipeline).1 = .ok true ∧
      ∃ letter, letter.get? deadLetterNames.sourceId = some entry.id.display ∧
        ∀ other id, (cleaner.deadLetter stream group entry pipeline).2.fieldsAt? other id =
          if other = cleaner.settings.deadLetterStream stream ∧
            id = cleaner.nextLetter pipeline stream then some letter
          else pipeline.fieldsAt? other id) := by
  rw [deadLetter, Pipeline.ask]
  obtain ⟨same, answers⟩ := pipeline.service.range_cases stream entry.id entry.id 1
  generalize pipeline.service.range stream entry.id entry.id 1 = read at same answers ⊢
  obtain ⟨answer, service⟩ := read
  cases answer with
  | error error => exact Or.inl ⟨by simp, fun other id => by rw [Pipeline.fieldsAt?, same]; rfl⟩
  | ok records =>
    cases records with
    | nil => exact Or.inl ⟨by simp, fun other id => by rw [Pipeline.fieldsAt?, same]; rfl⟩
    | cons record rest =>
      have appended := service.append_cases pipeline.wallMillis
        (cleaner.settings.deadLetterStream stream)
        (deadLetterFields record group entry pipeline.wall)
      dsimp only [Pipeline.ask, Pipeline.wallMillis] at appended ⊢
      generalize service.append _ _ _ = made at appended ⊢
      obtain ⟨answer, after⟩ := made
      dsimp only at same appended
      rw [same] at appended
      rcases appended with ⟨error, rfl, store⟩ | ⟨rfl, told⟩
      · refine Or.inl ⟨by simp, fun other id => ?_⟩
        show after.store.fieldsAt? other id = _
        rw [store]
        rfl
      · exact Or.inr ⟨rfl, _, sourceId_deadLetterFields record group entry pipeline.wall,
          Streams.Store.fieldsAt?_of_added told⟩

/-! ### The part for the consumer sets -/

/-- Whether between two moments entries were only added, each a dead letter of an entry that was
copied. -/
structure Grows (cleaner : Cleaner) (copied : String → StreamId → Prop)
    (before after : Pipeline) : Prop where
  kept : ∀ stream id fields, before.fieldsAt? stream id = some fields →
    after.fieldsAt? stream id = some fields
  new : ∀ stream id fields, after.fieldsAt? stream id = some fields →
    before.fieldsAt? stream id = some fields ∨
      ∃ source origin, copied source origin ∧
        stream = cleaner.settings.deadLetterStream source ∧
          fields.get? deadLetterNames.sourceId = some origin.display

namespace Grows

variable {cleaner : Cleaner} {copied : String → StreamId → Prop}
  {first second third : Pipeline}

theorem of_same (same : ∀ stream id, second.fieldsAt? stream id = first.fieldsAt? stream id) :
    cleaner.Grows copied first second where
  kept := fun stream id _ present => (same stream id).trans present
  new := fun stream id _ present => Or.inl ((same stream id).symm.trans present)

theorem trans (left : cleaner.Grows copied first second)
    (right : cleaner.Grows copied second third) : cleaner.Grows copied first third where
  kept := fun stream id fields present =>
    right.kept stream id fields (left.kept stream id fields present)
  new := by
    intro stream id fields present
    rcases right.new stream id fields present with earlier | made
    · exact left.new stream id fields earlier
    · exact Or.inr made

end Grows

theorem mem_letters (cleaner : Cleaner) {pipeline : Pipeline} {stream : String} {id : StreamId}
    {fields : Fields}
    (present : pipeline.fieldsAt? (cleaner.settings.deadLetterStream stream) id = some fields) :
    id ∈ (cleaner.letters pipeline stream).entries.ids := by
  rw [Pipeline.fieldsAt?, Streams.Store.fieldsAt?] at present
  obtain ⟨content, held, member⟩ := Option.bind_eq_some_iff.mp present
  rw [letters, held]
  exact Streams.IdMap.mem_ids_iff.mpr ⟨fields, member⟩

variable {cleaner : Cleaner} {pipeline : Pipeline} {cutoff : StreamId}

/-- A copy leaves the entries that are there, and what it adds is a dead letter. -/
theorem grows_deadLetter (ahead : cleaner.CopiesAhead pipeline cutoff) {set : ConsumerSet}
    {entry : PendingEntry} {reached : Pipeline}
    (copying : cleaner.Copying pipeline set entry reached) :
    cleaner.Grows (cleaner.Copies pipeline) reached
      (cleaner.deadLetter set.stream set.group entry reached).2 := by
  rcases cleaner.deadLetter_cases set.stream set.group entry reached with
    ⟨_, same⟩ | ⟨made, letter, names, told⟩
  · exact Grows.of_same same
  · have behind := (ahead set entry reached copying made).2
    refine ⟨fun stream id fields present => ?_, fun stream id fields present => ?_⟩
    · rw [told, if_neg]
      · exact present
      · rintro ⟨rfl, rfl⟩
        exact StreamId.lt_irrefl _ (behind _ (cleaner.mem_letters present))
    · rw [told] at present
      split at present
      · rename_i place
        obtain rfl := Option.some.inj present
        exact Or.inr ⟨set.stream, entry.id, ⟨set, entry, reached, copying, rfl, rfl, made⟩,
          place.1, names⟩
      · exact Or.inl present

theorem deadLetterAll_append (stream group : String) (first second : List PendingEntry)
    (pipeline : Pipeline) :
    (cleaner.deadLetterAll stream group (first ++ second) pipeline).2 =
      (cleaner.deadLetterAll stream group second
        (cleaner.deadLetterAll stream group first pipeline).2).2 := by
  induction first generalizing pipeline with
  | nil => rfl
  | cons entry rest inductionHypothesis =>
    rw [List.cons_append, deadLetterAll, deadLetterAll]
    generalize cleaner.deadLetter stream group entry pipeline = answer
    obtain ⟨answer, after⟩ := answer
    cases answer with
    | error error => exact inductionHypothesis _
    | ok copied => exact inductionHypothesis _

theorem fieldsAt?_deadLetterAll_singleton (stream group : String) (entry : PendingEntry)
    (pipeline : Pipeline) (other : String) (id : StreamId) :
    (cleaner.deadLetterAll stream group [entry] pipeline).2.fieldsAt? other id =
      (cleaner.deadLetter stream group entry pipeline).2.fieldsAt? other id := by
  rw [deadLetterAll]
  generalize cleaner.deadLetter stream group entry pipeline = answer
  obtain ⟨answer, after⟩ := answer
  cases answer <;> rfl

/-- Copying further entries of a turn only adds dead letters. -/
theorem grows_deadLetterAll (ahead : cleaner.CopiesAhead pipeline cutoff)
    {before after : List ConsumerSet} {set : ConsumerSet} {reached : Pipeline}
    (turn : cleaner.consumers = before ++ set :: after) (earlier middle later : List PendingEntry)
    (listed : (cleaner.afterSets pipeline before).ask
      (fun service => service.pending set.stream set.group cleaner.settings.pendingBatch) =
        (.ok (earlier ++ middle ++ later), reached)) :
    cleaner.Grows (cleaner.Copies pipeline)
      (cleaner.deadLetterAll set.stream set.group earlier reached).2
      (cleaner.deadLetterAll set.stream set.group (earlier ++ middle) reached).2 := by
  induction middle generalizing earlier with
  | nil =>
    rw [List.append_nil]
    exact Grows.of_same fun _ _ => rfl
  | cons entry rest inductionHypothesis =>
    rw [List.append_assoc, List.cons_append] at listed
    have one := (grows_deadLetter ahead (Copying.intro turn listed)).trans
      (Grows.of_same (fieldsAt?_deadLetterAll_singleton set.stream set.group entry _))
    rw [← deadLetterAll_append] at one
    have others := inductionHypothesis (earlier ++ [entry]) (by simpa using listed)
    rw [List.append_assoc, List.singleton_append] at others
    exact one.trans others

/-- A look at the pending entries changes no entry. -/
theorem fieldsAt?_of_pending {before reached : Pipeline} {stream group : String} {count : Nat}
    {answer : Except StoreError (List PendingEntry)}
    (read : before.ask (fun service => service.pending stream group count) = (answer, reached))
    (other : String) (id : StreamId) : reached.fieldsAt? other id = before.fieldsAt? other id := by
  obtain ⟨-, rfl⟩ := Pipeline.of_ask read
  exact Streams.Store.fieldsAt?_congr
    (congrArg (Streams.Store.content? · other)
      (before.service.pending_cases stream group count).1) id

/-- An acknowledgement changes no entry. -/
theorem fieldsAt?_forceAcknowledge (stream group : String) (ids : List StreamId)
    (pipeline : Pipeline) (other : String) (id : StreamId) :
    (forceAcknowledge stream group ids pipeline).2.fieldsAt? other id =
      pipeline.fieldsAt? other id := by
  rw [forceAcknowledge]
  split
  · rfl
  · show (pipeline.service.acknowledge stream group ids).2.store.fieldsAt? other id = _
    rcases pipeline.service.acknowledge_cases stream group ids with
      ⟨_, _, store⟩ | ⟨_, told⟩
    · rw [store]
      rfl
    · exact Streams.Store.fieldsAt?_of_changed told other id

/-- The turn of a consumer set changes no entry but by the copies it makes. -/
theorem acknowledgePending_cases (forced : cleaner.settings.ackStalePending = true)
    (enabled : cleaner.settings.deadLetterEnabled = true) (set : ConsumerSet)
    (pipeline : Pipeline) :
    (∃ error reached,
      pipeline.ask (fun service =>
        service.pending set.stream set.group cleaner.settings.pendingBatch) =
          (.error error, reached) ∧
      ∀ other id, (cleaner.acknowledgePending set pipeline).2.fieldsAt? other id =
        pipeline.fieldsAt? other id) ∨
    ∃ entries reached,
      pipeline.ask (fun service =>
        service.pending set.stream set.group cleaner.settings.pendingBatch) =
          (.ok entries, reached) ∧
      (∀ other id, reached.fieldsAt? other id = pipeline.fieldsAt? other id) ∧
      ∀ other id, (cleaner.acknowledgePending set pipeline).2.fieldsAt? other id =
        (cleaner.deadLetterAll set.stream set.group entries reached).2.fieldsAt? other id := by
  rw [acknowledgePending, if_pos forced]
  dsimp only
  generalize told : pipeline.ask (fun service =>
    service.pending set.stream set.group cleaner.settings.pendingBatch) = read
  obtain ⟨answer, reached⟩ := read
  have same := fieldsAt?_of_pending told
  cases answer with
  | error error => exact Or.inl ⟨error, reached, rfl, same⟩
  | ok entries =>
    refine Or.inr ⟨entries, reached, rfl, same, fun other id => ?_⟩
    cases entries with
    | nil => rfl
    | cons entry rest =>
      dsimp only
      rw [release, if_pos enabled]
      generalize cleaner.deadLetterAll set.stream set.group (entry :: rest) _ = released
      obtain ⟨⟨ids, copies⟩, after⟩ := released
      dsimp only
      have unmoved := fieldsAt?_forceAcknowledge set.stream set.group ids after other id
      generalize forceAcknowledge set.stream set.group ids after = forced at unmoved ⊢
      obtain ⟨answer, ended⟩ := forced
      cases answer <;> exact unmoved

theorem runPending_append (first second : List ConsumerSet) (state : CleanupReport × Pipeline) :
    cleaner.runPending (first ++ second) state =
      cleaner.runPending second (cleaner.runPending first state) := by
  induction first generalizing state with
  | nil => rfl
  | cons set rest inductionHypothesis =>
    rw [List.cons_append, runPending, runPending]
    exact inductionHypothesis _

/-- Writing the report changes no entry. -/
theorem fieldsAt?_settle {Value : Type} (message : String)
    (merge : CleanupReport → Value → CleanupReport) (report : CleanupReport)
    (answer : Except CleanupError Value × Pipeline) (other : String) (id : StreamId) :
    (settle message merge report answer).2.fieldsAt? other id = answer.2.fieldsAt? other id := by
  obtain ⟨answer, after⟩ := answer
  cases answer <;> rfl

theorem afterSets_concat (done : List ConsumerSet) (set : ConsumerSet) (other : String)
    (id : StreamId) :
    (cleaner.afterSets pipeline (done ++ [set])).fieldsAt? other id =
      (cleaner.acknowledgePending set (cleaner.afterSets pipeline done)).2.fieldsAt? other id := by
  rw [afterSets, runPending_append, runPending, runPending, afterSets]
  exact fieldsAt?_settle _ _ _ _ other id

/-- From some copies of a turn to its end only dead letters are added. -/
theorem grows_turn (forced : cleaner.settings.ackStalePending = true)
    (enabled : cleaner.settings.deadLetterEnabled = true)
    (ahead : cleaner.CopiesAhead pipeline cutoff) {before after : List ConsumerSet}
    {set : ConsumerSet} {reached : Pipeline} (turn : cleaner.consumers = before ++ set :: after)
    (earlier later : List PendingEntry)
    (listed : (cleaner.afterSets pipeline before).ask
      (fun service => service.pending set.stream set.group cleaner.settings.pendingBatch) =
        (.ok (earlier ++ later), reached)) :
    cleaner.Grows (cleaner.Copies pipeline)
      (cleaner.deadLetterAll set.stream set.group earlier reached).2
      (cleaner.afterSets pipeline (before ++ [set])) := by
  refine (grows_deadLetterAll ahead turn earlier later [] (by simpa using listed)).trans
    (Grows.of_same fun other id => ?_)
  rw [afterSets_concat]
  rcases acknowledgePending_cases forced enabled set (cleaner.afterSets pipeline before) with
    ⟨_, _, read, _⟩ | ⟨entries, _, read, _, told⟩
  · rw [listed] at read
    cases read
  · rw [listed] at read
    cases read
    exact told other id

/-- Between the turns of consumer sets only dead letters are added. -/
theorem grows_afterSets (forced : cleaner.settings.ackStalePending = true)
    (enabled : cleaner.settings.deadLetterEnabled = true)
    (ahead : cleaner.CopiesAhead pipeline cutoff) (before middle after : List ConsumerSet)
    (turns : cleaner.consumers = before ++ middle ++ after) :
    cleaner.Grows (cleaner.Copies pipeline) (cleaner.afterSets pipeline before)
      (cleaner.afterSets pipeline (before ++ middle)) := by
  induction middle generalizing before with
  | nil =>
    rw [List.append_nil]
    exact Grows.of_same fun _ _ => rfl
  | cons set rest inductionHypothesis =>
    have turn : cleaner.consumers = before ++ set :: (rest ++ after) := by
      rw [turns, List.append_assoc, List.cons_append]
    have one : cleaner.Grows (cleaner.Copies pipeline) (cleaner.afterSets pipeline before)
        (cleaner.afterSets pipeline (before ++ [set])) := by
      rcases acknowledgePending_cases forced enabled set (cleaner.afterSets pipeline before) with
        ⟨_, _, _, told⟩ | ⟨entries, reached, read, same, _⟩
      · exact Grows.of_same fun other id => (afterSets_concat before set other id).trans
          (told other id)
      · exact (Grows.of_same same).trans
          (grows_turn forced enabled ahead turn [] entries read)
    have others := inductionHypothesis (before ++ [set]) (by simpa using turns)
    rw [List.append_assoc, List.singleton_append] at others
    exact one.trans others

/-- What is copied is among the dead letters, behind the cutoff and new, when all consumer sets have
been treated. -/
theorem letter_of_copies (forced : cleaner.settings.ackStalePending = true)
    (enabled : cleaner.settings.deadLetterEnabled = true)
    (ahead : cleaner.CopiesAhead pipeline cutoff) {stream : String} {id : StreamId}
    (copies : cleaner.Copies pipeline stream id) :
    ∃ place letter, cutoff < place ∧
      pipeline.fieldsAt? (cleaner.settings.deadLetterStream stream) place = none ∧
      (cleaner.afterSets pipeline cleaner.consumers).fieldsAt?
        (cleaner.settings.deadLetterStream stream) place = some letter ∧
      letter.get? deadLetterNames.sourceId = some id.display := by
  obtain ⟨set, entry, _, copying, rfl, rfl, made⟩ := copies
  obtain ⟨above, behind⟩ := ahead set entry _ copying made
  cases copying with
  | @intro before after _ earlier later _ reached turn listed =>
    rcases cleaner.deadLetter_cases set.stream set.group entry
      (cleaner.deadLetterAll set.stream set.group earlier reached).2 with
      ⟨never, _⟩ | ⟨_, letter, names, told⟩
    · exact absurd made never
    · have start := grows_afterSets forced enabled ahead [] before (set :: after) turn
      have within := grows_deadLetterAll ahead turn [] earlier (entry :: later) listed
      have rest := grows_turn forced enabled ahead turn (earlier ++ [entry]) later
        (by simpa using listed)
      have final := grows_afterSets forced enabled ahead (before ++ [set]) after []
        (by simpa using turn)
      rw [List.append_assoc, List.singleton_append, ← turn] at final
      refine ⟨_, letter, above, ?_, ?_, names⟩
      · refine Option.eq_none_iff_forall_ne_some.mpr fun fields present => ?_
        have held := within.kept _ _ _
          ((fieldsAt?_of_pending listed _ _).trans (start.kept _ _ _ present))
        exact StreamId.lt_irrefl _ (behind _ (cleaner.mem_letters held))
      · refine final.kept _ _ _ (rest.kept _ _ _ ?_)
        rw [deadLetterAll_append, fieldsAt?_deadLetterAll_singleton, told, if_pos ⟨rfl, rfl⟩]

/-! ### The parts that delete -/

/-- What is deleted up to a cutoff is not behind it. -/
theorem le_of_deletes {spared : Nat} {stream : String} {id : StreamId}
    (deletes : cleaner.Deletes spared stream cutoff pipeline id) : id ≤ cutoff := by
  obtain ⟨records, read, count, left, listed, _, member⟩ := deletes
  obtain ⟨record, kept, rfl⟩ := List.mem_map.mp member
  have among := List.mem_of_mem_drop kept
  rcases (pipeline.service.range_cases stream .least cutoff cleaner.settings.deleteBatch).2 with
    ⟨error, failed⟩ | told
  · cases failed.symm.trans (Pipeline.of_ask listed).1
  · obtain rfl := Except.ok.inj (told.symm.trans (Pipeline.of_ask listed).1)
    rw [Streams.Store.listed] at among
    cases present : pipeline.service.store.content? stream with
    | none =>
      rw [present] at among
      exact absurd among List.not_mem_nil
    | some content =>
      rw [present] at among
      obtain ⟨entry, taken, rfl⟩ := List.mem_map.mp among
      exact (Streams.IdMap.mem_between.mp (List.mem_of_mem_take taken)).2.2

/-- Deleting up to a cutoff removes what it deletes and changes no other entry. -/
theorem deleteUpTo_cases (spared : Nat) (stream : String) (cutoff : StreamId)
    (pipeline : Pipeline) (other : String) (id : StreamId) :
    (other = stream ∧ cleaner.Deletes spared stream cutoff pipeline id ∧
      (cleaner.deleteUpTo spared stream cutoff pipeline).2.fieldsAt? other id = none) ∨
    (¬ (other = stream ∧ cleaner.Deletes spared stream cutoff pipeline id) ∧
      (cleaner.deleteUpTo spared stream cutoff pipeline).2.fieldsAt? other id =
        pipeline.fieldsAt? other id) := by
  rw [deleteUpTo]
  dsimp only
  generalize listed : pipeline.ask (fun service =>
    service.range stream .least cutoff cleaner.settings.deleteBatch) = read
  obtain ⟨answer, reached⟩ := read
  have same : reached.fieldsAt? other id = pipeline.fieldsAt? other id := by
    obtain ⟨-, rfl⟩ := Pipeline.of_ask listed
    exact Streams.Store.fieldsAt?_congr (congrArg (Streams.Store.content? · other)
      (pipeline.service.range_cases stream .least cutoff cleaner.settings.deleteBatch).1) id
  cases answer with
  | error error =>
    refine Or.inr ⟨?_, same⟩
    rintro ⟨_, records, read, count, left, again, _⟩
    rw [listed] at again
    cases again
  | ok records =>
    dsimp only
    by_cases none : ((records.drop spared).map Record.id).isEmpty = true
    · rw [if_pos none]
      refine Or.inr ⟨?_, same⟩
      rintro ⟨_, others, read, count, left, again, _, member⟩
      rw [listed] at again
      cases again
      rw [List.isEmpty_iff.mp none] at member
      exact List.not_mem_nil member
    · rw [if_neg none, deleteEntries]
      generalize deleted : reached.ask (fun service =>
        service.delete stream ((records.drop spared).map Record.id)) = answer
      obtain ⟨answer, left⟩ := answer
      obtain ⟨told, rfl⟩ := Pipeline.of_ask deleted
      rcases reached.service.delete_cases stream ((records.drop spared).map Record.id) with
        ⟨error, failed, store⟩ | ⟨⟨count, done⟩, after⟩
      · obtain rfl := failed.symm.trans told
        refine Or.inr ⟨?_, (Streams.Store.fieldsAt?_congr
          (congrArg (Streams.Store.content? · other) store) id).trans same⟩
        rintro ⟨_, others, read, count, left, again, gone, _⟩
        rw [listed] at again
        cases again
        rw [deleted] at gone
        cases gone
      · obtain rfl := done.symm.trans told
        have entry := Streams.Store.fieldsAt?_of_deleted after other id
        by_cases gone : other = stream ∧ id ∈ (records.drop spared).map Record.id
        · rw [if_pos gone] at entry
          exact Or.inl ⟨gone.1, ⟨records, reached, count, _, listed, deleted, gone.2⟩, entry⟩
        · rw [if_neg gone] at entry
          refine Or.inr ⟨?_, entry.trans same⟩
          rintro ⟨own, others, read, number, left, again, _, member⟩
          rw [listed] at again
          cases again
          exact gone ⟨own, member⟩

section

/-! Both parts that delete go through the streams one after the other. They are treated together: at
each name of a list the entries of one stream up to the cutoff are deleted. -/

variable {moment : List String → Pipeline} {target : String → String} {spared : Nat}
  (steps : ∀ done name other id, (moment (done ++ [name])).fieldsAt? other id =
    (cleaner.deleteUpTo spared (target name) cutoff (moment done)).2.fieldsAt? other id)
include steps

/-- What is there at the end was there all the time. -/
theorem fieldsAt?_of_later (done rest : List String) {other : String} {id : StreamId}
    {fields : Fields} (present : (moment (done ++ rest)).fieldsAt? other id = some fields) :
    (moment done).fieldsAt? other id = some fields := by
  induction rest generalizing done with
  | nil => rwa [List.append_nil] at present
  | cons name rest inductionHypothesis =>
    have next := inductionHypothesis (done ++ [name]) (by simpa using present)
    rw [steps] at next
    rcases cleaner.deleteUpTo_cases spared (target name) cutoff (moment done) other id with
      ⟨_, _, gone⟩ | ⟨_, same⟩
    · rw [gone] at next
      cases next
    · exact same ▸ next

theorem fieldsAt?_of_deletes {before after : List String} {name : String} {id : StreamId}
    (deletes : cleaner.Deletes spared (target name) cutoff (moment before) id) :
    (moment (before ++ name :: after)).fieldsAt? (target name) id = none := by
  refine Option.eq_none_iff_forall_ne_some.mpr fun fields present => ?_
  rw [List.append_cons] at present
  have next := fieldsAt?_of_later steps _ _ present
  rw [steps] at next
  rcases cleaner.deleteUpTo_cases spared (target name) cutoff (moment before) (target name) id
    with ⟨_, _, gone⟩ | ⟨kept, _⟩
  · rw [gone] at next
    cases next
  · exact kept ⟨rfl, deletes⟩

theorem fieldsAt?_of_spared {names : List String} {other : String} {id : StreamId}
    {fields : Fields}
    (spares : ∀ before name after, names = before ++ name :: after → target name = other →
      ¬ cleaner.Deletes spared other cutoff (moment before) id)
    (done rest : List String) (split : names = done ++ rest)
    (present : (moment done).fieldsAt? other id = some fields) :
    (moment names).fieldsAt? other id = some fields := by
  induction rest generalizing done with
  | nil => rwa [split, List.append_nil]
  | cons name rest inductionHypothesis =>
    refine inductionHypothesis (done ++ [name]) (split.trans (List.append_cons _ _ _)) ?_
    rw [steps]
    rcases cleaner.deleteUpTo_cases spared (target name) cutoff (moment done) other id with
      ⟨own, deletes, _⟩ | ⟨_, same⟩
    · exact absurd (own ▸ deletes) (spares done name rest split own.symm)
    · exact same.trans present

end

theorem runExpired_append (threshold : Instant) (first second : List String)
    (state : CleanupReport × Pipeline) :
    cleaner.runExpired threshold (first ++ second) state =
      cleaner.runExpired threshold second (cleaner.runExpired threshold first state) := by
  induction first generalizing state with
  | nil => rfl
  | cons stream rest inductionHypothesis =>
    rw [List.cons_append, runExpired, runExpired]
    exact inductionHypothesis _

theorem runDeadLetters_append (threshold : Instant) (first second : List String)
    (state : CleanupReport × Pipeline) :
    cleaner.runDeadLetters threshold (first ++ second) state =
      cleaner.runDeadLetters threshold second (cleaner.runDeadLetters threshold first state) := by
  induction first generalizing state with
  | nil => rfl
  | cons stream rest inductionHypothesis =>
    rw [List.cons_append, runDeadLetters, runDeadLetters]
    exact inductionHypothesis _

theorem afterStreams_concat (threshold : Instant) (done : List String) (name other : String)
    (id : StreamId) :
    (cleaner.afterStreams threshold pipeline (done ++ [name])).fieldsAt? other id =
      (cleaner.deleteUpTo 1 name (.cutoff threshold)
        (cleaner.afterStreams threshold pipeline done)).2.fieldsAt? other id := by
  rw [afterStreams, runExpired_append, runExpired, runExpired, afterStreams]
  exact fieldsAt?_settle _ _ _ _ other id

theorem afterLetters_concat (threshold : Instant) (done : List String) (name other : String)
    (id : StreamId) :
    (cleaner.afterLetters threshold pipeline (done ++ [name])).fieldsAt? other id =
      (cleaner.deleteUpTo 0 (cleaner.settings.deadLetterStream name) (.cutoff threshold)
        (cleaner.afterLetters threshold pipeline done)).2.fieldsAt? other id := by
  rw [afterLetters, runDeadLetters_append, runDeadLetters, runDeadLetters, afterLetters]
  exact fieldsAt?_settle _ _ _ _ other id

/-! ### Whole runs -/

theorem display_ne_of_not_copied {stream : String} {id : StreamId} {source : String}
    {origin : StreamId} (copied : cleaner.Copies pipeline source origin)
    (uncopied : ¬ cleaner.Copies pipeline stream id)
    (same : cleaner.settings.deadLetterStream stream = cleaner.settings.deadLetterStream source) :
    origin.display ≠ id.display := by
  intro equal
  obtain rfl := StreamId.display_injective equal
  have sources : stream = source := by
    rw [Settings.Retention.deadLetterStream, Settings.Retention.deadLetterStream] at same
    exact (String.append_left_inj _).mp same
  exact uncopied (sources ▸ copied)

/-- The purge of the archive changes no entry of a stream. -/
theorem fieldsAt?_purge (threshold : Instant) (pipeline : Pipeline) (stream : String)
    (id : StreamId) :
    (purge threshold pipeline).2.fieldsAt? stream id = pipeline.fieldsAt? stream id := by
  rw [purge, Pipeline.look]
  generalize pipeline.archive.deleteBefore threshold = answer
  obtain ⟨answer, archive⟩ := answer
  cases answer <;> rfl

theorem not_removes_of_lt {threshold : Instant} {stream : String} {id : StreamId}
    (behind : StreamId.cutoff threshold < id) :
    ¬ cleaner.Removes threshold pipeline stream id := by
  rintro (⟨before, after, _, deletes⟩ | ⟨before, source, after, _, _, deletes⟩)
  · exact StreamId.not_le.mpr behind (le_of_deletes deletes)
  · exact StreamId.not_le.mpr behind (le_of_deletes deletes)

section

variable {now threshold : Instant} {report : CleanupReport} {ended : Pipeline}
  (limit : cleaner.threshold? now = some threshold)
  (enabled : cleaner.settings.deadLetterEnabled = true)
  (ran : cleaner.run? now pipeline = some (report, ended))
include limit enabled ran

theorem fieldsAt?_run (stream : String) (id : StreamId) :
    ended.fieldsAt? stream id =
      (cleaner.afterLetters threshold pipeline cleaner.streams).fieldsAt? stream id := by
  rw [run?, limit, Option.map_some] at ran
  obtain rfl := congrArg Prod.snd (Option.some.inj ran)
  rw [runFor, if_pos enabled]
  exact (fieldsAt?_settle _ _ _ _ stream id).trans (fieldsAt?_purge threshold _ stream id)

variable {stream : String} {id : StreamId} {fields : Fields}

/-- What is there after a run was there when the consumer sets had been treated, and is not what
the run removes. -/
theorem of_fieldsAt?_run (present : ended.fieldsAt? stream id = some fields) :
    (cleaner.afterSets pipeline cleaner.consumers).fieldsAt? stream id = some fields ∧
      ¬ cleaner.Removes threshold pipeline stream id := by
  rw [fieldsAt?_run limit enabled ran] at present
  have expired : (cleaner.afterStreams threshold pipeline cleaner.streams).fieldsAt? stream id =
      some fields :=
    fieldsAt?_of_later (afterLetters_concat threshold) [] cleaner.streams present
  refine ⟨fieldsAt?_of_later (afterStreams_concat threshold) [] cleaner.streams expired, ?_⟩
  rintro (⟨before, after, split, deletes⟩ | ⟨before, source, after, split, rfl, deletes⟩)
  · rw [split, fieldsAt?_of_deletes (afterStreams_concat threshold) deletes] at expired
    cases expired
  · rw [split, fieldsAt?_of_deletes (afterLetters_concat threshold) deletes] at present
    cases present

/-- What is there when the consumer sets have been treated is there after the run, unless the run
removes it. -/
theorem fieldsAt?_run_of_kept (kept : ¬ cleaner.Removes threshold pipeline stream id)
    (present : (cleaner.afterSets pipeline cleaner.consumers).fieldsAt? stream id = some fields) :
    ended.fieldsAt? stream id = some fields := by
  obtain ⟨notExpired, notCleared⟩ := not_or.mp kept
  rw [fieldsAt?_run limit enabled ran]
  have expired := fieldsAt?_of_spared (afterStreams_concat threshold)
    (fun before name after split (own : name = stream) deletes =>
      notExpired ⟨before, after, own ▸ split, deletes⟩) [] cleaner.streams rfl present
  exact fieldsAt?_of_spared (afterLetters_concat threshold)
    (fun before source after split own deletes =>
      notCleared ⟨before, source, after, split, own, deletes⟩) [] cleaner.streams rfl expired

end

/-- After a run an entry is in its stream as it was, or a new dead letter names it, exactly if the
run copied the entry at some moment or did not remove it at any. -/
theorem kept_or_lettered_iff {cleaner : Cleaner} {pipeline ended : Pipeline}
    {now threshold : Instant} {report : CleanupReport} {stream : String}
    (forced : cleaner.settings.ackStalePending = true)
    (enabled : cleaner.settings.deadLetterEnabled = true)
    (limit : cleaner.threshold? now = some threshold)
    (ran : cleaner.run? now pipeline = some (report, ended))
    (ahead : cleaner.CopiesAhead pipeline (.cutoff threshold)) {id : StreamId} {fields : Fields}
    (present : pipeline.fieldsAt? stream id = some fields) :
    (ended.fieldsAt? stream id = some fields ∨
        ∃ place letter,
          pipeline.fieldsAt? (cleaner.settings.deadLetterStream stream) place ≠ some letter ∧
          ended.fieldsAt? (cleaner.settings.deadLetterStream stream) place = some letter ∧
          letter.get? deadLetterNames.sourceId = some id.display) ↔
      cleaner.Copies pipeline stream id ∨ ¬ cleaner.Removes threshold pipeline stream id := by
  have grown := grows_afterSets forced enabled ahead [] cleaner.consumers [] (by simp)
  refine ⟨fun safe => ?_, ?_⟩
  · by_cases copied : cleaner.Copies pipeline stream id
    · exact Or.inl copied
    rcases safe with kept | ⟨place, letter, new, there, names⟩
    · exact Or.inr (of_fieldsAt?_run limit enabled ran kept).2
    · have held := (of_fieldsAt?_run limit enabled ran there).1
      rcases grown.new _ _ _ held with old | ⟨source, origin, other, same, origins⟩
      · exact absurd old new
      · exact absurd (Option.some.inj (origins.symm.trans names))
          (display_ne_of_not_copied other copied same)
  · rintro (copied | kept)
    · obtain ⟨place, letter, above, free, there, names⟩ :=
        letter_of_copies forced enabled ahead copied
      refine Or.inr ⟨place, letter, ?_, ?_, names⟩
      · rw [free]
        exact Option.some_ne_none letter |>.symm
      · exact fieldsAt?_run_of_kept limit enabled ran (not_removes_of_lt above) there
    · exact Or.inl (fieldsAt?_run_of_kept limit enabled ran kept (grown.kept _ _ _ present))

end Cleaner

/-! ### Overdue entries -/

open Streams (Store StoreCall)

/-- A stream with four entries, three of which are pending. -/
def overdueCalls : List StoreCall :=
  [.append 5 "orders" [("type", "first")], .createGroup "orders" "audit",
    .append 6 "orders" [("type", "second")], .append 7 "orders" [("type", "third")],
    .append 8 "orders" [("type", "fourth")],
    .readGroup "orders" "audit" "worker" .lastConsumed 5]

/-- A pipeline a hundred days after the entries of its stream were appended. -/
def overdue : Pipeline where
  service := ⟨Store.empty.after overdueCalls, []⟩
  archive := .empty .memory
  wall := ⟨8640000, 0⟩

/-- A cleanup that copies one pending entry of a group and deletes more entries of its stream. -/
def hasty : Cleaner where
  consumers := [⟨"orders", "audit", "worker", 1⟩]
  settings := { pendingBatch := 1, deleteBatch := 10 }

end Retention

end AccessFeed
