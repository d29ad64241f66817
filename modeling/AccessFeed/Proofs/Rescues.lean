/-
This file tells by the requests of a cleanup which pending entries survive it.

A pending entry is rescued when the turn of a consumer set lists it in its batch
and appends a letter that names it, and it is discarded when a turn that deletes
finds it in its batch; in either case it is for the requests of that turn not to
fail. After a run an entry is there or was copied exactly if the run rescued it
or did not discard it. An entry is rescued if none of the requests fails that its
copy depends on and the first batch of its group holds it; for an entry further
behind, or one whose copy failed, nothing of the kind is promised.
-/

import AccessFeed.Proofs.Reruns

namespace AccessFeed

open Streams (Attempt Errand Fields IdMap PendingEntry Request Service Store StoreCall StreamId)

/-! ### Attempts -/

namespace Streams

theorem Request.failed_attempt {request : Request} {service : Service} :
    (request.attempt service).failed = false ↔
      ∃ answer, (request.make service).1 = .ok answer := by
  rw [attempt]
  cases (request.make service).1 with
  | error error => simp [Except.toOption]
  | ok answer => simp [Except.toOption]

/-- An errand that is not about a group leaves it in its stream. -/
theorem Errand.Makes.group?_run {Value : Type} {errand : Errand Value} {stream group : String}
    (makes : errand.Makes fun request => ¬ request.call.Concerns stream group)
    (service : Service) :
    (errand.run service).2.store.group? stream group = service.store.group? stream group := by
  induction errand generalizing service with
  | done value => rfl
  | ask request next inductionHypothesis =>
    exact (inductionHypothesis _ (makes.2 _) _).trans (Request.group?_attempt makes.1)

end Streams

namespace Retention

open Calendar (Instant)
open Settings (ConsumerSet)

namespace Cleaner

/-! ### What decides about an entry -/

/-- Whether a request appends a letter of an entry of a stream, which names it as its source. -/
def IsLetter (cleaner : Cleaner) (stream : String) (id : StreamId) (request : Request) : Prop :=
  ∃ now fields, request = .append now (cleaner.settings.deadLetterStream stream) fields ∧
    (Fields.ofList fields).get? deadLetterNames.sourceId = some id.display

/-- The requests in the turn of a consumer set on which the copy of a pending entry depends: the
list of the pending entries, the read of the entry, and the append of its letter. -/
inductive CopyRequest (cleaner : Cleaner) (set : ConsumerSet) (id : StreamId) : Request → Prop
  | list : CopyRequest cleaner set id
    (.pending set.stream set.group cleaner.settings.pendingBatch)
  | read : CopyRequest cleaner set id (.range set.stream id id 1)
  | letter {request : Request} (names : cleaner.IsLetter set.stream id request) :
    CopyRequest cleaner set id request

/-- Whether a run rescues an entry of a stream: in the turn of one of its consumer sets the entry is
among the first pending ones, as many as a batch holds, and a letter of it is appended; neither the
list of the pending entries fails nor the append. -/
def Rescues (cleaner : Cleaner) (threshold : Instant) (pipeline : Pipeline) (stream : String)
    (id : StreamId) : Prop :=
  ∃ set first rest, (.pending set, first :: rest) ∈ cleaner.runTurns threshold pipeline ∧
    set.stream = stream ∧ first.failed = false ∧
    id ∈ (first.before.pendingIds stream set.group).take cleaner.settings.pendingBatch ∧
    ∃ attempt ∈ rest, attempt.failed = false ∧ cleaner.IsLetter stream id attempt.request

/-- Whether a run discards an entry of a stream: in a turn that deletes from it the entry is among
the first ones up to the cutoff, as many as a batch holds, and not spared, and no request fails. -/
def Discards (cleaner : Cleaner) (threshold : Instant) (pipeline : Pipeline) (stream : String)
    (id : StreamId) : Prop :=
  ∃ part spared first rest, cleaner.Deletion part spared stream ∧
    (part, first :: rest) ∈ cleaner.runTurns threshold pipeline ∧
    (∀ attempt ∈ first :: rest, attempt.failed = false) ∧
    id ∈ (((((first.before.content? stream).getD .empty).entries.upTo
      (.cutoff threshold)).map Prod.fst).take cleaner.settings.deleteBatch).drop spared

variable {cleaner : Cleaner} {threshold wall : Instant} {pipeline : Pipeline} {service : Service}
  {stream group : String} {id : StreamId}

/-! ### One copy -/

/-- An entry that a read of it does not list is not there. -/
theorem fieldsAt?_of_listed_nil {store : Store} {stream : String} {id : StreamId}
    (unlisted : store.listed stream id id 1 = []) : store.fieldsAt? stream id = none := by
  refine Option.eq_none_iff_forall_ne_some.mpr fun fields present => ?_
  obtain ⟨content, held, member⟩ := Option.bind_eq_some_iff.mp present
  rw [Store.listed, held] at unlisted
  have among : (id, fields) ∈ content.entries.between id id :=
    IdMap.mem_between.mpr ⟨IdMap.mem_of_get? member, StreamId.le_refl _, StreamId.le_refl _⟩
  rw [List.take_eq_nil_iff.mp (List.map_eq_nil_iff.mp unlisted) |>.resolve_left (by decide)]
    at among
  exact List.not_mem_nil among

theorem isLetter_of_append (entry : PendingEntry) {record : Streams.Record} {now : UInt64} :
    cleaner.IsLetter stream entry.id (.append now (cleaner.settings.deadLetterStream stream)
      (deadLetterFields record group entry wall)) :=
  ⟨now, _, rfl, sourceId_deadLetterFields record group entry wall⟩

/-- A letter is one of a single entry. -/
theorem IsLetter.unique {other : StreamId} {request : Request}
    (letter : cleaner.IsLetter stream id request)
    (same : cleaner.IsLetter stream other request) : id = other := by
  obtain ⟨now, fields, rfl, names⟩ := letter
  obtain ⟨_, _, equal, others⟩ := same
  cases equal
  exact StreamId.display_injective (Option.some.inj (names.symm.trans others))

theorem IsLetter.acknowledges {request : Request}
    (letter : cleaner.IsLetter stream id request) : request.acknowledges = false := by
  obtain ⟨_, _, rfl, _⟩ := letter
  rfl

theorem CopyRequest.acknowledges {set : ConsumerSet} {request : Request}
    (copies : cleaner.CopyRequest set id request) : request.acknowledges = false := by
  cases copies with
  | list | read => rfl
  | letter names => exact names.acknowledges

/-- A copy reads its entry, and if the entry is there it appends a letter of it. It comes to a copy
exactly if the append is made and does not fail. -/
theorem trail_copying (cleaner : Cleaner) (wall : Instant) (stream group : String)
    (entry : PendingEntry) (service : Service) :
    let copying := cleaner.copying wall stream group entry
    let read := (Request.range stream entry.id entry.id 1).attempt service
    (copying.trail service = [read] ∧ (copying.run service).1 ≠ some true ∧
        (read.failed = false → service.store.fieldsAt? stream entry.id = none)) ∨
      ∃ letter : Attempt, copying.trail service = [read, letter] ∧
        cleaner.IsLetter stream entry.id letter.request ∧
        ((copying.run service).1 = some true ↔ letter.failed = false) := by
  intro copying read
  obtain ⟨-, answers⟩ := service.range_cases stream entry.id entry.id 1
  have trail : copying.trail service = _ :=
    show (Cleaner.copying ..).trail service = _ by rw [Cleaner.copying, Errand.trail]
  have run : copying.run service = _ :=
    show (Cleaner.copying ..).run service = _ by rw [Cleaner.copying, Errand.run]
  have failed : read.failed =
      (service.range stream entry.id entry.id 1).1.toOption.isNone := rfl
  rw [show (Request.range stream entry.id entry.id 1).make service =
    service.range stream entry.id entry.id 1 from rfl] at trail run
  generalize service.range stream entry.id entry.id 1 = made at answers trail run failed
  obtain ⟨answer, reached⟩ := made
  cases answer with
  | error error =>
    refine Or.inl ⟨trail, by simp [run, Except.toOption, Errand.run], fun worked => ?_⟩
    rw [failed] at worked
    cases worked
  | ok records =>
    cases records with
    | nil =>
      refine Or.inl ⟨trail, by simp [run, Except.toOption, Errand.run], fun _ => ?_⟩
      obtain none := Except.ok.inj
        (answers.resolve_left (by rintro ⟨_, impossible⟩; cases impossible))
      exact fieldsAt?_of_listed_nil none.symm
    | cons record rest =>
      refine Or.inr ⟨_, trail, isLetter_of_append entry, ?_⟩
      rw [run, Request.failed_attempt]
      dsimp only [Except.toOption, Errand.run]
      generalize (Request.append ..).make reached = added
      obtain ⟨answer, after⟩ := added
      cases answer <;> simp

/-- A letter of an entry is appended, and this does not fail, exactly if a copy of the entry comes
to one. -/
theorem exists_letter_copying {entry : PendingEntry} :
    (∃ attempt ∈ (cleaner.copying wall stream group entry).trail service,
      attempt.failed = false ∧ cleaner.IsLetter stream id attempt.request) ↔
    entry.id = id ∧ ((cleaner.copying wall stream group entry).run service).1 = some true := by
  have unread : ¬ cleaner.IsLetter stream id
      ((Request.range stream entry.id entry.id 1).attempt service).request := by
    rintro ⟨_, _, impossible, _⟩
    cases impossible
  rcases cleaner.trail_copying wall stream group entry service with
    ⟨trail, never, _⟩ | ⟨letter, trail, names, made⟩
  · rw [trail]
    refine ⟨?_, fun both => absurd both.2 never⟩
    rintro ⟨attempt, member, -, names⟩
    exact absurd (List.mem_singleton.mp member ▸ names) unread
  · rw [trail, made]
    constructor
    · rintro ⟨attempt, member, worked, own⟩
      rcases List.mem_cons.mp member with rfl | member
      · exact absurd own unread
      · obtain rfl := List.mem_singleton.mp member
        exact ⟨names.unique own, worked⟩
    · rintro ⟨rfl, worked⟩
      exact ⟨letter, List.mem_cons_of_mem _ (List.mem_singleton.mpr rfl), worked, names⟩

/-- An entry that is there is copied if no request fails on which its copy depends. -/
theorem copying_of_unrefused {set : ConsumerSet} {entry : PendingEntry} {fields : Fields}
    (present : service.store.fieldsAt? set.stream entry.id = some fields)
    (unrefused : ∀ attempt ∈ (cleaner.copying wall set.stream set.group entry).trail service,
      cleaner.CopyRequest set entry.id attempt.request → attempt.failed = false) :
    ((cleaner.copying wall set.stream set.group entry).run service).1 = some true := by
  rcases cleaner.trail_copying wall set.stream set.group entry service with
    ⟨trail, -, absent⟩ | ⟨letter, trail, names, made⟩
  · rw [trail, List.forall_mem_singleton] at unrefused
    rw [absent (unrefused .read)] at present
    cases present
  · rw [trail] at unrefused
    exact made.mpr (unrefused letter (List.mem_cons_of_mem _ (List.mem_singleton.mpr rfl))
      (.letter names))

/-! ### The turn of a consumer set -/

theorem wall_deadLetterAll (cleaner : Cleaner) (stream group : String)
    (entries : List PendingEntry) (pipeline : Pipeline) :
    (cleaner.deadLetterAll stream group entries pipeline).2.wall = pipeline.wall :=
  (cleaner.performs_deadLetterAll stream group entries pipeline).wall

/-- What is asked to copy some pending entries is asked to copy one of them, when the earlier ones
have been treated. -/
theorem mem_trail_copyingAll (entries : List PendingEntry) {pipeline : Pipeline}
    {attempt : Attempt} :
    attempt ∈ (cleaner.copyingAll pipeline.wall stream group entries).trail pipeline.service ↔
      ∃ earlier entry later, entries = earlier ++ entry :: later ∧
        attempt ∈ (cleaner.copying pipeline.wall stream group entry).trail
          (cleaner.deadLetterAll stream group earlier pipeline).2.service := by
  induction entries generalizing pipeline with
  | nil =>
    refine ⟨fun never => absurd never List.not_mem_nil, ?_⟩
    rintro ⟨earlier, entry, later, impossible, -⟩
    exact absurd impossible.symm (by simp)
  | cons first rest inductionHypothesis =>
    have one := cleaner.performs_deadLetterAll stream group [first] pipeline
    have trail : (cleaner.copyingAll pipeline.wall stream group (first :: rest)).trail
        pipeline.service =
          (cleaner.copying pipeline.wall stream group first).trail pipeline.service ++
            (cleaner.copyingAll pipeline.wall stream group rest).trail
              (cleaner.deadLetterAll stream group [first] pipeline).2.service := by
      have reached : (cleaner.deadLetterAll stream group [first] pipeline).2.service =
          ((cleaner.copying pipeline.wall stream group first).run pipeline.service).2 := by
        rw [(cleaner.performs_deadLetter stream group first pipeline).run, deadLetterAll]
        generalize cleaner.deadLetter stream group first pipeline = copied
        obtain ⟨answer, after⟩ := copied
        cases answer <;> rfl
      rw [copyingAll, Errand.trail_bind, reached]
      cases ((cleaner.copying pipeline.wall stream group first).run pipeline.service).1 with
      | none => rfl
      | some copied => rw [Errand.trail_map]
    have others := @inductionHypothesis (cleaner.deadLetterAll stream group [first] pipeline).2
    rw [one.wall] at others
    rw [trail, List.mem_append, others]
    constructor
    · rintro (own | ⟨earlier, entry, later, rfl, member⟩)
      · exact ⟨[], first, rest, rfl, own⟩
      · refine ⟨first :: earlier, entry, later, rfl, ?_⟩
        rwa [← List.singleton_append, deadLetterAll_append]
    · rintro ⟨earlier, entry, later, split, member⟩
      cases earlier with
      | nil =>
        obtain ⟨rfl, rfl⟩ := List.cons.inj split
        exact Or.inl member
      | cons head earlier =>
        obtain ⟨rfl, rfl⟩ := List.cons.inj split
        refine Or.inr ⟨earlier, entry, later, rfl, ?_⟩
        rwa [← List.singleton_append, deadLetterAll_append] at member

/-- The turn of a consumer set first lists pending entries. If this works, all it asks then is
asked to copy the listed entries, but for the acknowledgement. -/
theorem trail_treating (forced : cleaner.settings.ackStalePending = true)
    (enabled : cleaner.settings.deadLetterEnabled = true) (set : ConsumerSet)
    (pipeline : Pipeline) :
    ∃ rest, (cleaner.treating pipeline.wall set).trail pipeline.service =
        (Request.pending set.stream set.group cleaner.settings.pendingBatch).attempt
          pipeline.service :: rest ∧
      ∀ entries reached,
        pipeline.ask (fun service =>
          service.pending set.stream set.group cleaner.settings.pendingBatch) =
            (.ok entries, reached) →
        ∀ attempt : Attempt, attempt.request.acknowledges = false →
          (attempt ∈ rest ↔ attempt ∈ (cleaner.copyingAll reached.wall set.stream set.group
            entries).trail reached.service) := by
  rw [treating, if_pos forced, Errand.trail]
  refine ⟨_, rfl, fun entries reached asked attempt other => ?_⟩
  obtain ⟨told, rfl⟩ := Pipeline.of_ask asked
  have answered : ((Request.pending set.stream set.group cleaner.settings.pendingBatch).make
      pipeline.service).1.toOption = some entries := congrArg Except.toOption told
  rw [answered]
  cases entries with
  | nil => rfl
  | cons entry rest =>
    dsimp only
    rw [Errand.trail_bind, Errand.trail_map, releasing, if_pos enabled, List.mem_append]
    refine or_iff_left fun member => ?_
    have makes (ids : List StreamId) : (acknowledging set.stream set.group ids).Makes
        fun request => request.acknowledges = true := makes_acknowledging ids rfl
    exact Bool.false_ne_true (other.symm.trans ((makes _).mem_trail member))

/-! ### The turns of a run -/

theorem wall_runParts (cleaner : Cleaner) (threshold : Instant) (parts : List Part)
    (state : CleanupReport × Pipeline) :
    (cleaner.runParts threshold parts state).2.wall = state.2.wall := by
  induction parts generalizing state with
  | nil => rfl
  | cons part rest inductionHypothesis =>
    rw [runParts_cons, inductionHypothesis, settle_eq]
    exact (cleaner.service_afterPart threshold state.2 part).2

theorem turns_append (cleaner : Cleaner) (threshold : Instant) (first second : List Part)
    (state : CleanupReport × Pipeline) :
    cleaner.turns threshold state.2.wall (first ++ second) state.2.service =
      cleaner.turns threshold state.2.wall first state.2.service ++
        cleaner.turns threshold state.2.wall second
          (cleaner.runParts threshold first state).2.service := by
  induction first generalizing state with
  | nil => rfl
  | cons part rest inductionHypothesis =>
    obtain ⟨service, wall⟩ := cleaner.service_afterPart threshold state.2 part
    have others := inductionHypothesis (tell state.1 (cleaner.take threshold state.2 part).1,
      cleaner.afterPart threshold state.2 part)
    dsimp only at others
    rw [service, wall] at others
    rw [List.cons_append, turns, turns, others, List.cons_append, runParts_cons, settle_eq]

/-- The turns of parts of one kind. -/
theorem mem_turns_map {Name : Type} (kind : Name → Part) (names : List Name)
    (state : CleanupReport × Pipeline) {part : Part} {turn : List Attempt} :
    (part, turn) ∈ cleaner.turns threshold state.2.wall (names.map kind) state.2.service ↔
      ∃ before name after, names = before ++ name :: after ∧ kind name = part ∧
        turn = (cleaner.errand threshold state.2.wall part).trail
          (cleaner.runParts threshold (before.map kind) state).2.service := by
  induction names generalizing state with
  | nil =>
    refine ⟨fun never => absurd never List.not_mem_nil, ?_⟩
    rintro ⟨before, name, after, impossible, -⟩
    exact absurd impossible.symm (by simp)
  | cons name rest inductionHypothesis =>
    obtain ⟨service, wall⟩ := cleaner.service_afterPart threshold state.2 (kind name)
    have others := inductionHypothesis
      (tell state.1 (cleaner.take threshold state.2 (kind name)).1,
        cleaner.afterPart threshold state.2 (kind name))
    dsimp only at others
    rw [service, wall] at others
    rw [List.map_cons, turns, List.mem_cons, others, Prod.mk.injEq]
    constructor
    · rintro (⟨rfl, rfl⟩ | ⟨before, other, after, rfl, same, rfl⟩)
      · exact ⟨[], name, rest, rfl, rfl, rfl⟩
      · refine ⟨name :: before, other, after, rfl, same, ?_⟩
        rw [List.map_cons, runParts_cons, settle_eq]
    · rintro ⟨before, other, after, split, same, told⟩
      cases before with
      | nil =>
        obtain ⟨rfl, rfl⟩ := List.cons.inj split
        exact Or.inl ⟨same.symm, same ▸ told⟩
      | cons head before =>
        obtain ⟨rfl, rfl⟩ := List.cons.inj split
        rw [List.map_cons, runParts_cons, settle_eq] at told
        exact Or.inr ⟨before, other, after, rfl, same, told⟩

/-- The turns of a run are those of the consumer sets, those of the streams and those of the
dead-letter streams. -/
theorem mem_runTurns (enabled : cleaner.settings.deadLetterEnabled = true) {part : Part}
    {turn : List Attempt} :
    (part, turn) ∈ cleaner.runTurns threshold pipeline ↔
      (∃ before set after, cleaner.consumers = before ++ set :: after ∧ .pending set = part ∧
        turn = (cleaner.errand threshold pipeline.wall part).trail
          (cleaner.afterSets pipeline before).service) ∨
      (∃ before name after, cleaner.streams = before ++ name :: after ∧ .expired name = part ∧
        turn = (cleaner.errand threshold pipeline.wall part).trail
          (cleaner.afterStreams threshold pipeline before).service) ∨
      ∃ before name after, cleaner.streams = before ++ name :: after ∧ .letters name = part ∧
        turn = (cleaner.errand threshold pipeline.wall part).trail
          (cleaner.afterLetters threshold pipeline before).service := by
  have turns := cleaner.turns_append threshold
    (cleaner.consumers.map .pending ++ cleaner.streams.map .expired)
    (cleaner.streams.map .letters) ({}, pipeline)
  rw [cleaner.turns_append threshold (cleaner.consumers.map .pending)] at turns
  rw [runTurns, streamParts, if_pos enabled]
  dsimp only at turns
  rw [turns, List.mem_append, List.mem_append, or_assoc]
  have sets := @mem_turns_map cleaner threshold _ .pending cleaner.consumers ({}, pipeline) part
    turn
  have expired := @mem_turns_map cleaner threshold _ .expired cleaner.streams
    (cleaner.runParts threshold (cleaner.consumers.map .pending) ({}, pipeline)) part turn
  have letters := @mem_turns_map cleaner threshold _ .letters cleaner.streams
    (cleaner.runParts threshold (cleaner.consumers.map .pending ++ cleaner.streams.map .expired)
      ({}, pipeline)) part turn
  rw [wall_runParts] at expired letters
  dsimp only at sets expired letters
  rw [sets, expired, letters]
  simp only [afterSets, afterStreams, afterLetters, runPending_eq cleaner threshold,
    runExpired_eq, runDeadLetters_eq, runParts_append]

theorem mem_runTurns_pending (enabled : cleaner.settings.deadLetterEnabled = true)
    {set : ConsumerSet} {turn : List Attempt} :
    (.pending set, turn) ∈ cleaner.runTurns threshold pipeline ↔
      ∃ before after, cleaner.consumers = before ++ set :: after ∧
        turn = (cleaner.treating pipeline.wall set).trail
          (cleaner.afterSets pipeline before).service := by
  simp [mem_runTurns enabled, errand, Errand.trail_map]

theorem mem_runTurns_expired (enabled : cleaner.settings.deadLetterEnabled = true)
    {name : String} {turn : List Attempt} :
    (.expired name, turn) ∈ cleaner.runTurns threshold pipeline ↔
      ∃ before after, cleaner.streams = before ++ name :: after ∧
        turn = (cleaner.deleting 1 name (.cutoff threshold)).trail
          (cleaner.afterStreams threshold pipeline before).service := by
  simp [mem_runTurns enabled, errand, Errand.trail_map]

theorem mem_runTurns_letters (enabled : cleaner.settings.deadLetterEnabled = true)
    {source : String} {turn : List Attempt} :
    (.letters source, turn) ∈ cleaner.runTurns threshold pipeline ↔
      ∃ before after, cleaner.streams = before ++ source :: after ∧
        turn = (cleaner.deleting 0 (cleaner.settings.deadLetterStream source)
          (.cutoff threshold)).trail (cleaner.afterLetters threshold pipeline before).service := by
  simp [mem_runTurns enabled, errand, Errand.trail_map]

theorem wall_afterSets (cleaner : Cleaner) (pipeline : Pipeline) (done : List ConsumerSet) :
    (cleaner.afterSets pipeline done).wall = pipeline.wall := by
  rw [afterSets, runPending_eq cleaner ⟨0, 0⟩]
  exact cleaner.wall_runParts _ _ ({}, pipeline)

/-! ### Rescued entries -/

theorem deadLetter_iff_copying {entry : PendingEntry} :
    (cleaner.deadLetter stream group entry pipeline).1 = .ok true ↔
      ((cleaner.copying pipeline.wall stream group entry).run pipeline.service).1 = some true := by
  rw [(cleaner.performs_deadLetter stream group entry pipeline).run]
  cases (cleaner.deadLetter stream group entry pipeline).1 with
  | error error => simp [Except.toOption]
  | ok copied => simp [Except.toOption]

/-- What is listed of a group are its first pending entries. -/
theorem take_pendingIds {count : Nat} {entries : List PendingEntry}
    (answered : (service.pending stream group count).1 = .ok entries) :
    (service.store.pendingIds stream group).take count = entries.map PendingEntry.id := by
  rcases (service.pending_cases stream group count).2 with ⟨error, failed⟩ | ⟨held, member, told⟩
  · cases failed.symm.trans answered
  · obtain rfl := Except.ok.inj (told.symm.trans answered)
    rw [Store.pendingIds, member, ids_listed_group]

theorem list_worked {set : ConsumerSet} {count : Nat} :
    ((Request.pending set.stream set.group count).attempt pipeline.service).failed = false ↔
      ∃ entries reached, pipeline.ask (fun service =>
        service.pending set.stream set.group count) = (.ok entries, reached) := by
  rw [Request.failed_attempt]
  constructor
  · rintro ⟨entries, answered⟩
    exact ⟨entries, _, Prod.ext answered rfl⟩
  · rintro ⟨entries, reached, asked⟩
    exact ⟨entries, (Pipeline.of_ask asked).1⟩

/-- A run rescues what it copies at some moment. -/
theorem rescues_iff_copies (forced : cleaner.settings.ackStalePending = true)
    (enabled : cleaner.settings.deadLetterEnabled = true) :
    cleaner.Rescues threshold pipeline stream id ↔ cleaner.Copies pipeline stream id := by
  constructor
  · rintro ⟨set, first, rest, member, rfl, listed, -, attempt, among, worked, letter⟩
    obtain ⟨before, after, split, turn⟩ := (mem_runTurns_pending enabled).mp member
    obtain ⟨others, told, copied⟩ :=
      trail_treating forced enabled set (cleaner.afterSets pipeline before)
    rw [← cleaner.wall_afterSets pipeline before, told] at turn
    obtain ⟨rfl, rfl⟩ := List.cons.inj turn
    obtain ⟨entries, reached, asked⟩ := list_worked.mp listed
    obtain ⟨earlier, entry, later, rfl, own⟩ := (mem_trail_copyingAll entries).mp
      ((copied entries reached asked attempt letter.acknowledges).mp among)
    obtain ⟨same, made⟩ := exists_letter_copying.mp ⟨attempt, own, worked, letter⟩
    refine ⟨set, entry, _, .intro split asked, rfl, same, deadLetter_iff_copying.mpr ?_⟩
    rw [wall_deadLetterAll]
    exact made
  · rintro ⟨set, entry, _, copying, rfl, rfl, made⟩
    cases copying with
    | @intro before after _ earlier later _ reached split asked =>
      obtain ⟨rest, told, copied⟩ :=
        trail_treating forced enabled set (cleaner.afterSets pipeline before)
      refine ⟨set, _, rest, (mem_runTurns_pending enabled).mpr ⟨before, after, split, ?_⟩, rfl,
        list_worked.mpr ⟨_, reached, asked⟩, ?_, ?_⟩
      · rw [← cleaner.wall_afterSets pipeline before, told]
      · rw [Request.attempt, take_pendingIds (Pipeline.of_ask asked).1, List.map_append,
          List.map_cons]
        exact List.mem_append_right _ List.mem_cons_self
      · rw [deadLetter_iff_copying, wall_deadLetterAll] at made
        obtain ⟨attempt, own, worked, letter⟩ := exists_letter_copying.mpr ⟨rfl, made⟩
        refine ⟨attempt, (copied _ reached asked attempt letter.acknowledges).mpr ?_, worked,
          letter⟩
        exact (mem_trail_copyingAll _).mpr ⟨earlier, entry, later, rfl, own⟩

/-- The turns of consumer sets leave alone a group that is not theirs. -/
theorem group?_runPending {sets : List ConsumerSet}
    (others : ∀ set ∈ sets, ¬ (set.stream = stream ∧ set.group = group))
    (state : CleanupReport × Pipeline) :
    (cleaner.runPending sets state).2.service.store.group? stream group =
      state.2.service.store.group? stream group := by
  induction sets generalizing state with
  | nil => rfl
  | cons set rest inductionHypothesis =>
    obtain ⟨own, later⟩ := List.forall_mem_cons.mp others
    have performs := cleaner.performs_acknowledgePending set state.2
    have makes : (cleaner.treating state.2.wall set).Makes
        fun request => ¬ request.call.Concerns stream group :=
      cleaner.makes_treating id (fun _ => id) (fun _ _ => id) (fun _ => own) state.2.wall
    have still := makes.group?_run state.2.service
    rw [performs.run] at still
    rw [runPending, inductionHypothesis later, service_settle]
    exact still

/-- A run rescues an entry among the first pending ones of a group, as many as a batch holds, if no
request fails on which its copy depends. -/
theorem rescues_of_unrefused (forced : cleaner.settings.ackStalePending = true)
    (enabled : cleaner.settings.deadLetterEnabled = true) {cutoff : StreamId}
    (ahead : cleaner.CopiesAhead pipeline cutoff) {set : ConsumerSet}
    (member : set ∈ cleaner.consumers) {fields : Fields}
    (present : pipeline.fieldsAt? set.stream id = some fields)
    (early : id ∈ (pipeline.service.store.pendingIds set.stream set.group).take
      cleaner.settings.pendingBatch)
    (unrefused : ∀ other attempt, (.pending other, attempt) ∈ cleaner.requests threshold pipeline →
      other.stream = set.stream → other.group = set.group →
        cleaner.CopyRequest other id attempt.request → attempt.failed = false) :
    cleaner.Rescues threshold pipeline set.stream id := by
  -- the first set of this stream and group treats the group as it was at the start
  obtain ⟨first, found⟩ : ∃ first, cleaner.consumers.find? (fun other =>
      decide (other.stream = set.stream ∧ other.group = set.group)) = some first := by
    refine Option.ne_none_iff_exists'.mp fun none => ?_
    exact List.find?_eq_none.mp none set member (decide_eq_true ⟨rfl, rfl⟩)
  obtain ⟨same, before, after, split, others⟩ := List.find?_eq_some_iff_append.mp found
  obtain ⟨sameStream, sameGroup⟩ := of_decide_eq_true same
  have group : (cleaner.afterSets pipeline before).service.store.group? set.stream set.group =
      pipeline.service.store.group? set.stream set.group := by
    refine group?_runPending (fun other listed equal => ?_) ({}, pipeline)
    have never := others other listed
    rw [decide_eq_true equal] at never
    cases never
  obtain ⟨rest, told, copied⟩ :=
    trail_treating forced enabled first (cleaner.afterSets pipeline before)
  rw [wall_afterSets] at told
  have made : ∀ attempt ∈ (cleaner.treating pipeline.wall first).trail
      (cleaner.afterSets pipeline before).service,
      cleaner.CopyRequest first id attempt.request → attempt.failed = false := by
    intro attempt asked
    have turn : (.pending first, _) ∈ cleaner.runTurns threshold pipeline :=
      (mem_runTurns_pending enabled).mpr ⟨before, after, split, rfl⟩
    exact unrefused first attempt
      (List.mem_flatMap.mpr ⟨_, turn, List.mem_map_of_mem asked⟩) sameStream sameGroup
  rw [told] at made
  obtain ⟨entries, reached, asked⟩ := list_worked.mp (made _ List.mem_cons_self .list)
  have listed : id ∈ entries.map PendingEntry.id := by
    rw [← take_pendingIds (Pipeline.of_ask asked).1, sameStream, sameGroup, Store.pendingIds, group]
    exact early
  obtain ⟨entry, among, rfl⟩ := List.mem_map.mp listed
  obtain ⟨earlier, later, rfl⟩ := List.append_of_mem among
  rw [← sameStream] at present
  have start := grows_afterSets forced enabled ahead [] before (first :: after) split
  have within := grows_deadLetterAll ahead split [] earlier (entry :: later) asked
  have there := within.kept _ _ _
    ((fieldsAt?_of_pending asked _ _).trans (start.kept _ _ _ present))
  refine (rescues_iff_copies forced enabled).mpr ⟨first, entry, _, .intro split asked, sameStream,
    rfl, deadLetter_iff_copying.mpr ?_⟩
  refine copying_of_unrefused there fun attempt own copies => ?_
  rw [wall_deadLetterAll] at own
  refine made attempt (List.mem_cons_of_mem _ ?_) copies
  exact (copied _ reached asked attempt copies.acknowledges).mpr
    ((mem_trail_copyingAll _).mpr ⟨earlier, entry, later, rfl, own⟩)

/-! ### Discarded entries -/

/-- What is looked up for a deletion are the first entries up to the cutoff. -/
theorem ids_of_range {spared count : Nat} {cutoff : StreamId} {records : List Streams.Record}
    (answered : (service.range stream .least cutoff count).1 = .ok records) :
    (records.drop spared).map Streams.Record.id =
      (((((service.store.content? stream).getD .empty).entries.upTo cutoff).map
        Prod.fst).take count).drop spared := by
  rcases (service.range_cases stream .least cutoff count).2 with ⟨error, failed⟩ | told
  · cases failed.symm.trans answered
  · obtain rfl := Except.ok.inj (told.symm.trans answered)
    rw [List.map_drop, ids_listed, IdMap.between_least, List.map_take]

/-- A turn that deletes first looks up entries, and if this works it deletes those not spared. -/
theorem trail_deleting (cleaner : Cleaner) (spared : Nat) (stream : String) (cutoff : StreamId)
    (service : Service) :
    ∃ rest, (cleaner.deleting spared stream cutoff).trail service =
        (Request.range stream .least cutoff cleaner.settings.deleteBatch).attempt service :: rest ∧
      ∀ records,
        (service.range stream .least cutoff cleaner.settings.deleteBatch).1 = .ok records →
        (records.drop spared).map Streams.Record.id ≠ [] →
        rest = [(Request.delete stream ((records.drop spared).map Streams.Record.id)).attempt
          (service.range stream .least cutoff cleaner.settings.deleteBatch).2] := by
  rw [deleting, Errand.trail]
  refine ⟨_, rfl, fun records answered some => ?_⟩
  have looked : ((Request.range stream .least cutoff cleaner.settings.deleteBatch).make
      service).1.toOption = Option.some records := congrArg Except.toOption answered
  rw [looked]
  dsimp only
  rw [if_neg (by rwa [List.isEmpty_iff]), Errand.trail, Errand.trail]
  rfl

/-- What is deleted up to a cutoff is what a turn deletes in which no request fails. -/
theorem deletes_iff {spared : Nat} {cutoff : StreamId} :
    cleaner.Deletes spared stream cutoff pipeline id ↔
      ∃ first rest, (cleaner.deleting spared stream cutoff).trail pipeline.service =
          first :: rest ∧
        (∀ attempt ∈ first :: rest, attempt.failed = false) ∧
        id ∈ (((((first.before.content? stream).getD .empty).entries.upTo cutoff).map
          Prod.fst).take cleaner.settings.deleteBatch).drop spared := by
  obtain ⟨rest, trail, deletion⟩ := cleaner.trail_deleting spared stream cutoff pipeline.service
  constructor
  · rintro ⟨records, read, count, left, listed, deleted, member⟩
    obtain ⟨answered, rfl⟩ := Pipeline.of_ask listed
    obtain rfl := deletion records answered (List.ne_nil_of_mem member)
    refine ⟨_, _, trail, ?_, ids_of_range answered ▸ member⟩
    refine List.forall_mem_cons.mpr ⟨Request.failed_attempt.mpr ⟨records, answered⟩, ?_⟩
    exact List.forall_mem_singleton.mpr
      (Request.failed_attempt.mpr ⟨count, (Pipeline.of_ask deleted).1⟩)
  · rintro ⟨first, others, told, worked, member⟩
    obtain ⟨rfl, rfl⟩ := List.cons.inj (trail.symm.trans told)
    obtain ⟨read, worked⟩ := List.forall_mem_cons.mp worked
    obtain ⟨records, answered⟩ := Request.failed_attempt.mp read
    have listed : id ∈ (records.drop spared).map Streams.Record.id :=
      ids_of_range answered ▸ member
    rw [deletion records answered (List.ne_nil_of_mem listed), List.forall_mem_singleton] at worked
    obtain ⟨count, deleted⟩ := Request.failed_attempt.mp worked
    exact ⟨records, _, count, _, Prod.ext answered rfl, Prod.ext deleted rfl, listed⟩

/-- A run discards what it removes at some moment. -/
theorem discards_iff_removes (enabled : cleaner.settings.deadLetterEnabled = true) :
    cleaner.Discards threshold pipeline stream id ↔
      cleaner.Removes threshold pipeline stream id := by
  constructor
  · rintro ⟨part, spared, first, rest, deletion, member, worked, listed⟩
    cases deletion with
    | expired =>
      obtain ⟨before, after, split, turn⟩ := (mem_runTurns_expired enabled).mp member
      exact Or.inl ⟨before, after, split,
        deletes_iff.mpr ⟨first, rest, turn.symm, worked, listed⟩⟩
    | letters source =>
      obtain ⟨before, after, split, turn⟩ := (mem_runTurns_letters enabled).mp member
      exact Or.inr ⟨before, source, after, split, rfl,
        deletes_iff.mpr ⟨first, rest, turn.symm, worked, listed⟩⟩
  · rintro (⟨before, after, split, deletes⟩ | ⟨before, source, after, split, rfl, deletes⟩)
    · obtain ⟨first, rest, turn, worked, listed⟩ := deletes_iff.mp deletes
      exact ⟨_, _, first, rest, .expired stream,
        (mem_runTurns_expired enabled).mpr ⟨before, after, split, turn.symm⟩, worked, listed⟩
    · obtain ⟨first, rest, turn, worked, listed⟩ := deletes_iff.mp deletes
      exact ⟨_, _, first, rest, .letters source,
        (mem_runTurns_letters enabled).mpr ⟨before, after, split, turn.symm⟩, worked, listed⟩

/-! ### Where no call fails -/

/-- The requests by which pending entries are copied. -/
inductive IsCopying : Request → Prop
  | range (stream : String) (start stop : StreamId) (count : Nat) :
    IsCopying (.range stream start stop count)
  | append (now : UInt64) (stream : String) (fields : List (String × String)) :
    IsCopying (.append now stream fields)

/-- Where no call fails, reads and appends do not. -/
theorem worked_of_working {Value : Type} {errand : Errand Value}
    (makes : errand.Makes IsCopying) (working : service.Working) :
    ∀ attempt ∈ errand.trail service, attempt.failed = false := by
  induction errand generalizing service with
  | done value => exact fun _ never => absurd never List.not_mem_nil
  | ask request next inductionHypothesis =>
    obtain ⟨answered, still⟩ : (∃ answer, (request.make service).1 = .ok answer) ∧
        (request.make service).2.Working := by
      cases makes.1 with
      | range stream start stop count =>
        have read := Streams.Service.range_of_working working stream start stop count
        exact ⟨⟨_, congrArg Prod.fst read⟩, (congrArg Prod.snd read).symm ▸ working⟩
      | append now stream fields =>
        obtain ⟨appended, still, -⟩ :=
          Streams.Service.append_of_working working now stream fields
        exact ⟨appended, still⟩
    exact List.forall_mem_cons.mpr
      ⟨Request.failed_attempt.mpr answered, inductionHypothesis _ (makes.2 _) still⟩

/-- Where no call fails, none does on which the copy of a pending entry depends. -/
theorem unrefused_of_working (forced : cleaner.settings.ackStalePending = true)
    (enabled : cleaner.settings.deadLetterEnabled = true) (working : pipeline.service.Working)
    (pending : id ∈ pipeline.service.store.pendingIds stream group) (other : ConsumerSet)
    (attempt : Attempt)
    (member : (.pending other, attempt) ∈ cleaner.requests threshold pipeline)
    (sameStream : other.stream = stream) (sameGroup : other.group = group)
    (copies : cleaner.CopyRequest other id attempt.request) : attempt.failed = false := by
  subst sameStream sameGroup
  obtain ⟨⟨part, turn⟩, listed, asked⟩ := List.mem_flatMap.mp member
  obtain ⟨_, asked, same⟩ := List.mem_map.mp asked
  cases same
  obtain ⟨before, after, split, rfl⟩ := (mem_runTurns_pending enabled).mp listed
  have leads := (leads_runPending (fun set early => split ▸ List.mem_append_left _ early)
    ({}, pipeline) : Leads cleaner.CopyCall pipeline (cleaner.afterSets pipeline before)).mono
      fun _ => CleanupCall.copy
  have still := working_of_leads leads working
  -- the group is still there when the set has its turn
  obtain ⟨held, there⟩ : ∃ held,
      pipeline.service.store.group? other.stream other.group = some held := by
    rw [Store.pendingIds] at pending
    cases there : pipeline.service.store.group? other.stream other.group with
    | none =>
      rw [there] at pending
      cases pending
    | some held => exact ⟨held, rfl⟩
  obtain ⟨found, own, -⟩ := few_of_leads leads ⟨held, there, Nat.le_refl _⟩
  have lists := ask_pending_of_answers still.2
    (Streams.Service.answers_of_working still .pending other.stream) own
    cleaner.settings.pendingBatch
  obtain ⟨rest, told, copied⟩ :=
    trail_treating forced enabled other (cleaner.afterSets pipeline before)
  rw [← cleaner.wall_afterSets pipeline before, told] at asked
  rcases List.mem_cons.mp asked with rfl | later
  · exact list_worked.mpr ⟨_, _, lists⟩
  · have makes (wall : Instant) (entries : List PendingEntry) :
        (cleaner.releasing wall other.stream other.group entries).Makes IsCopying :=
      cleaner.makes_releasing (fun _ => .range ..) (fun _ _ => .append ..) wall other.group entries
    simp only [releasing, if_pos enabled] at makes
    exact worked_of_working (makes _ _) still attempt
      ((copied _ _ lists attempt copies.acknowledges).mp later)

/-! ### Whole runs -/

/-- After a run an entry is in its stream as it was, or a new dead letter names it, exactly if the
run rescued the entry or did not discard it. It discards no entry behind the cutoff, and it rescues
the first pending entries of a group, as many as its batch holds, unless a request fails on which
their copies depend. None does where no call fails. -/
theorem kept_or_copied_iff {cleaner : Cleaner} {pipeline ended : Pipeline}
    {now threshold : Instant} {report : CleanupReport}
    (forced : cleaner.settings.ackStalePending = true)
    (enabled : cleaner.settings.deadLetterEnabled = true)
    (limit : cleaner.threshold? now = some threshold)
    (ran : cleaner.run? now pipeline = some (report, ended))
    (ahead : cleaner.CopiesAhead pipeline (.cutoff threshold)) {set : ConsumerSet}
    (member : set ∈ cleaner.consumers) {id : StreamId} {fields : Fields}
    (present : pipeline.fieldsAt? set.stream id = some fields) :
    ((ended.fieldsAt? set.stream id = some fields ∨
        ∃ place letter,
          pipeline.fieldsAt? (cleaner.settings.deadLetterStream set.stream) place ≠ some letter ∧
          ended.fieldsAt? (cleaner.settings.deadLetterStream set.stream) place = some letter ∧
          letter.get? deadLetterNames.sourceId = some id.display) ↔
      cleaner.Rescues threshold pipeline set.stream id ∨
        ¬ cleaner.Discards threshold pipeline set.stream id) ∧
    (.cutoff threshold < id → ¬ cleaner.Discards threshold pipeline set.stream id) ∧
    (id ∈ (pipeline.service.store.pendingIds set.stream set.group).take
        cleaner.settings.pendingBatch →
      (∀ other attempt, (.pending other, attempt) ∈ cleaner.requests threshold pipeline →
        other.stream = set.stream → other.group = set.group →
          cleaner.CopyRequest other id attempt.request → attempt.failed = false) →
      cleaner.Rescues threshold pipeline set.stream id) ∧
    (pipeline.service.Working →
      id ∈ (pipeline.service.store.pendingIds set.stream set.group).take
        cleaner.settings.pendingBatch →
      cleaner.Rescues threshold pipeline set.stream id) := by
  refine ⟨?_, ?_, rescues_of_unrefused forced enabled ahead member present, ?_⟩
  · rw [rescues_iff_copies forced enabled, discards_iff_removes enabled]
    exact kept_or_lettered_iff forced enabled limit ran ahead present
  · rw [discards_iff_removes enabled]
    exact not_removes_of_lt
  · intro working early
    exact rescues_of_unrefused forced enabled ahead member present early
      (unrefused_of_working forced enabled working (List.mem_of_mem_take early))

end Cleaner

/-- What the hasty cleanup leaves of the pipeline. -/
def cleared : Pipeline :=
  (hasty.runFor ⟨3456000, 0⟩ overdue).2

theorem threshold_hasty : hasty.threshold? ⟨8640000, 0⟩ = some ⟨3456000, 0⟩ := by decide

theorem run_hasty : hasty.run? ⟨8640000, 0⟩ overdue =
    some ((hasty.runFor ⟨3456000, 0⟩ overdue).1, cleared) :=
  congrArg (Option.map fun threshold => hasty.runFor threshold overdue) threshold_hasty

theorem copiesAhead_hasty : hasty.CopiesAhead overdue (.cutoff ⟨3456000, 0⟩) := by
  intro set entry reached copying _
  cases copying with
  | @intro before after _ earlier later _ reached turn listed =>
    obtain ⟨rfl, rfl, rfl⟩ : before = [] ∧ set = ⟨"orders", "audit", "worker", 1⟩ ∧ after = [] := by
      cases before with
      | nil => exact ⟨rfl, (List.cons.inj turn).1.symm, (List.cons.inj turn).2.symm⟩
      | cons first rest => exact absurd (List.cons.inj turn).2 (by simp)
    obtain ⟨told, reachedEq⟩ := Pipeline.of_ask listed
    have one : ([⟨⟨6, 0⟩, "worker", 1⟩] : List PendingEntry) = earlier ++ entry :: later :=
      Except.ok.inj told
    obtain rfl : earlier = [] := by
      cases earlier with
      | nil => rfl
      | cons first rest => exact absurd (List.cons.inj one).2 (by simp)
    rw [reachedEq]
    exact ⟨by decide, fun id member => absurd member List.not_mem_nil⟩

/-- The entry that is copied in time is not lost. -/
theorem first_overdue_is_copied :
    hasty.settings.ackStalePending = true ∧ hasty.settings.deadLetterEnabled = true ∧
      hasty.threshold? ⟨8640000, 0⟩ = some ⟨3456000, 0⟩ ∧
      hasty.run? ⟨8640000, 0⟩ overdue = some ((hasty.runFor ⟨3456000, 0⟩ overdue).1, cleared) ∧
      hasty.CopiesAhead overdue (.cutoff ⟨3456000, 0⟩) ∧
      (⟨"orders", "audit", "worker", 1⟩ : ConsumerSet) ∈ hasty.consumers ∧
      overdue.fieldsAt? "orders" ⟨6, 0⟩ = some (.ofList [("type", "second")]) ∧
      hasty.Rescues ⟨3456000, 0⟩ overdue "orders" ⟨6, 0⟩ ∧
      cleared.fieldsAt? "orders" ⟨6, 0⟩ = none ∧
      ∃ place letter, cleared.fieldsAt? "orders:dlq" place = some letter ∧
        letter.get? deadLetterNames.sourceId = some (StreamId.display ⟨6, 0⟩) := by
  have kept := @Cleaner.kept_or_copied_iff hasty overdue cleared ⟨8640000, 0⟩ ⟨3456000, 0⟩
    (hasty.runFor ⟨3456000, 0⟩ overdue).1 rfl rfl threshold_hasty run_hasty copiesAhead_hasty
    ⟨"orders", "audit", "worker", 1⟩ List.mem_cons_self ⟨6, 0⟩ _ rfl
  have fine : ((hasty.requests ⟨3456000, 0⟩ overdue).all fun entry => !entry.2.failed) = true := rfl
  have rescued := kept.2.2.1 (by decide) fun other attempt asked _ _ _ =>
    Bool.not_eq_true' _ |>.mp (List.all_eq_true.mp fine (.pending other, attempt) asked)
  have gone : cleared.fieldsAt? "orders" ⟨6, 0⟩ = none := rfl
  refine ⟨rfl, rfl, threshold_hasty, run_hasty, copiesAhead_hasty, List.mem_cons_self, rfl, rescued,
    gone, ?_⟩
  rcases kept.1.mpr (Or.inl rescued) with there | ⟨place, letter, -, there, names⟩
  · rw [gone] at there
    cases there
  · exact ⟨place, letter, there, names⟩

/-- An entry that is not among the copied ones is deleted all the same. -/
theorem second_overdue_is_lost :
    hasty.run? ⟨8640000, 0⟩ overdue = some ((hasty.runFor ⟨3456000, 0⟩ overdue).1, cleared) ∧
      hasty.settings.ackStalePending = true ∧ hasty.settings.deadLetterEnabled = true ∧
      overdue.service.Working ∧
      overdue.fieldsAt? "orders" ⟨7, 0⟩ = some (.ofList [("type", "third")]) ∧
      ⟨7, 0⟩ ∈ overdue.service.store.pendingIds "orders" "audit" ∧
      (∀ place ∈ (hasty.letters cleared "orders").entries.ids,
        StreamId.cutoff ⟨3456000, 0⟩ < place) ∧
      cleared.fieldsAt? "orders" ⟨7, 0⟩ = none ∧
      ∀ place letter, cleared.fieldsAt? (hasty.settings.deadLetterStream "orders") place =
        some letter → letter.get? deadLetterNames.sourceId ≠ some (StreamId.display ⟨7, 0⟩) := by
  have places : (hasty.letters cleared "orders").entries.ids = [⟨8640000000, 0⟩] := rfl
  refine ⟨run_hasty, rfl, rfl, ⟨rfl, rfl⟩, rfl, by decide, ?_, rfl, ?_⟩
  · rw [places]
    decide
  · intro place letter present names
    have member := hasty.mem_letters present
    rw [places] at member
    obtain rfl := List.mem_singleton.mp member
    have source : (cleared.fieldsAt? (hasty.settings.deadLetterStream "orders")
      ⟨8640000000, 0⟩).bind (·.get? deadLetterNames.sourceId) =
        some (StreamId.display ⟨6, 0⟩) := rfl
    rw [present, Option.bind_some, names] at source
    exact absurd (StreamId.display_injective (Option.some.inj source)) (by decide)

end Retention

end AccessFeed
