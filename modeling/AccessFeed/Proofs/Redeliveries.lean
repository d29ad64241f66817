/-
This file proves that it does not matter how often a record is handled.

What the handler of access events answers to a record is decided by its fields
and the categories, not by what is kept: a record is refused with one and the
same error, or kept, by every archive of these categories. A refusal changes
nothing, and neither does keeping a record under whose id a row stands. So in
whichever order records are handled, and however often, the rows at the end are
those of the start and one for each id that was handled with success, as it was
when this happened first.
-/

import AccessFeed.Proofs.EventMaps
import AccessFeed.Proofs.Publications

namespace AccessFeed

open Archive (CategoryRow CategoryTable EventRows KeptEvent)
open Calendar (Instant)
open Event (EventType HandlerError Payload)
open Streams (Fields Record StreamId)

/-! ### Handling a record -/

/-- A record that is handed to the handler of access events, and all of the pipeline but the archive
as it is at that moment. -/
structure Handover where
  record : Record
  around : Pipeline

namespace Handover

/-- Handles the record where the archive is as given. -/
def handle (handover : Handover) (archive : Archive) : Except HandlerError Unit × Archive :=
  let (answer, left) := { handover.around with archive }.handleAccess handover.record
  (answer, left.archive)

/-- The id under which the record is kept. -/
def key (handover : Handover) : String :=
  handover.record.id.display

end Handover

namespace Archive

/-- Whether an archive has some categories, and none of the calls of the handler fails there. -/
structure Serves (archive : Archive) (categories : CategoryTable) : Prop where
  categories : archive.categories = categories
  finds : archive.Answers .findCode
  creates : archive.Answers .create

/-- The archive after records were handled one after the other. -/
def afterHandling (archive : Archive) (handovers : List Handover) : Archive :=
  handovers.foldl (fun archive handover => (handover.handle archive).2) archive

/-- What the handler answers to records that it handles one after the other. -/
def verdicts (archive : Archive) : List Handover → List (Except HandlerError Unit)
  | [] => []
  | handover :: rest =>
    (handover.handle archive).1 :: verdicts (handover.handle archive).2 rest

theorem afterHandling_append (archive : Archive) (first second : List Handover) :
    archive.afterHandling (first ++ second) =
      (archive.afterHandling first).afterHandling second :=
  List.foldl_append

/-- The archive with an event kept, unless a row stands under its id. -/
def keep (archive : Archive) (now : Instant) (event : NewEvent) : Archive :=
  { archive with events := (archive.events.create now event).2 }

theorem keep_of_present {archive : Archive} {event : NewEvent} {row : KeptEvent}
    (present : archive.events.get? event.sourceId = some row) (now : Instant) :
    archive.keep now event = archive := by
  rw [keep, EventRows.create_of_present present]

end Archive

namespace Pipeline

variable {pipeline : Pipeline} {payload : Payload} {record : Record} {row : CategoryRow}

theorem creationTime_fst (pipeline : Pipeline) (payload : Payload) (record : Record) :
    (pipeline.creationTime payload record).1 =
      payload.createdInstant?.getD (record.appendTime pipeline.wall) := by
  rw [creationTime]
  cases payload.createdInstant? <;> rfl

theorem creationTime_wall (pipeline : Pipeline) (payload : Payload) (record : Record) :
    (pipeline.creationTime payload record).2.wall = pipeline.wall := by
  rw [creationTime]
  cases payload.createdInstant? <;> rfl

/-- A payload with the status of a response is kept. -/
theorem keepPayload_of_status (status : isHttpStatus payload.responseStatus = true)
    (answers : pipeline.archive.Answers .create) :
    (pipeline.keepPayload payload record row).1 = .ok () ∧
      (pipeline.keepPayload payload record row).2.archive =
        pipeline.archive.keep pipeline.wall (payload.toNewEvent record row
          (payload.createdInstant?.getD (record.appendTime pipeline.wall))) := by
  obtain ⟨_, archive⟩ := pipeline.creationTime_state payload record
  have wall := pipeline.creationTime_wall payload record
  rw [keepPayload, if_pos status, ← pipeline.creationTime_fst payload record, ← wall]
  generalize pipeline.creationTime payload record = timed at archive ⊢
  obtain ⟨createdAt, timed⟩ := timed
  dsimp only [look] at archive ⊢
  rw [archive, Archive.create_of_answers answers]
  exact ⟨rfl, rfl⟩

end Pipeline

namespace Handover

/-- A record is refused with the same error by every archive of some categories, or kept by every
one. -/
theorem handle_cases (handover : Handover) (categories : CategoryTable) :
    (∃ error, ∀ archive : Archive, archive.Serves categories →
      handover.handle archive = (.error error, archive)) ∨
    ∃ payload row createdAt, Payload.decode handover.record.fields = .ok payload ∧
      ∀ archive : Archive, archive.Serves categories →
        handover.handle archive = (.ok (), archive.keep handover.around.wall
          (payload.toNewEvent handover.record row createdAt)) := by
  cases decoded : Payload.decode handover.record.fields with
  | error fault =>
    refine Or.inl ⟨.parsing fault.message, fun archive _ => ?_⟩
    rw [handle, Pipeline.handleAccess, decoded]
  | ok payload =>
    cases known : Event.Category.ofCode? payload.category with
    | none =>
      refine Or.inl ⟨.categoryNotFound payload.category, fun archive _ => ?_⟩
      rw [handle, Pipeline.handleAccess, decoded]
      dsimp only
      rw [known]
    | some category =>
      -- Looking up the category answers what the table has, and leaves the archive.
      have found (archive : Archive) (serves : archive.Serves categories) :
          archive.findCode category = (.ok (categories.findCode? category), archive) := by
        rw [Archive.findCode, Archive.call_of_answers serves.finds, serves.categories]
      cases held : categories.findCode? category with
      | none =>
        refine Or.inl ⟨.categoryNotFound
          ("AccessCategory not found with code: " ++ payload.category), fun archive serves => ?_⟩
        rw [handle, Pipeline.handleAccess, decoded]
        dsimp only
        rw [known]
        dsimp only [Pipeline.look]
        rw [found archive serves, held]
      | some row =>
        have reached (archive : Archive) (serves : archive.Serves categories) :
            handover.handle archive =
              let answer := { handover.around with archive }.keepPayload payload
                handover.record row
              (answer.1, answer.2.archive) := by
          rw [handle, Pipeline.handleAccess, decoded]
          dsimp only
          rw [known]
          dsimp only [Pipeline.look]
          rw [found archive serves, held]
        by_cases status : isHttpStatus payload.responseStatus = true
        · refine Or.inr ⟨payload, row, payload.createdInstant?.getD
            (handover.record.appendTime handover.around.wall), rfl, fun archive serves => ?_⟩
          obtain ⟨answer, left⟩ := @Pipeline.keepPayload_of_status
            { handover.around with archive } payload handover.record row status serves.creates
          exact (reached archive serves).trans (Prod.ext answer left)
        · refine Or.inl ⟨.validation ("responseStatus " ++
            Text.signedDecimal payload.responseStatus ++ " is not an HTTP status"),
            fun archive serves => ?_⟩
          rw [reached archive serves, Pipeline.keepPayload, if_neg status]

/-- Whether handling a record with some answer leaves one archive of another: as it was after a
refusal and where a row stands under the id of the record, and otherwise with the contents of the
record under its id. -/
structure Leaves (handover : Handover) (before : Archive) (answer : Except HandlerError Unit)
    (after : Archive) : Prop where
  refused : ∀ error, answer = .error error → after = before
  again : ∀ row, before.events.get? handover.key = some row → after = before
  kept : answer = .ok () → ∃ payload row, Payload.decode handover.record.fields = .ok payload ∧
    after.events.get? handover.key = some row ∧
      (before.events.get? handover.key = none → row.Carries payload)
  others : ∀ key, key ≠ handover.key → after.events.get? key = before.events.get? key

variable {archive before after : Archive} {categories : CategoryTable} {handover : Handover}
  {answer : Except HandlerError Unit}

/-- A row that is there stays as it is. -/
theorem Leaves.stays (leaves : handover.Leaves before answer after) {key : String}
    {row : KeptEvent} (present : before.events.get? key = some row) :
    after.events.get? key = some row := by
  by_cases own : key = handover.key
  · rw [leaves.again row (own ▸ present)]
    exact present
  · rw [leaves.others key own]
    exact present

/-- There is a row under an id after a record was handled exactly if there was one before, or the
record has this id and was handled with success. -/
theorem Leaves.present_iff (leaves : handover.Leaves before answer after) (key : String) :
    (∃ row, after.events.get? key = some row) ↔
      (∃ row, before.events.get? key = some row) ∨ handover.key = key ∧ answer = .ok () := by
  constructor
  · rintro ⟨row, present⟩
    by_cases own : key = handover.key
    · cases answer with
      | ok done => exact Or.inr ⟨own.symm, rfl⟩
      | error error => exact Or.inl ⟨row, leaves.refused error rfl ▸ present⟩
    · exact Or.inl ⟨row, (leaves.others key own).symm.trans present⟩
  · rintro (⟨row, present⟩ | ⟨rfl, succeeded⟩)
    · exact ⟨row, leaves.stays present⟩
    · obtain ⟨_, row, _, present, _⟩ := leaves.kept succeeded
      exact ⟨row, present⟩

/-- What the handler answers to a record does not depend on the rows. -/
theorem answer_eq (handover : Handover) {one other : Archive} (serves : one.Serves categories)
    (alsoServes : other.Serves categories) :
    (handover.handle one).1 = (handover.handle other).1 := by
  rcases handover.handle_cases categories with ⟨error, refused⟩ | ⟨payload, row, createdAt, _, kept⟩
  · rw [refused one serves, refused other alsoServes]
  · rw [kept one serves, kept other alsoServes]

theorem leaves_handle (handover : Handover) (serves : archive.Serves categories) :
    handover.Leaves archive (handover.handle archive).1 (handover.handle archive).2 := by
  rcases handover.handle_cases categories with
    ⟨error, refused⟩ | ⟨payload, row, createdAt, decoded, keeps⟩
  · rw [refused archive serves]
    exact {
      refused := fun _ _ => rfl
      again := fun _ _ => rfl
      kept := fun impossible => by cases impossible
      others := fun _ _ => rfl }
  · rw [keeps archive serves]
    obtain ⟨kept, same, told⟩ := archive.events.get?_create handover.around.wall
      (payload.toNewEvent handover.record row createdAt)
    have own := (told handover.key).trans (if_pos rfl)
    refine {
      refused := fun _ impossible => by cases impossible
      again := fun _ present => Archive.keep_of_present present _
      kept := fun _ => ⟨payload, _, decoded, own, fun free => ?_⟩
      others := fun key other => (told key).trans (if_neg other) }
    rw [free, Option.getD_none]
    constructor <;> rw [same] <;> rfl

theorem serves_handle (handover : Handover) (serves : archive.Serves categories) :
    (handover.handle archive).2.Serves categories := by
  rcases handover.handle_cases categories with ⟨error, refused⟩ | ⟨payload, row, createdAt, _, kept⟩
  · rw [refused archive serves]
    exact serves
  · rw [kept archive serves]
    exact ⟨serves.categories, serves.finds, serves.creates⟩

theorem keyed_handle (handover : Handover) (serves : archive.Serves categories)
    (keyed : archive.events.Keyed) : (handover.handle archive).2.events.Keyed := by
  rcases handover.handle_cases categories with ⟨error, refused⟩ | ⟨payload, row, createdAt, _, kept⟩
  · rw [refused archive serves]
    exact keyed
  · rw [kept archive serves]
    exact keyed.perform handover.around.wall (.create _)

end Handover

/-! ### Handling records one after the other -/

namespace Archive

variable {archive : Archive} {categories : CategoryTable}

/-- Handling records leaves an archive of the same categories with the rows it had, each id having
one row at most. -/
theorem Serves.afterHandling (serves : archive.Serves categories) (keyed : archive.events.Keyed)
    (handovers : List Handover) :
    (archive.afterHandling handovers).Serves categories ∧
      (archive.afterHandling handovers).events.Keyed ∧
        ∀ key row, archive.events.get? key = some row →
          (archive.afterHandling handovers).events.get? key = some row := by
  induction handovers generalizing archive with
  | nil => exact ⟨serves, keyed, fun _ _ => id⟩
  | cons handover rest inductionHypothesis =>
    obtain ⟨stillServes, stillKeyed, stays⟩ := inductionHypothesis (handover.serves_handle serves)
      (handover.keyed_handle serves keyed)
    exact ⟨stillServes, stillKeyed, fun key row present =>
      stays key row ((handover.leaves_handle serves).stays present)⟩

/-- Each record is answered as any other archive of these categories would answer it. -/
theorem Serves.verdicts_eq {other : Archive} (serves : archive.Serves categories)
    (otherServes : other.Serves categories) (handovers : List Handover) :
    archive.verdicts handovers = handovers.map fun handover => (handover.handle other).1 := by
  induction handovers generalizing archive with
  | nil => rfl
  | cons handover rest inductionHypothesis =>
    rw [verdicts, List.map_cons, handover.answer_eq serves otherServes,
      inductionHypothesis (handover.serves_handle serves)]

/-- The ids with rows are those that had one and those handled with success. -/
theorem Serves.present_iff {other : Archive} (serves : archive.Serves categories)
    (otherServes : other.Serves categories) (handovers : List Handover) (key : String) :
    (∃ row, (archive.afterHandling handovers).events.get? key = some row) ↔
      (∃ row, archive.events.get? key = some row) ∨
        ∃ handover ∈ handovers, handover.key = key ∧ (handover.handle other).1 = .ok () := by
  induction handovers generalizing archive with
  | nil => simp [Archive.afterHandling]
  | cons handover rest inductionHypothesis =>
    have first := (handover.leaves_handle serves).present_iff key
    rw [handover.answer_eq serves otherServes] at first
    rw [List.exists_mem_cons_iff, ← or_assoc, ← first]
    exact inductionHypothesis (handover.serves_handle serves)

end Archive

theorem Archive.EventRows.mem_keys_iff (rows : EventRows) (key : String) :
    key ∈ rows.listed.map Prod.fst ↔ ∃ row, rows.get? key = some row := by
  rw [← Option.ne_none_iff_exists', rows.get?_eq, Ne, Table.lookup?_eq_none_iff, not_not]

/-- Where no call on the archive fails, records may be handled in any order and however often: each
is answered as at the start, the rows at the end are those of the start and one for each id that was
handled with success, and handling a record changes no row that is there, nor anything at all where
it is refused or was kept already. -/
theorem Archive.handling_is_idempotent (start : Archive) (keyed : start.events.Keyed)
    (finds : start.Answers .findCode) (creates : start.Answers .create)
    (handovers : List Handover) :
    start.verdicts handovers = handovers.map (fun handover => (handover.handle start).1) ∧
      (start.afterHandling handovers).events.Keyed ∧
      (∀ key, key ∈ (start.afterHandling handovers).events.listed.map Prod.fst ↔
        key ∈ start.events.listed.map Prod.fst ∨
          ∃ handover ∈ handovers, handover.key = key ∧ (handover.handle start).1 = .ok ()) ∧
      (∀ key row, start.events.get? key = some row →
        (start.afterHandling handovers).events.get? key = some row) ∧
      ∀ earlier handover later, handovers = earlier ++ handover :: later →
        let before := start.afterHandling earlier
        let (answer, after) := handover.handle before
        answer = (handover.handle start).1 ∧ handover.Leaves before answer after ∧
          ∀ key row, after.events.get? key = some row →
            (start.afterHandling handovers).events.get? key = some row := by
  have serves : start.Serves start.categories := ⟨rfl, finds, creates⟩
  obtain ⟨_, stillKeyed, stays⟩ := serves.afterHandling keyed handovers
  refine ⟨serves.verdicts_eq serves handovers, stillKeyed, fun key => ?_, stays, ?_⟩
  · rw [EventRows.mem_keys_iff, EventRows.mem_keys_iff]
    exact serves.present_iff serves handovers key
  · rintro earlier handover later rfl
    obtain ⟨reached, reachedKeyed, _⟩ := serves.afterHandling keyed earlier
    obtain ⟨_, _, remains⟩ := (handover.serves_handle reached).afterHandling
      (handover.keyed_handle reached reachedKeyed) later
    rw [start.afterHandling_append earlier (handover :: later)]
    exact ⟨handover.answer_eq reached serves, handover.leaves_handle reached, remains⟩

/-- Records handed over by a pipeline with the default categories: the last is the first once more,
the second has no fields and the third no status of a response. -/
def redelivered : List Handover :=
  [(7, accessFields "/api/orders"), (8, []),
    (9, accessFields "/api/orders" ++ [("responseStatus", "99")]),
    (7, accessFields "/api/orders")].map fun (millis, entries) =>
      ⟨⟨"orders", ⟨millis, 0⟩, .ofList entries⟩, seededPipeline⟩

/-- The first record is handled with success twice and kept once, the others are refused. -/
theorem redelivered_is_kept_once :
    let start := seededPipeline.archive
    start.events.Keyed ∧ start.Answers .findCode ∧ start.Answers .create ∧
      (start.verdicts redelivered).map Except.toBool = [true, false, false, true] ∧
      (start.afterHandling redelivered).events.Keyed ∧
      ∀ key, key ∈ (start.afterHandling redelivered).events.listed.map Prod.fst ↔
        key = StreamId.display ⟨7, 0⟩ := by
  intro start
  have unconcerned (method : Archive.ArchiveMethod) : start.Answers method :=
    fun _ impossible => nomatch impossible
  obtain ⟨answers, keyed, keys, _⟩ := start.handling_is_idempotent EventRows.keyed_table
    (unconcerned .findCode) (unconcerned .create) redelivered
  refine ⟨EventRows.keyed_table, unconcerned .findCode, unconcerned .create, ?_, keyed, ?_⟩
  · rw [answers]
    rfl
  · intro key
    rw [keys]
    constructor
    · rintro (never | ⟨handover, member, rfl, succeeded⟩)
      · cases never
      · simp only [redelivered, List.map_cons, List.map_nil, List.mem_cons, List.not_mem_nil,
          or_false] at member
        -- those of the second and the third id are refused
        rcases member with rfl | rfl | rfl | rfl
        · rfl
        · cases succeeded
        · cases succeeded
        · rfl
    · rintro rfl
      exact Or.inr ⟨_, List.mem_cons_self, rfl, rfl⟩

end AccessFeed
