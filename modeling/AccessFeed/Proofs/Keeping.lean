/-
This file tells which acknowledged events are kept.

Rows are kept under the id of a record alone, and a row that is there is never
replaced. Ids are told apart within a stream but not across streams, so a record
is acknowledged without its event being kept when another record of the same id
came first. The file proves that nothing else can happen: the event of an
acknowledged record is kept, under its id or elsewhere, unless a row stands
under its id that was there at the start or came from another record of this id.
-/

import AccessFeed.Pipeline.Dispatch
import AccessFeed.Proofs.Stores

namespace AccessFeed

open Archive (EventRows EventTable EventTree KeptEvent NewEvent CategoryRow)
open Calendar (Instant)
open Event (EventType HandlerError Payload)
open Streams (Record Store StoreCall StreamId)

/-! ### Rows -/

namespace Archive

/-- Whether a kept event has the contents of a payload. -/
structure KeptEvent.Carries (kept : KeptEvent) (payload : Payload) : Prop where
  userId : kept.event.userId = payload.userId
  endpoint : kept.event.endpoint = payload.endpoint
  httpMethod : kept.event.httpMethod = payload.httpMethod
  responseStatus : kept.event.responseStatus = payload.responseStatus
  ipAddress : kept.event.ipAddress = payload.ipAddress
  userAgent : kept.event.userAgent = payload.userAgent
  methodName : kept.event.methodName = payload.methodName
  inputs : kept.event.inputs = payload.inputs
  outputs : kept.event.outputs = payload.outputs

namespace EventRows

/-- Whether some row has the contents of a payload. -/
def Holds (rows : EventRows) (payload : Payload) : Prop :=
  ∃ key kept, rows.get? key = some kept ∧ kept.Carries payload

end EventRows

theorem EventTree.lookup?_insertRow {key : String} (value : KeptEvent)
    {rows : List (String × KeptEvent)} (absent : Table.lookup? key rows = none)
    (other : String) :
    Table.lookup? other (insertRow key value rows) =
      if other = key then some value else Table.lookup? other rows := by
  induction rows with
  | nil =>
    rw [insertRow, Table.lookup?, Table.lookup?]
    by_cases same : other = key
    · rw [if_pos same, if_pos same.symm]
    · rw [if_neg same, if_neg (Ne.symm same), Table.lookup?]
  | cons row rest inductionHypothesis =>
    obtain ⟨present, held⟩ := row
    rw [Table.lookup?] at absent
    split at absent
    · cases absent
    · rename_i different
      rw [insertRow]
      split
      · rw [Table.lookup?]
        by_cases same : other = key
        · rw [if_pos same, if_pos same.symm]
        · rw [if_neg same, if_neg (Ne.symm same)]
      · rw [Table.lookup?, inductionHypothesis absent, Table.lookup?]
        by_cases same : present = other
        · rw [if_pos same, if_neg fun equal => different (same.trans equal), if_pos same]
        · rw [if_neg same, if_neg same]

theorem getD_of_present {rows : String → Option KeptEvent} {place : String} {row : KeptEvent}
    (present : rows place = some row) (kept : KeptEvent) (key : String) :
    rows key = if key = place then some ((rows key).getD kept) else rows key := by
  by_cases same : key = place
  · rw [if_pos same, same, present, Option.getD_some]
  · rw [if_neg same]

theorem getD_of_absent {rows : String → Option KeptEvent} {place : String}
    (absent : rows place = none) (kept : KeptEvent) (key : String) :
    (if key = place then some kept else rows key) =
      if key = place then some ((rows key).getD kept) else rows key := by
  by_cases same : key = place
  · rw [if_pos same, if_pos same, same, absent, Option.getD_none]
  · rw [if_neg same, if_neg same]

/-- Keeping an event puts a row under its source id where none is, and changes no other row. -/
theorem EventRows.get?_create (rows : EventRows) (now : Instant) (event : NewEvent) :
    ∃ kept : KeptEvent, kept.event = event ∧
      ∀ key, (rows.create now event).2.get? key =
        if key = event.sourceId then some ((rows.get? key).getD kept) else rows.get? key := by
  cases rows with
  | table held =>
    refine ⟨⟨held.nextSerial, event, now⟩, rfl, fun key => ?_⟩
    show (held.create now event).2.rows.get? key =
      if key = event.sourceId then some ((held.rows.get? key).getD _) else held.rows.get? key
    rw [EventTable.create]
    cases found : held.rows.get? event.sourceId with
    | some row => exact getD_of_present found _ key
    | none => exact (Table.get?_set _ _ _ _).trans (getD_of_absent found _ key)
  | tree held =>
    refine ⟨⟨held.nextSerial, event, now⟩, rfl, fun key => ?_⟩
    show (held.create now event).2.get? key =
      if key = event.sourceId then some ((held.get? key).getD _) else held.get? key
    rw [EventTree.create]
    cases found : held.get? event.sourceId with
    | some row => exact getD_of_present found _ key
    | none =>
      exact (EventTree.lookup?_insertRow _ found key).trans (getD_of_absent found _ key)

/-- When a row is kept at a place unless one is there, its contents are among the rows exactly if
the place was free or they were there before. -/
theorem EventRows.holds_iff {before after : EventRows} {place : String} {kept : KeptEvent}
    {payload : Payload} (carries : kept.Carries payload)
    (told : ∀ key, after.get? key =
      if key = place then some ((before.get? key).getD kept) else before.get? key) :
    after.Holds payload ↔ before.get? place = none ∨ before.Holds payload := by
  constructor
  · rintro ⟨key, row, present, same⟩
    rw [told] at present
    by_cases own : key = place
    · rw [if_pos own] at present
      cases held : before.get? key with
      | none => exact Or.inl (own ▸ held)
      | some earlier =>
        rw [held, Option.getD_some] at present
        exact Or.inr ⟨key, row, held.trans present, same⟩
    · rw [if_neg own] at present
      exact Or.inr ⟨key, row, present, same⟩
  · rintro (free | ⟨key, row, present, same⟩)
    · refine ⟨place, kept, ?_, carries⟩
      rw [told, if_pos rfl, free, Option.getD_none]
    · refine ⟨key, row, ?_, same⟩
      rw [told, present, Option.getD_some]
      exact ite_self _

end Archive

/-! ### Calls of an archive -/

namespace Outage

/-- A call that no outage of a plan concerns succeeds and leaves the plan as it is. -/
theorem meet_of_unconcerned {Method Error : Type} [DecidableEq Method] {method : Method}
    {target : Option String} {plan : List (Outage Method Error)}
    (unconcerned : ∀ outage ∈ plan, outage.concerns method target = false) :
    meet method target plan = (none, plan) := by
  induction plan with
  | nil => rfl
  | cons outage rest inductionHypothesis =>
    obtain ⟨first, others⟩ := List.forall_mem_cons.mp unconcerned
    rw [meet, if_neg (by rw [first]; exact Bool.false_ne_true), inductionHypothesis others]

end Outage

/-- Whether no outage of an archive concerns a call of some kind, nor writing out what it
changes. -/
def Archive.Answers (archive : Archive) (method : Archive.ArchiveMethod) : Prop :=
  ∀ outage ∈ archive.outages ++ archive.flushes, outage.concerns method none = false

namespace Archive

variable {archive : Archive} {method : ArchiveMethod} {Value : Type}

theorem call_of_answers (answers : archive.Answers method)
    (operation : Archive → Archive.Reply Value) :
    archive.call method operation = operation archive := by
  rw [call, Outage.meet_of_unconcerned fun outage member =>
    answers outage (List.mem_append_left _ member)]

theorem flush_of_answers (answers : archive.Answers method) (changed : Bool) (value : Value) :
    archive.flush method changed value = (.ok value, archive) := by
  unfold flush
  rw [Outage.meet_of_unconcerned fun outage member =>
    answers outage (List.mem_append_right _ member)]
  split <;> rfl

theorem create_of_answers (answers : archive.Answers .create) (now : Instant) (event : NewEvent) :
    archive.create now event = (.ok (archive.events.create now event).1,
      { archive with events := (archive.events.create now event).2 }) := by
  rw [create, call_of_answers answers]
  have still (events : EventRows) : Archive.Answers { archive with events } .create := answers
  exact flush_of_answers (still _) _ _

/-- A call on an archive fails and changes nothing it keeps, or is made on what it keeps. -/
theorem call_cases (archive : Archive) (method : ArchiveMethod)
    (operation : Archive → Archive.Reply Value) :
    ∃ outages, (∃ failure, archive.call method operation =
        (.error failure, { archive with outages })) ∨
      archive.call method operation = operation { archive with outages } := by
  rw [call]
  generalize Outage.meet method none archive.outages = met
  obtain ⟨error, outages⟩ := met
  cases error with
  | some failure => exact ⟨outages, Or.inl ⟨failure, rfl⟩⟩
  | none => exact ⟨outages, Or.inr rfl⟩

/-- Writing out a change leaves the archive as it is, whether it fails or not. -/
theorem flush_cases (archive : Archive) (method : ArchiveMethod) (changed : Bool) (value : Value) :
    ∃ flushes, (archive.flush method changed value = (.ok value, { archive with flushes })) ∨
      ∃ failure, archive.flush method changed value =
        (.error failure, { archive with flushes }) := by
  unfold flush
  split
  · generalize Outage.meet method none archive.flushes = met
    obtain ⟨error, flushes⟩ := met
    cases error with
    | some failure => exact ⟨flushes, Or.inr ⟨failure, rfl⟩⟩
    | none => exact ⟨flushes, Or.inl rfl⟩
  · exact ⟨archive.flushes, Or.inl rfl⟩

/-- A creation that succeeds keeps the event, and one that fails keeps it or changes no row. -/
theorem create_cases (archive : Archive) (now : Instant) (event : NewEvent) :
    (archive.create now event).2.events = (archive.events.create now event).2 ∨
      (∃ failure, (archive.create now event).1 = .error failure) ∧
        (archive.create now event).2.events = archive.events := by
  rw [create]
  obtain ⟨outages, ⟨failure, refused⟩ | made⟩ := archive.call_cases .create fun archive =>
    { archive with events := (archive.events.create now event).2 }.flush .create
      (!(archive.events.create now event).1.isDuplicate) (archive.events.create now event).1
  · exact Or.inr ⟨⟨failure, congrArg Prod.fst refused⟩,
      congrArg (fun answer => answer.2.events) refused⟩
  · obtain ⟨flushes, written | ⟨failure, written⟩⟩ :=
      flush_cases { archive with outages, events := (archive.events.create now event).2 } .create
        (!(archive.events.create now event).1.isDuplicate) (archive.events.create now event).1
    · exact Or.inl (congrArg (fun answer => answer.2.events) (made.trans written))
    · exact Or.inl (congrArg (fun answer => answer.2.events) (made.trans written))

theorem findCode_events (archive : Archive) (category : Event.Category) :
    (archive.findCode category).2.events = archive.events := by
  obtain ⟨outages, ⟨failure, answered⟩ | answered⟩ := archive.call_cases .findCode fun archive =>
    (.ok (archive.categories.findCode? category), archive)
  · exact congrArg (fun answer => answer.2.events) answered
  · exact congrArg (fun answer => answer.2.events) answered

end Archive

/-! ### Dispatches -/

/-- Whether the rows after a dispatch are those before it, with the contents of the record kept
under its id unless a row was there. -/
def Keeps (record : Record) (before after : EventRows) : Prop :=
  ∃ payload kept, Payload.decode record.fields = .ok payload ∧
    KeptEvent.Carries kept payload ∧
      ∀ key, after.get? key =
        if key = record.id.display then some ((before.get? key).getD kept) else before.get? key

namespace Pipeline

/-- How a pipeline may come out of handling a record: the handlers are the same, and the record is
kept, or the handling fails and the rows are the same. -/
structure Handled (record : Record) (before : Pipeline)
    (answer : Except HandlerError Unit × Pipeline) : Prop where
  handlers : answer.2.handlers = before.handlers
  rows : Keeps record before.archive.events answer.2.archive.events ∨
    answer.1 ≠ .ok () ∧ answer.2.archive.events = before.archive.events

theorem Handled.of_failure {record : Record} {before after : Pipeline} (error : HandlerError)
    (handlers : after.handlers = before.handlers)
    (events : after.archive.events = before.archive.events) :
    Handled record before (.error error, after) where
  handlers := handlers
  rows := Or.inr ⟨fun impossible => (by cases impossible), events⟩

theorem creationTime_state (pipeline : Pipeline) (payload : Payload) (record : Record) :
    (pipeline.creationTime payload record).2.handlers = pipeline.handlers ∧
      (pipeline.creationTime payload record).2.archive = pipeline.archive := by
  rw [creationTime]
  split <;> exact ⟨rfl, rfl⟩

theorem keeps_toNewEvent {payload : Payload} {record : Record}
    (decoded : Payload.decode record.fields = .ok payload) (row : CategoryRow)
    (createdAt now : Instant) (rows : EventRows) :
    Keeps record rows (rows.create now (payload.toNewEvent record row createdAt)).2 := by
  obtain ⟨kept, same, told⟩ := rows.get?_create now (payload.toNewEvent record row createdAt)
  refine ⟨payload, kept, decoded, ?_, told⟩
  constructor <;> rw [same] <;> rfl

theorem handled_keepPayload (pipeline : Pipeline) {payload : Payload} {record : Record}
    (decoded : Payload.decode record.fields = .ok payload) (row : CategoryRow) :
    Handled record pipeline (pipeline.keepPayload payload record row) := by
  rw [keepPayload]
  obtain ⟨handlers, archive⟩ := pipeline.creationTime_state payload record
  generalize pipeline.creationTime payload record = timed at handlers archive ⊢
  obtain ⟨createdAt, timed⟩ := timed
  split
  · simp only [look]
    have cases := timed.archive.create_cases timed.wall (payload.toNewEvent record row createdAt)
    generalize timed.archive.create timed.wall (payload.toNewEvent record row createdAt) = created
      at cases ⊢
    obtain ⟨answer, after⟩ := created
    rcases cases with events | ⟨⟨failure, rfl⟩, events⟩
    · have kept : Keeps record pipeline.archive.events after.events := by
        rw [show after.events = _ from events, archive]
        exact keeps_toNewEvent decoded row createdAt _ _
      cases answer <;> exact ⟨handlers, Or.inl kept⟩
    · exact Handled.of_failure _ handlers (events.trans (congrArg Archive.events archive))
  · exact Handled.of_failure _ rfl rfl

/-- Handling the record of an access event keeps the event, or fails and changes no row. -/
theorem handled_handleAccess (pipeline : Pipeline) (record : Record) :
    Handled record pipeline (pipeline.handleAccess record) := by
  rw [handleAccess]
  cases decoded : Payload.decode record.fields with
  | error fault => exact Handled.of_failure _ rfl rfl
  | ok payload =>
    dsimp only
    cases Event.Category.ofCode? payload.category with
    | none => exact Handled.of_failure _ rfl rfl
    | some category =>
      dsimp only [look]
      have events := pipeline.archive.findCode_events category
      generalize pipeline.archive.findCode category = found at events ⊢
      obtain ⟨answer, archive⟩ := found
      cases answer with
      | error failure => exact Handled.of_failure _ rfl events
      | ok row? =>
        cases row? with
        | none => exact Handled.of_failure _ rfl events
        | some row =>
          have kept := handled_keepPayload { pipeline with archive } decoded row
          exact ⟨kept.handlers, events ▸ kept.rows⟩

end Pipeline

namespace Dispatch

/-- Acknowledging changes neither the handlers nor the archive. -/
theorem acknowledge_state (group : String) (record : Record) (pipeline : Pipeline) :
    (acknowledge group record pipeline).2.handlers = pipeline.handlers ∧
      (acknowledge group record pipeline).2.archive = pipeline.archive := by
  rw [acknowledge]
  simp only [Pipeline.ask]
  generalize pipeline.service.acknowledge record.stream group [record.id] = asked
  obtain ⟨answer, service⟩ := asked
  cases answer <;> exact ⟨rfl, rfl⟩

/-- A handler that fails ends the dispatch without an acknowledgement. -/
theorem handled_error (group : String) (record : Record) (pipeline : Pipeline)
    (eventType : EventType) (failure : HandlerError) :
    ∃ outcome after,
      handled group record pipeline eventType (.error failure) = (.finished outcome, after) ∧
        outcome ≠ .acknowledged ∧ after.handlers = pipeline.handlers ∧
          after.archive = pipeline.archive := by
  rw [handled]
  by_cases parsing : failure.isParsing = true
  · simp only [parsing, if_true, finish, conclude]
    exact ⟨_, _, rfl, by simp, rfl, rfl⟩
  · simp only [parsing, finish, conclude]
    exact ⟨_, _, rfl, by simp, rfl, rfl⟩

/-- A dispatch whose handler succeeds goes on to the acknowledgement. -/
theorem run_of_succeeded (group : String) {record : Record} (now : Nat) {pipeline : Pipeline}
    (registered : pipeline.handlers.get? .access = some .access)
    (typed : (record.field? Event.fieldNames.eventType).bind EventType.classify = some .access)
    (succeeded : (pipeline.handleAccess record).1 = .ok ()) :
    run group record now .routing pipeline =
      let (outcome, ended) := acknowledge group record
        ((pipeline.handleAccess record).2.count (.handlerDuration EventType.access.tag) 1)
      (.finished outcome, ended) := by
  rw [run, route, typed]
  dsimp only
  rw [registered]
  dsimp only
  rw [run]
  dsimp only [step, Pipeline.handle]
  generalize pipeline.handleAccess record = answer at succeeded ⊢
  obtain ⟨result, after⟩ := answer
  obtain rfl : result = .ok () := succeeded
  dsimp only [handled]
  rw [run]

/-- A dispatch to the handler of access events changes no row and does not acknowledge its record,
or keeps the event of its record. -/
theorem run_access (group : String) (record : Record) (now : Nat) {pipeline : Pipeline}
    (registered : pipeline.handlers.get? .access = some .access) :
    (run group record now .routing pipeline).2.handlers = pipeline.handlers ∧
      ((run group record now .routing pipeline).1 ≠ .finished .acknowledged ∧
        (run group record now .routing pipeline).2.archive.events = pipeline.archive.events ∨
      Keeps record pipeline.archive.events
        (run group record now .routing pipeline).2.archive.events) := by
  rw [run, route]
  cases (record.field? Event.fieldNames.eventType).bind EventType.classify with
  | none =>
    dsimp only [finish, conclude]
    rw [run]
    exact ⟨rfl, Or.inl ⟨by simp, rfl⟩⟩
  | some eventType =>
    obtain rfl : eventType = .access := by cases eventType; rfl
    simp only [registered]
    rw [run]
    dsimp only [step, Pipeline.handle]
    have kept := pipeline.handled_handleAccess record
    generalize pipeline.handleAccess record = answer at kept ⊢
    obtain ⟨result, after⟩ := answer
    cases result with
    | error failure =>
      obtain ⟨outcome, ended, told, unacknowledged, handlers, archive⟩ :=
        handled_error group record after .access failure
      dsimp only
      rw [told, run]
      refine ⟨handlers.trans kept.handlers, ?_⟩
      rw [archive]
      refine kept.rows.symm.imp (fun failed => ⟨?_, failed.2⟩) id
      exact fun same => unacknowledged (Stop.finished.inj same)
    | ok done =>
      dsimp only [handled]
      rw [run]
      obtain ⟨handlers, archive⟩ := acknowledge_state group record
        (after.count (.handlerDuration EventType.access.tag) 1)
      refine ⟨handlers.trans kept.handlers, Or.inr ?_⟩
      dsimp only
      rw [archive]
      exact kept.rows.resolve_right fun failed => failed.1 rfl

end Dispatch

/-! ### Runs -/

/-- What may happen between a start and a stop: a record is dispatched, or everything but the
handlers and the rows changes. -/
inductive Happening
  | dispatch (group : String) (record : Record) (now : Nat)
  | meanwhile (other : Pipeline)

namespace Pipeline

/-- The pipeline after something has happened. -/
def take (pipeline : Pipeline) : Happening → Pipeline
  | .dispatch group record now => (Dispatch.run group record now .routing pipeline).2
  | .meanwhile other =>
    { other with
      handlers := pipeline.handlers
      archive := { other.archive with events := pipeline.archive.events } }

/-- The pipeline after several things have happened. -/
def through (pipeline : Pipeline) (happenings : List Happening) : Pipeline :=
  happenings.foldl take pipeline

/-- The kept rows. -/
def rows (pipeline : Pipeline) : EventRows :=
  pipeline.archive.events

theorem through_append (pipeline : Pipeline) (first second : List Happening) :
    pipeline.through (first ++ second) = (pipeline.through first).through second :=
  List.foldl_append

/-- Whether a record was dispatched whose contents a row under some key has. -/
def Dispatched (happenings : List Happening) (key : String) (row : KeptEvent) : Prop :=
  ∃ group record now payload, Happening.dispatch group record now ∈ happenings ∧
    record.id.display = key ∧ Payload.decode record.fields = .ok payload ∧ row.Carries payload

variable {pipeline : Pipeline}

theorem take_handlers (registered : pipeline.handlers.get? .access = some .access)
    (happening : Happening) : (pipeline.take happening).handlers = pipeline.handlers := by
  cases happening with
  | dispatch group record now => exact (Dispatch.run_access group record now registered).1
  | meanwhile other => rfl

/-- A row that is there stays, and one that is new comes from the record that was dispatched. -/
theorem take_rows (registered : pipeline.handlers.get? .access = some .access)
    (happening : Happening) (key : String) {row : KeptEvent} :
    (pipeline.rows.get? key = some row → (pipeline.take happening).rows.get? key = some row) ∧
    ((pipeline.take happening).rows.get? key = some row →
      pipeline.rows.get? key = some row ∨ Dispatched [happening] key row) := by
  cases happening with
  | meanwhile other => exact ⟨fun present => present, Or.inl⟩
  | dispatch group record now =>
    rcases (Dispatch.run_access group record now registered).2 with
      ⟨_, same⟩ | ⟨payload, kept, decoded, carries, told⟩
    · rw [rows, rows, take, same]
      exact ⟨fun present => present, Or.inl⟩
    · rw [rows, rows, take, told]
      by_cases own : key = record.id.display
      · rw [if_pos own]
        refine ⟨fun present => by rw [present, Option.getD_some], fun present => ?_⟩
        cases held : pipeline.archive.events.get? key with
        | some earlier =>
          rw [held] at present
          exact Or.inl present
        | none =>
          rw [held] at present
          obtain rfl := Option.some.inj present
          exact Or.inr ⟨group, record, now, payload, List.mem_singleton.mpr rfl,
            own.symm, decoded, carries⟩
      · rw [if_neg own]
        exact ⟨fun present => present, Or.inl⟩

/-- Rows stay along a run, and new ones come from the records that were dispatched. -/
theorem through_rows (registered : pipeline.handlers.get? .access = some .access)
    (happenings : List Happening) :
    (pipeline.through happenings).handlers = pipeline.handlers ∧
      ∀ (key : String) (row : KeptEvent),
        (pipeline.rows.get? key = some row →
          (pipeline.through happenings).rows.get? key = some row) ∧
        ((pipeline.through happenings).rows.get? key = some row →
          pipeline.rows.get? key = some row ∨ Dispatched happenings key row) := by
  induction happenings generalizing pipeline with
  | nil => exact ⟨rfl, fun key row => ⟨fun present => present, Or.inl⟩⟩
  | cons happening rest inductionHypothesis =>
    have handlers := take_handlers registered happening
    obtain ⟨kept, rowsKept⟩ := @inductionHypothesis (pipeline.take happening)
      (handlers ▸ registered)
    refine ⟨kept.trans handlers, fun key row => ⟨fun present => ?_, fun present => ?_⟩⟩
    · exact (rowsKept key row).1 ((take_rows registered happening key).1 present)
    · rcases (rowsKept key row).2 present with held | ⟨group, record, now, payload, member, told⟩
      · rcases (take_rows registered happening key).2 held with
          earlier | ⟨group, record, now, payload, member, told⟩
        · exact Or.inl earlier
        · exact Or.inr ⟨group, record, now, payload,
            List.mem_cons.mpr (Or.inl (List.mem_singleton.mp member)), told⟩
      · exact Or.inr ⟨group, record, now, payload, List.mem_cons_of_mem _ member, told⟩

/-- The event of an acknowledged record is kept, and stays so, unless none was kept of its contents
before while a row stood under its id: a row that was there at the start, or one with the different
contents of another record of this id. -/
theorem holds_of_acknowledged (start : Pipeline)
    (registered : start.handlers.get? .access = some .access) (earlier later : List Happening)
    (group : String) (record : Record) (now : Nat)
    (acknowledged : (Dispatch.run group record now .routing (start.through earlier)).1 =
      .finished .acknowledged) :
    let before := (start.through earlier).rows
    let after := (start.through (earlier ++ [.dispatch group record now])).rows
    let final := (start.through (earlier ++ .dispatch group record now :: later)).rows
    ∃ payload, Payload.decode record.fields = .ok payload ∧
      (after.Holds payload ↔ before.get? record.id.display = none ∨ before.Holds payload) ∧
      (after.Holds payload → final.Holds payload) ∧
      (¬ after.Holds payload → ∃ row, final.get? record.id.display = some row ∧
        ¬ row.Carries payload ∧
        (start.rows.get? record.id.display = some row ∨
          ∃ group other now content, Happening.dispatch group other now ∈ earlier ∧
            other.id = record.id ∧ Payload.decode other.fields = .ok content ∧
            row.Carries content)) := by
  intro before after final
  obtain ⟨handlers, origin⟩ := start.through_rows registered earlier
  have reached : (start.through earlier).handlers.get? .access = some .access :=
    handlers ▸ registered
  have taken : after = ((start.through earlier).take (.dispatch group record now)).rows :=
    congrArg rows (start.through_append earlier [_])
  have ended : final = (((start.through earlier).take (.dispatch group record now)).through
      later).rows := congrArg rows (start.through_append earlier (_ :: later))
  have still : ∀ key row, after.get? key = some row → final.get? key = some row := by
    intro key row present
    rw [taken] at present
    rw [ended]
    exact ((through_rows ((take_handlers reached _).symm ▸ reached) later).2 key row).1 present
  rcases (Dispatch.run_access group record now reached).2 with
    ⟨unacknowledged, _⟩ | ⟨payload, kept, decoded, carries, told⟩
  · exact absurd acknowledged unacknowledged
  · replace told : ∀ key, after.get? key = if key = record.id.display then
        some ((before.get? key).getD kept) else before.get? key := taken ▸ told
    have holds := EventRows.holds_iff carries told
    refine ⟨payload, decoded, holds, ?_, fun missing => ?_⟩
    · rintro ⟨key, row, present, same⟩
      exact ⟨key, row, still key row present, same⟩
    · have never := not_or.mp (fun either => missing (holds.mpr either))
      obtain ⟨row, held⟩ := Option.ne_none_iff_exists'.mp never.1
      have present : after.get? record.id.display = some row := by
        rw [told, if_pos rfl, held, Option.getD_some]
      refine ⟨row, still _ _ present, fun same => missing ⟨_, row, present, same⟩, ?_⟩
      rcases (origin record.id.display row).2 held with
        atStart | ⟨source, other, time, content, member, sameId, otherDecoded, same⟩
      · exact Or.inl atStart
      · exact Or.inr ⟨source, other, time, content, member, StreamId.display_injective sameId,
          otherDecoded, same⟩

end Pipeline

/-- The fields of an access event of some endpoint. -/
def accessFields (endpoint : String) : List (String × String) :=
  [("type", "ACCESS"), ("categoryCode", "API_PUBLIC"), ("endpoint", endpoint),
    ("httpMethod", "GET"), ("responseStatus", "200"), ("responseTime", "1")]

/-- The calls that deliver a record of one and the same id from some stream. -/
def crossedCalls (stream : String) : List StoreCall :=
  [.appendWithId stream ⟨6, 0⟩ [], .createGroup stream "audit",
    .appendWithId stream ⟨7, 0⟩ (accessFields ("/api/" ++ stream)),
    .readGroup stream "audit" "worker" .lastConsumed 1]

/-- The record these calls deliver. -/
def crossedRecord (stream : String) : Record :=
  ⟨stream, ⟨7, 0⟩, .ofList (accessFields ("/api/" ++ stream))⟩

/-- A pipeline to which two streams have delivered records of the same id. -/
def crossed : Pipeline where
  service := ⟨Store.empty.after (crossedCalls "orders" ++ crossedCalls "payments"), []⟩
  archive := ((Archive.empty .memory).seed ⟨0, 0⟩).2
  wall := ⟨0, 0⟩
  handlers := Table.empty.set .access .access

/-- The pipeline after the record of the first stream was acknowledged. -/
def crossedOnce : Pipeline :=
  (Dispatch.acknowledge "audit" (crossedRecord "orders")
    ((crossed.handleAccess (crossedRecord "orders")).2.count
      (.handlerDuration EventType.access.tag) 1)).2

theorem run_crossed : Dispatch.run "audit" (crossedRecord "orders") 0 .routing crossed =
    (.finished .acknowledged, crossedOnce) :=
  (Dispatch.run_of_succeeded "audit" 0 rfl rfl rfl).trans rfl

/-- The record that comes first is kept and stays so. -/
theorem first_crossed_is_kept :
    crossed.handlers.get? .access = some .access ∧
      (Dispatch.run "audit" (crossedRecord "orders") 0 .routing (crossed.through [])).1 =
        .finished .acknowledged ∧
      ∃ payload, Payload.decode (crossedRecord "orders").fields = .ok payload ∧
        (crossed.through [.dispatch "audit" (crossedRecord "orders") 0,
          .dispatch "audit" (crossedRecord "payments") 0]).rows.Holds payload := by
  have acknowledged := congrArg Prod.fst run_crossed
  obtain ⟨payload, decoded, holds, still, _⟩ :=
    Pipeline.holds_of_acknowledged crossed rfl [] [.dispatch "audit" (crossedRecord "payments") 0]
      "audit" (crossedRecord "orders") 0 acknowledged
  exact ⟨rfl, acknowledged, payload, decoded, still (holds.mpr (Or.inl rfl))⟩

/-- The record that comes second is acknowledged without being kept. -/
theorem second_crossed_is_lost :
    let first := Dispatch.run "audit" (crossedRecord "orders") 0 .routing crossed
    let second := Dispatch.run "audit" (crossedRecord "payments") 0 .routing first.2
    first.1 = .finished .acknowledged ∧ second.1 = .finished .acknowledged ∧
      ∃ payload, Payload.decode (crossedRecord "payments").fields = .ok payload ∧
        ¬ second.2.rows.Holds payload := by
  have acknowledged : (Dispatch.run "audit" (crossedRecord "payments") 0 .routing crossedOnce).1 =
      .finished .acknowledged := by
    rw [Dispatch.run_of_succeeded "audit" 0 rfl rfl rfl]
    rfl
  have once := (@Dispatch.run_access "audit" (crossedRecord "orders") 0 crossed rfl).2
  have twice := (@Dispatch.run_access "audit" (crossedRecord "payments") 0 crossedOnce rfl).2
  rw [run_crossed] at once ⊢
  obtain ⟨first, kept, firstDecoded, firstCarries, firstTold⟩ :=
    once.resolve_left fun never => never.1 rfl
  obtain ⟨second, other, secondDecoded, secondCarries, secondTold⟩ :=
    twice.resolve_left fun never => never.1 acknowledged
  refine ⟨rfl, acknowledged, second, secondDecoded, fun holds => ?_⟩
  rcases (EventRows.holds_iff secondCarries secondTold).mp holds with
    free | ⟨key, row, present, same⟩
  · rw [firstTold, show (crossedRecord "payments").id = (crossedRecord "orders").id from rfl,
      if_pos rfl] at free
    cases free
  · rw [firstTold] at present
    split at present
    · obtain rfl : kept = row := Option.some.inj present
      -- the one row there is has the endpoint of the first record
      have firstEndpoint : (Payload.decode (crossedRecord "orders").fields).map
        Payload.endpoint = .ok "/api/orders" := rfl
      have secondEndpoint : (Payload.decode (crossedRecord "payments").fields).map
        Payload.endpoint = .ok "/api/payments" := rfl
      rw [firstDecoded] at firstEndpoint
      rw [secondDecoded] at secondEndpoint
      have equal := (Except.ok.inj firstEndpoint).symm.trans
        (firstCarries.endpoint.symm.trans (same.endpoint.trans (Except.ok.inj secondEndpoint)))
      exact absurd equal (by decide)
    · cases present

end AccessFeed
