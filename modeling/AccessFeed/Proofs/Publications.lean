/-
This file proves that a published event arrives as it was.

The fields of an event are written by its producer and decoded by its consumer,
each by rules of its own: the producer writes absent texts as empty ones and
rounds the time of the response, the consumer trims numbers and takes blank
texts for absent ones. Whatever texts and numbers an event has, its fields are
decoded to what it said, blank texts being absent and the time of the response
being the number nearest to its three decimal places; and an event of an active
category with the status of a response is kept under its record's id so.
-/

import Mathlib.Algebra.Group.Int.Defs
import AccessFeed.Event.Access
import AccessFeed.Proofs.Keeping
import AccessFeed.Proofs.Numerals

namespace AccessFeed

open Archive (CategoryRow KeptEvent NewEvent)
open Calendar (Instant OffsetTime)
open Event (AccessEvent Category EventType Payload fieldNames)
open Streams (Fields Record)

/-! ### Fields given by a list -/

namespace Streams.Fields

theorem get?_foldl_of_absent {name : String} {entries : List (String × String)}
    (absent : name ∉ entries.map Prod.fst) (fields : Fields) :
    (entries.foldl (fun fields entry => fields.insert entry.1 entry.2) fields).get? name =
      fields.get? name := by
  induction entries generalizing fields with
  | nil => rfl
  | cons entry rest inductionHypothesis =>
    obtain ⟨other, others⟩ := List.ne_and_not_mem_of_not_mem_cons absent
    exact (inductionHypothesis others _).trans (fields.get?_insert_of_ne other entry.2)

/-- Where names are different, each field has the value it is listed with. -/
theorem get?_ofList_of_mem {entries : List (String × String)}
    (distinct : (entries.map Prod.fst).Nodup) {name value : String}
    (member : (name, value) ∈ entries) : (ofList entries).get? name = some value := by
  obtain ⟨before, after, rfl⟩ := List.append_of_mem member
  rw [List.map_append, List.map_cons, List.nodup_append, List.nodup_cons] at distinct
  rw [ofList, List.foldl_append, List.foldl_cons, get?_foldl_of_absent distinct.2.1.1,
    get?_insert_self]

end Streams.Fields

/-! ### Codes and tags -/

namespace Event

theorem Category.ofCode?_code (category : Category) : ofCode? category.code = some category := by
  cases category <;> decide

theorem EventType.ofTag?_tag (eventType : EventType) : ofTag? eventType.tag = some eventType := by
  cases eventType
  decide

/-! ### What is decoded -/

/-- A text unless it is blank. -/
def filled? (text : String) : Option String :=
  if Text.allBlank text then none else some text

theorem Payload.unlessBlank_some (text : String) :
    Payload.unlessBlank (some text) = filled? text := by
  rw [unlessBlank, filled?, Option.filter_some]
  cases Text.allBlank text <;> rfl

theorem Payload.unlessBlank_getD (text : Option String) :
    Payload.unlessBlank (some (text.getD "")) = text.bind filled? := by
  cases text with
  | none => decide
  | some text => exact unlessBlank_some text

namespace AccessEvent

/-- The payload that an event is decoded to. -/
def payload (event : AccessEvent) (createdAt : String) : Payload where
  eventType := event.eventType.tag
  category := event.category.code
  userId := event.userId
  endpoint := event.endpoint
  httpMethod := event.httpMethod
  methodName := filled? event.methodName
  responseStatus := event.responseStatus
  responseTime := event.responseTime.atPlaces timePlaces
  ipAddress := event.ipAddress
  userAgent := event.userAgent
  inputs := event.inputs.bind filled?
  outputs := event.outputs.bind filled?
  createdAt := filled? createdAt

/-- The event that is kept of an event, its record having the given id and its category the row
of the given number. -/
def toNewEvent (event : AccessEvent) (sourceId : String) (categoryId : Nat)
    (createdAt : Instant) : NewEvent where
  sourceId := sourceId
  categoryId := categoryId
  category := event.category
  userId := event.userId
  endpoint := event.endpoint
  httpMethod := event.httpMethod
  methodName := filled? event.methodName
  responseStatus := event.responseStatus
  responseTime := event.responseTime.atPlaces timePlaces
  ipAddress := event.ipAddress
  userAgent := event.userAgent
  inputs := event.inputs.bind filled?
  outputs := event.outputs.bind filled?
  createdAt := createdAt

theorem distinct_toFields (event : AccessEvent) (createdAt : String) :
    ((event.toFields createdAt).map Prod.fst).Nodup := by
  show [fieldNames.eventType, fieldNames.category, fieldNames.userId, fieldNames.endpoint,
    fieldNames.httpMethod, fieldNames.methodName, fieldNames.responseStatus,
    fieldNames.responseTime, fieldNames.ipAddress, fieldNames.userAgent, fieldNames.inputs,
    fieldNames.outputs, fieldNames.createdAt].Nodup
  decide

theorem readStatus_signedDecimal {status : Int} (low : -2 ^ 31 ≤ status)
    (high : status < 2 ^ 31) :
    Payload.readStatus (some (Text.signedDecimal status)) = .ok (some status) := by
  have read : Text.readInt32 (Text.signedDecimal status).toList = .ok status :=
    Text.readInt_signedDecimal (by omega) (by omega)
  rw [Payload.readStatus, Text.trimmed_of_none (Text.isBlank_signedDecimal status), read]

theorem readTime_fixed (time : Binary64) :
    Payload.readTime (some (time.fixed timePlaces)) = .ok (some (time.atPlaces timePlaces)) := by
  have places : timePlaces ≠ 0 := by decide
  rw [Payload.readTime, Text.trimmed_of_none (time.isBlank_fixed places), time.read_fixed places]

/-- Fields that hold what an event is written as are decoded to its payload. -/
theorem decode_of_written {event : AccessEvent} {createdAt : String} {fields : Fields}
    (low : -2 ^ 31 ≤ event.responseStatus) (high : event.responseStatus < 2 ^ 31)
    (written : ∀ entry ∈ event.toFields createdAt, fields.get? entry.1 = some entry.2) :
    Payload.decode fields = .ok (event.payload createdAt) := by
  simp only [toFields, List.forall_mem_cons] at written
  obtain ⟨eventType, category, userId, endpoint, httpMethod, methodName, responseStatus,
    responseTime, ipAddress, userAgent, inputs, outputs, createdAtText, -⟩ := written
  rw [Payload.decode, eventType, category, userId, endpoint, httpMethod, methodName,
    responseStatus, responseTime, ipAddress, userAgent, inputs, outputs, createdAtText,
    readStatus_signedDecimal low high, readTime_fixed, Payload.unlessBlank_some event.methodName,
    Payload.unlessBlank_getD event.inputs, Payload.unlessBlank_getD event.outputs,
    Payload.unlessBlank_some createdAt]
  rfl

/-- The fields of an event are decoded to its payload. -/
theorem decode_toFields (event : AccessEvent) (createdAt : String)
    (low : -2 ^ 31 ≤ event.responseStatus) (high : event.responseStatus < 2 ^ 31) :
    Payload.decode (.ofList (event.toFields createdAt)) = .ok (event.payload createdAt) :=
  decode_of_written low high fun _ member =>
    Fields.get?_ofList_of_mem (event.distinct_toFields createdAt) member

end AccessEvent

/-- Whether a payload says what an event says that was created at a time of some text. -/
structure Payload.Conveys (payload : Payload) (event : AccessEvent) (createdAt : String) :
    Prop where
  eventType : EventType.ofTag? payload.eventType = some event.eventType
  category : Category.ofCode? payload.category = some event.category
  userId : payload.userId = event.userId
  endpoint : payload.endpoint = event.endpoint
  httpMethod : payload.httpMethod = event.httpMethod
  methodName : ∀ text, payload.methodName = some text ↔
    event.methodName = text ∧ Text.allBlank text = false
  responseStatus : payload.responseStatus = event.responseStatus
  responseTime : Binary64.read (event.responseTime.fixed AccessEvent.timePlaces).toList =
    .ok payload.responseTime
  nearest : payload.responseTime = event.responseTime.atPlaces AccessEvent.timePlaces
  ipAddress : payload.ipAddress = event.ipAddress
  userAgent : payload.userAgent = event.userAgent
  inputs : ∀ text, payload.inputs = some text ↔
    event.inputs = some text ∧ Text.allBlank text = false
  outputs : ∀ text, payload.outputs = some text ↔
    event.outputs = some text ∧ Text.allBlank text = false
  createdAt : payload.createdAt = some createdAt

theorem filled?_eq_some (held text : String) :
    filled? held = some text ↔ held = text ∧ Text.allBlank text = false := by
  rw [filled?]
  cases blank : Text.allBlank held with
  | true =>
    rw [if_pos rfl]
    refine ⟨fun impossible => (by cases impossible), ?_⟩
    rintro ⟨rfl, filled⟩
    exact absurd (blank.symm.trans filled) Bool.noConfusion
  | false =>
    rw [if_neg Bool.false_ne_true, Option.some.injEq]
    refine ⟨?_, And.left⟩
    rintro rfl
    exact ⟨rfl, blank⟩

theorem bind_filled?_eq_some (held : Option String) (text : String) :
    held.bind filled? = some text ↔ held = some text ∧ Text.allBlank text = false := by
  cases held with
  | none => exact ⟨fun impossible => (by cases impossible), fun impossible => nomatch impossible.1⟩
  | some held =>
    rw [Option.bind_some, Option.some.injEq]
    exact filled?_eq_some held text

theorem Payload.Conveys.createdInstant?_eq {payload : Payload} {event : AccessEvent}
    {createdAt : String} (conveys : payload.Conveys event createdAt) :
    payload.createdInstant? = (OffsetTime.read? createdAt).map OffsetTime.instant := by
  rw [createdInstant?, conveys.createdAt]
  cases read : OffsetTime.read? createdAt <;> simp [read]

/-- The payload an event is decoded to says what the event says. -/
theorem AccessEvent.payload_conveys (event : AccessEvent) {createdAt : String}
    (filled : Text.allBlank createdAt = false) :
    (event.payload createdAt).Conveys event createdAt where
  eventType := EventType.ofTag?_tag event.eventType
  category := Category.ofCode?_code event.category
  userId := rfl
  endpoint := rfl
  httpMethod := rfl
  methodName := filled?_eq_some event.methodName
  responseStatus := rfl
  responseTime := event.responseTime.read_fixed (by decide)
  nearest := rfl
  ipAddress := rfl
  userAgent := rfl
  inputs := bind_filled?_eq_some event.inputs
  outputs := bind_filled?_eq_some event.outputs
  createdAt := (filled?_eq_some createdAt createdAt).mpr ⟨rfl, filled⟩

end Event

/-! ### What is kept -/

namespace Pipeline

/-- The payload of an event with the status of a response is kept under the id of its record. -/
theorem keepPayload_payload (pipeline : Pipeline) {event : AccessEvent} {createdAt : String}
    (filled : Text.allBlank createdAt = false) (record : Record) {row : CategoryRow}
    (same : row.category = event.category) (least : 100 ≤ event.responseStatus)
    (greatest : event.responseStatus ≤ 599) (answers : pipeline.archive.Answers .create)
    (absent : pipeline.archive.events.get? record.id.display = none) :
    let answer := pipeline.keepPayload (event.payload createdAt) record row
    answer.1 = .ok () ∧ ∃ kept : KeptEvent,
      kept.event = event.toNewEvent record.id.display row.id
        ((OffsetTime.read? createdAt).elim (record.appendTime pipeline.wall)
          OffsetTime.instant) ∧
      ∀ key, answer.2.archive.events.get? key =
        if key = record.id.display then some kept else pipeline.archive.events.get? key := by
  have status : isHttpStatus event.responseStatus = true := by
    rw [isHttpStatus, decide_eq_true least, decide_eq_true greatest]
    rfl
  have created : (pipeline.creationTime (event.payload createdAt) record).1 =
      (OffsetTime.read? createdAt).elim (record.appendTime pipeline.wall) OffsetTime.instant := by
    rw [creationTime, (event.payload_conveys filled).createdInstant?_eq]
    cases OffsetTime.read? createdAt <;> rfl
  generalize (OffsetTime.read? createdAt).elim (record.appendTime pipeline.wall)
    OffsetTime.instant = instant at created ⊢
  obtain ⟨_, archive⟩ := pipeline.creationTime_state (event.payload createdAt) record
  dsimp only
  rw [keepPayload, show (event.payload createdAt).responseStatus = event.responseStatus from rfl,
    if_pos status]
  generalize pipeline.creationTime (event.payload createdAt) record = timed at created archive ⊢
  obtain ⟨instant, timed⟩ := timed
  obtain rfl : instant = _ := created
  dsimp only [look] at archive ⊢
  rw [archive, Archive.create_of_answers answers]
  have kept : (event.payload createdAt).toNewEvent record row instant =
      event.toNewEvent record.id.display row.id instant := by
    rw [Event.Payload.toNewEvent, same]
    rfl
  rw [kept]
  obtain ⟨kept, same, told⟩ := pipeline.archive.events.get?_create timed.wall
    (event.toNewEvent record.id.display row.id instant)
  refine ⟨rfl, kept, same, fun key => (told key).trans ?_⟩
  exact (Archive.getD_of_absent absent kept key).symm

end Pipeline

/-- A published event is decoded to what it says, and is kept so under the id of its record if its
category is active and its status that of a response. -/
theorem Event.AccessEvent.conveyed_and_kept (event : AccessEvent) (createdAt : String)
    (low : -2 ^ 31 ≤ event.responseStatus) (high : event.responseStatus < 2 ^ 31)
    (filled : Text.allBlank createdAt = false) :
    (∃ payload, Payload.decode (.ofList (event.toFields createdAt)) = .ok payload ∧
      payload.Conveys event createdAt) ∧
    ∀ (pipeline : Pipeline) (record : Record) (row : CategoryRow),
      record.fields = .ofList (event.toFields createdAt) →
      pipeline.archive.Answers .findCode → pipeline.archive.Answers .create →
      pipeline.archive.categories.findCode? event.category = some row →
      100 ≤ event.responseStatus → event.responseStatus ≤ 599 →
      pipeline.archive.events.get? record.id.display = none →
      (pipeline.handleAccess record).1 = .ok () ∧ ∃ kept : KeptEvent,
        kept.event = event.toNewEvent record.id.display row.id
          ((OffsetTime.read? createdAt).elim (record.appendTime pipeline.wall)
            OffsetTime.instant) ∧
        ∀ key, (pipeline.handleAccess record).2.archive.events.get? key =
          if key = record.id.display then some kept else pipeline.archive.events.get? key := by
  have decoded := event.decode_toFields createdAt low high
  refine ⟨⟨_, decoded, event.payload_conveys filled⟩, ?_⟩
  intro pipeline record row fields looksUp creates active least greatest absent
  have same : row.category = event.category := by
    have found := List.find?_some active
    exact beq_iff_eq.mp (Bool.and_eq_true_iff.mp found).1
  have code : Category.ofCode? (event.payload createdAt).category = some event.category :=
    Category.ofCode?_code event.category
  rw [Pipeline.handleAccess, fields, decoded]
  dsimp only [Pipeline.look]
  rw [code]
  dsimp only
  rw [Archive.findCode, Archive.call_of_answers looksUp, active]
  exact pipeline.keepPayload_payload filled record same least greatest creates absent

/-- An event with blank, padded and missing texts. -/
def awkwardAccess : AccessEvent where
  eventType := .access
  category := .apiAdmin
  userId := " "
  endpoint := " /admin/über "
  httpMethod := ""
  methodName := "\t\u3000"
  responseStatus := 404
  responseTime := Binary64.ofRatio false 12345 10000
  ipAddress := "::1"
  userAgent := "\n"
  inputs := some " "
  outputs := some " null"

/-- A record that carries it, created in another time zone. -/
def awkwardRecord : Record :=
  ⟨"orders", ⟨7, 0⟩, .ofList (awkwardAccess.toFields " 2024-05-21 07:07:08.5 +09:00")⟩

/-- A pipeline with the default categories. -/
def seededPipeline : Pipeline where
  service := ⟨.empty, []⟩
  archive := ((Archive.empty .memory).seed ⟨0, 0⟩).2
  wall := ⟨0, 0⟩

/-- Its padded texts are kept as they are, the blank ones are not, and the time it was created at
is told in universal time. -/
theorem awkwardAccess_is_kept :
    (seededPipeline.handleAccess awkwardRecord).1 = .ok () ∧
      ∃ kept, (seededPipeline.handleAccess awkwardRecord).2.archive.events.get?
          awkwardRecord.id.display = some kept ∧
        kept.event.userId = " " ∧ kept.event.methodName = none ∧ kept.event.inputs = none ∧
          kept.event.outputs = some " null" ∧
            kept.event.createdAt = ⟨1716242828, 500000000⟩ := by
  have unconcerned (method : Archive.ArchiveMethod) : seededPipeline.archive.Answers method :=
    fun _ impossible => nomatch impossible
  obtain ⟨handled, kept, same, told⟩ :=
    (Event.AccessEvent.conveyed_and_kept awkwardAccess " 2024-05-21 07:07:08.5 +09:00" (by decide)
      (by decide) (by decide)).2 seededPipeline awkwardRecord
      { CategoryRow.seed ⟨0, 0⟩ .apiAdmin with id := 3 } rfl
      (unconcerned .findCode) (unconcerned .create) rfl (by decide) (by decide) rfl
  refine ⟨handled, kept, (told _).trans (if_pos rfl), ?_⟩
  rw [same]
  decide

end AccessFeed
