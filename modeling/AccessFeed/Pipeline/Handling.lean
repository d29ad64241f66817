/-
This file defines how a delivered access event is kept.

The payload is decoded, its category looked up, its status checked, and the
event kept under the id of its record, so that a record delivered twice is kept
once. An event without a readable time of creation is taken to be created when
its record was appended.
-/

import AccessFeed.Event.Payload
import AccessFeed.Pipeline.Basic

namespace AccessFeed

open Archive (CategoryRow NewEvent)
open Calendar (Instant)
open Event (Category HandlerError Payload)
open Streams (Record)

/-- The time of creation that a record's id stands for: its milliseconds, or the present when the
calendar does not reach that far. -/
def Streams.Record.appendTime (record : Record) (now : Instant) : Instant :=
  let millis := record.id.millis.toNat
  if millis < 2 ^ 63 then (Instant.ofMillis? millis).getD now else now

/-- The event to be kept for a payload. -/
def Event.Payload.toNewEvent (payload : Payload) (record : Record) (row : CategoryRow)
    (createdAt : Instant) : NewEvent :=
  { sourceId := record.id.display
    categoryId := row.id
    category := row.category
    userId := payload.userId
    endpoint := payload.endpoint
    httpMethod := payload.httpMethod
    methodName := payload.methodName
    responseStatus := payload.responseStatus
    responseTime := payload.responseTime
    ipAddress := payload.ipAddress
    userAgent := payload.userAgent
    inputs := payload.inputs
    outputs := payload.outputs
    createdAt }

/-- Whether a number is the status of a response. -/
def isHttpStatus (status : Int) : Bool :=
  100 ≤ status && status ≤ 599

namespace Pipeline

/-- The time of creation of an event; a warning is written when its record has to stand in. -/
def creationTime (pipeline : Pipeline) (payload : Payload) (record : Record) :
    Instant × Pipeline :=
  match payload.createdInstant? with
  | some createdAt => (createdAt, pipeline)
  | none =>
    (record.appendTime pipeline.wall,
      pipeline.warn "createdAt missing or unparseable, using record id time")

/-- Keeps the event of a payload whose category was found. -/
def keepPayload (pipeline : Pipeline) (payload : Payload) (record : Record) (row : CategoryRow) :
    Except HandlerError Unit × Pipeline :=
  if isHttpStatus payload.responseStatus then
    let (createdAt, pipeline) := pipeline.creationTime payload record
    let event := payload.toNewEvent record row createdAt
    match pipeline.look fun archive => archive.create pipeline.wall event with
    | (.error failure, pipeline) => (.error (.ofFailure failure), pipeline)
    | (.ok _, pipeline) => (.ok (), pipeline)
  else
    (.error (.validation ("responseStatus " ++ Text.signedDecimal payload.responseStatus ++
      " is not an HTTP status")), pipeline)

/-- Handles the record of an access event. -/
def handleAccess (pipeline : Pipeline) (record : Record) : Except HandlerError Unit × Pipeline :=
  match Payload.decode record.fields with
  | .error fault => (.error (.parsing fault.message), pipeline)
  | .ok payload =>
    match Category.ofCode? payload.category with
    | none => (.error (.categoryNotFound payload.category), pipeline)
    | some category =>
      match pipeline.look fun archive => archive.findCode category with
      | (.error failure, pipeline) => (.error (.ofFailure failure), pipeline)
      | (.ok none, pipeline) =>
        (.error (.categoryNotFound
          ("AccessCategory not found with code: " ++ payload.category)), pipeline)
      | (.ok (some row), pipeline) => pipeline.keepPayload payload record row

/-- What a handler has come to: it is done, or it goes on after some milliseconds and then
succeeds. -/
inductive HandlerProgress
  | done (result : Except HandlerError Unit)
  | pausing (millis : Nat)

/-- Calls a handler with a record. A script that is used up succeeds. -/
def handle (pipeline : Pipeline) (handler : Handler) (record : Record) :
    HandlerProgress × Pipeline :=
  match handler with
  | .access =>
    let (result, pipeline) := pipeline.handleAccess record
    (.done result, pipeline)
  | .rehearsed =>
    let next := pipeline.script.head?.getD .succeed
    let pipeline :=
      { pipeline with script := pipeline.script.tail, handlerCalls := pipeline.handlerCalls + 1 }
    match next with
    | .succeed => (.done (.ok ()), pipeline)
    | .fail error => (.done (.error error), pipeline)
    | .pause millis => (.pausing millis, pipeline)

end Pipeline

end AccessFeed
