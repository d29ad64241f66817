/-
This file decodes the fields of a record into an access event.

Some fields are required, some have a default, and some count as absent when
they are blank. The status and the time of a response are numbers and may have
blanks around them. A number that cannot be read is reported before a missing
field; of two such numbers the status comes first, and of several missing fields
the first in the order of the event's own fields.
-/

import AccessFeed.Binary64.Reader
import AccessFeed.Calendar.OffsetTime
import AccessFeed.Streams.Record

namespace AccessFeed.Event

open Calendar (Instant OffsetTime)
open Streams (Fields)

/-- The names of the fields of an access event. -/
structure FieldNames where
  eventType : String := "type"
  category : String := "categoryCode"
  userId : String := "userId"
  endpoint : String := "endpoint"
  httpMethod : String := "httpMethod"
  methodName : String := "methodName"
  responseStatus : String := "responseStatus"
  responseTime : String := "responseTime"
  ipAddress : String := "ipAddress"
  userAgent : String := "userAgent"
  inputs : String := "inputs"
  outputs : String := "outputs"
  createdAt : String := "createdAt"

/-- The names under which the fields are transmitted. -/
def fieldNames : FieldNames := {}

/-- An access event as a record carries it. -/
structure Payload where
  eventType : String
  category : String
  userId : String
  endpoint : String
  httpMethod : String
  methodName : Option String
  responseStatus : Int
  responseTime : Binary64
  ipAddress : String
  userAgent : String
  inputs : Option String
  outputs : Option String
  createdAt : Option String
deriving DecidableEq, Repr

/-- The user of an event that names none. -/
def anonymousUser : String := "anonymous"

/-- Why the fields of a record are no access event. -/
inductive PayloadFault
  | status (raw : String) (fault : Text.NumeralFault)
  | time (raw : String) (fault : Binary64.ReadFault)
  | missing (field : String)
deriving DecidableEq, Repr

/-- The wording of a fault. -/
def PayloadFault.message : PayloadFault → String
  | .status raw fault => "invalid numeric value '" ++ raw ++ "': " ++ fault.message
  | .time raw fault => "invalid numeric value '" ++ raw ++ "': " ++ fault.message
  | .missing field => "missing field `" ++ field ++ "`"

namespace Payload

/-- A text that is not blank, as it is. -/
def unlessBlank (text : Option String) : Option String :=
  text.filter fun held => !Text.allBlank held

/-- Reads the status of a response, if there is one. -/
def readStatus (raw : Option String) : Except PayloadFault (Option Int) :=
  match raw with
  | none => .ok none
  | some text =>
    match Text.readInt32 (Text.trimmed text.toList) with
    | .ok value => .ok (some value)
    | .error fault => .error (.status text fault)

/-- Reads the time of a response, if there is one. -/
def readTime (raw : Option String) : Except PayloadFault (Option Binary64) :=
  match raw with
  | none => .ok none
  | some text =>
    match Binary64.read (Text.trimmed text.toList) with
    | .ok value => .ok (some value)
    | .error fault => .error (.time text fault)

/-- The value of a required field. -/
def require {Value : Type} (field : String) (value : Option Value) : Except PayloadFault Value :=
  match value with
  | some value => .ok value
  | none => .error (.missing field)

/-- Decodes the fields of a record. -/
def decode (fields : Fields) : Except PayloadFault Payload := do
  let status ← readStatus (fields.get? fieldNames.responseStatus)
  let time ← readTime (fields.get? fieldNames.responseTime)
  let eventType ← require fieldNames.eventType (fields.get? fieldNames.eventType)
  let category ← require fieldNames.category (fields.get? fieldNames.category)
  let endpoint ← require fieldNames.endpoint (fields.get? fieldNames.endpoint)
  let httpMethod ← require fieldNames.httpMethod (fields.get? fieldNames.httpMethod)
  let responseStatus ← require fieldNames.responseStatus status
  let responseTime ← require fieldNames.responseTime time
  pure {
    eventType, category, endpoint, httpMethod, responseStatus, responseTime
    userId := (fields.get? fieldNames.userId).getD anonymousUser
    methodName := unlessBlank (fields.get? fieldNames.methodName)
    ipAddress := (fields.get? fieldNames.ipAddress).getD ""
    userAgent := (fields.get? fieldNames.userAgent).getD ""
    inputs := unlessBlank (fields.get? fieldNames.inputs)
    outputs := unlessBlank (fields.get? fieldNames.outputs)
    createdAt := unlessBlank (fields.get? fieldNames.createdAt) }

/-- The instant an event says it was created at, if it can be read. -/
def createdInstant? (payload : Payload) : Option Instant := do
  let text ← payload.createdAt
  let time ← OffsetTime.read? text
  pure time.instant

end Payload

end AccessFeed.Event
