/-
This file defines the access events that a service publishes.

An event is written to the stream as a flat list of named texts; absent inputs
and outputs are written as empty texts, and the time of the response in seconds
with three decimal places. A request under way becomes an event when it is
finished.
-/

import AccessFeed.Binary64.Printer
import AccessFeed.Event.Category
import AccessFeed.Event.Payload

namespace AccessFeed.Event

/-- An access event ready to be published. -/
structure AccessEvent where
  eventType : EventType
  category : Category
  userId : String
  endpoint : String
  httpMethod : String
  methodName : String
  responseStatus : Int
  responseTime : Binary64
  ipAddress : String
  userAgent : String
  inputs : Option String
  outputs : Option String
deriving DecidableEq, Repr

namespace AccessEvent

/-- The decimal places of a published response time. -/
def timePlaces : Nat := 3

/-- The fields an event is written as, given the text of its time of creation. -/
def toFields (event : AccessEvent) (createdAt : String) : List (String × String) :=
  [(fieldNames.eventType, event.eventType.tag),
    (fieldNames.category, event.category.code),
    (fieldNames.userId, event.userId),
    (fieldNames.endpoint, event.endpoint),
    (fieldNames.httpMethod, event.httpMethod),
    (fieldNames.methodName, event.methodName),
    (fieldNames.responseStatus, Text.signedDecimal event.responseStatus),
    (fieldNames.responseTime, event.responseTime.fixed timePlaces),
    (fieldNames.ipAddress, event.ipAddress),
    (fieldNames.userAgent, event.userAgent),
    (fieldNames.inputs, event.inputs.getD ""),
    (fieldNames.outputs, event.outputs.getD ""),
    (fieldNames.createdAt, createdAt)]

end AccessEvent

/-- What is known of a request when its handling begins. -/
structure RequestContext where
  endpoint : String
  httpMethod : String
  methodName : String
  userId : Option String
  ipAddress : String
  userAgent : String
  inputs : Option String
deriving DecidableEq, Repr

/-- A request under way, begun so many milliseconds after some fixed time. -/
structure RequestTimer where
  context : RequestContext
  started : Nat
deriving DecidableEq, Repr

namespace RequestTimer

/-- The seconds since a request began, in whole milliseconds. -/
def elapsed (timer : RequestTimer) (now : Nat) : Binary64 :=
  Binary64.ofRatio false (now - timer.started) 1000

/-- The event of a request that is finished now with the given status. -/
def finish (timer : RequestTimer) (now : Nat) (status : Int) (outputs : Option String) :
    AccessEvent :=
  { eventType := .access
    category := Category.ofPath timer.context.endpoint
    userId := timer.context.userId.getD anonymousUser
    endpoint := timer.context.endpoint
    httpMethod := timer.context.httpMethod
    methodName := timer.context.methodName
    responseStatus := status
    responseTime := timer.elapsed now
    ipAddress := timer.context.ipAddress
    userAgent := timer.context.userAgent
    inputs := timer.context.inputs
    outputs }

end RequestTimer

end AccessFeed.Event
