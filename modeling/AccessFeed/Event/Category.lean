/-
This file lists the access categories and the event types.

A category has one code, the upper-case name it is stored and transmitted under.
Reading a code ignores the case of ASCII letters and nothing else. The category
of a request is decided by the beginning of its path; the specific beginnings
are tried before the general one.
-/

import AccessFeed.Text.Blank
import AccessFeed.Text.Letters

namespace AccessFeed.Event

/-- The category an access is filed under. -/
inductive Category
  | unknown
  | apiPublic
  | apiAdmin
  | apiExternal
  | apiInternal
  | healthSystem
  | serviceQueue
deriving DecidableEq, Repr

namespace Category

/-- All categories, in the order in which they are seeded. -/
def all : List Category :=
  [.unknown, .apiPublic, .apiAdmin, .apiExternal, .apiInternal, .healthSystem, .serviceQueue]

/-- The code of a category. -/
def code : Category → String
  | .unknown => "UNKNOWN"
  | .apiPublic => "API_PUBLIC"
  | .apiAdmin => "API_ADMIN"
  | .apiExternal => "API_EXTERNAL"
  | .apiInternal => "API_INTERNAL"
  | .healthSystem => "HEALTH_SYSTEM"
  | .serviceQueue => "SERVICE_QUEUE"

/-- The name a category is seeded with. -/
def displayName : Category → String
  | .unknown => "Unknown"
  | .apiPublic => "Public API"
  | .apiAdmin => "Admin API"
  | .apiExternal => "External API"
  | .apiInternal => "Internal API"
  | .healthSystem => "Health Check"
  | .serviceQueue => "Queue Service"

/-- The description a category is seeded with. -/
def description : Category → String
  | .unknown => "Requests that match no known endpoint prefix"
  | .apiPublic => "Public endpoints under /api"
  | .apiAdmin => "Administrative endpoints under /admin"
  | .apiExternal => "Partner-facing endpoints under /external"
  | .apiInternal => "Service-to-service endpoints under /internal"
  | .healthSystem => "Liveness and readiness probes under /health"
  | .serviceQueue => "Queue endpoints under /queue"

/-- The category with a given code, up to the case of ASCII letters. -/
def ofCode? (text : String) : Option Category :=
  all.find? fun category => Text.sameLetters text category.code

/-- The category with exactly the given code. -/
def ofExactCode? (text : String) : Option Category :=
  all.find? fun category => text == category.code

/-- The wording of the fault of a text that is no category's code. -/
def unmatchedMessage : String := "Matching variant not found"

/-- The beginnings of paths that decide a category, in the order in which they are tried. -/
def pathBeginnings : List (String × Category) :=
  [("/admin", .apiAdmin), ("/external", .apiExternal), ("/internal", .apiInternal),
    ("/health", .healthSystem), ("/queue", .serviceQueue), ("/api", .apiPublic)]

/-- The category of a request path. -/
def ofPath (path : String) : Category :=
  match pathBeginnings.find? fun entry => entry.1.toList.isPrefixOf path.toList with
  | some (_, category) => category
  | none => .unknown

end Category

/-- The type tag of an event. -/
inductive EventType
  | access
deriving DecidableEq, Repr

namespace EventType

/-- All event types. -/
def all : List EventType := [.access]

/-- The tag an event type is transmitted under. -/
def tag : EventType → String
  | .access => "ACCESS"

/-- The event type with a given tag, up to the case of ASCII letters. -/
def ofTag? (text : String) : Option EventType :=
  all.find? fun eventType => Text.sameLetters text eventType.tag

/-- The event type with exactly the given tag. -/
def ofExactTag? (text : String) : Option EventType :=
  all.find? fun eventType => text == eventType.tag

/-- The event type of a tag that may be surrounded by blanks. -/
def classify (text : String) : Option EventType :=
  ofTag? (Text.trim text)

end EventType

end AccessFeed.Event
