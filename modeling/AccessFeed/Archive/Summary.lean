/-
This file summarises the events of a day by category.

A day is one of the configured time zone. The summary counts every event of the
day and lists the events of each category that is not deleted, in the order of
the categories. Of two rows of one category only the first is given its events.
-/

import AccessFeed.Archive.Basic
import AccessFeed.Calendar.Stamp
import AccessFeed.Calendar.Zone
import AccessFeed.Json.Value

namespace AccessFeed.Archive

open Calendar (Date Instant Zone)
open Event (Category)

/-- The events of one category. -/
structure CategorySummary where
  category : Category
  events : List KeptEvent
deriving DecidableEq, Repr

/-- The events of a day. -/
structure DailySummary where
  date : Date
  total : Nat
  categories : List CategorySummary
deriving DecidableEq, Repr

/-- The failure of a span of time that ends before it begins. -/
def reversedSpan (start stop : Instant) : Failure :=
  .invalidParameter ("Range start " ++ start.stamp 0 .asNeeded ++ " is after its end " ++
    stop.stamp 0 .asNeeded)

/-- The events of a span of time, which must not end before it begins. -/
def findSpan (archive : Archive) (start stop : Instant) : Reply (List KeptEvent) :=
  if stop < start then (.error (reversedSpan start stop), archive)
  else archive.findBetween start stop

/-- The events of each category of a list. A category that comes a second time is left without
events. -/
def group (events : List KeptEvent) (taken : List Category) :
    List CategoryRow → List CategorySummary
  | [] => []
  | row :: rest =>
    let own := if taken.contains row.category then []
      else events.filter fun kept => kept.event.category == row.category
    ⟨row.category, own⟩ :: group events (row.category :: taken) rest

/-- The summary of a day of a zone. -/
def summary (archive : Archive) (zone : Zone) (date : Date) : Reply DailySummary :=
  match archive.findAll with
  | (.error failure, archive) => (.error failure, archive)
  | (.ok rows, archive) =>
    match zone.dayBounds date with
    | .error failure => (.error failure, archive)
    | .ok (start, stop) =>
      match archive.findSpan start stop with
      | (.error failure, archive) => (.error failure, archive)
      | (.ok events, archive) => (.ok ⟨date, events.length, group events [] rows⟩, archive)

/-! ### Summaries as JSON -/

/-- An optional text as JSON. -/
def optionalText : Option String → Json
  | some text => .string text
  | none => .null

/-- The identifier of a kept event: a version 7 identifier that begins with the milliseconds at
which the event was kept and ends with its number. -/
def KeptEvent.identifier (kept : KeptEvent) : String :=
  let hex (value width : Nat) : String :=
    let digits := Nat.toDigits 16 value
    String.ofList (List.replicate (width - digits.length) '0' ++ digits)
  let millis := kept.storedAt.millis.toNat
  hex (millis / 2 ^ 16 % 2 ^ 32) 8 ++ "-" ++ hex (millis % 2 ^ 16) 4 ++ "-7" ++
    hex (kept.serial / 2 ^ 62 % 2 ^ 12) 3 ++ "-" ++
    hex (2 ^ 15 + kept.serial / 2 ^ 48 % 2 ^ 14) 4 ++ "-" ++ hex (kept.serial % 2 ^ 48) 12

/-- The event inside a kept event as JSON, its members in the order of its fields. -/
def NewEvent.toJson (event : NewEvent) : Json :=
  .object [
    ("source_id", .string event.sourceId),
    ("category_id", .integer event.categoryId),
    ("category_code", .string event.category.code),
    ("user_id", .string event.userId),
    ("endpoint", .string event.endpoint),
    ("http_method", .string event.httpMethod),
    ("method_name", optionalText event.methodName),
    ("response_status", .integer event.responseStatus),
    ("response_time", .float event.responseTime),
    ("ip_address", .string event.ipAddress),
    ("user_agent", .string event.userAgent),
    ("inputs", optionalText event.inputs),
    ("outputs", optionalText event.outputs),
    ("created_at", .string event.createdAt.zuluStamp)]

/-- A kept event as JSON. -/
def KeptEvent.toJson (kept : KeptEvent) : Json :=
  .object [
    ("id", .string kept.identifier),
    ("event", kept.event.toJson),
    ("stored_at", .string kept.storedAt.zuluStamp)]

/-- A summary as JSON. -/
def DailySummary.toJson (summary : DailySummary) : Json :=
  .object [
    ("accessDate", .string summary.date.display),
    ("totalAccessCount", .integer summary.total),
    ("accessEventSummaries", .array (summary.categories.map fun part =>
      .object [
        ("categoryCode", .string part.category.code),
        ("accessEvents", .array (part.events.map KeptEvent.toJson))]))]

end AccessFeed.Archive
