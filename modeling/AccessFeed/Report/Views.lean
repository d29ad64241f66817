/-
This file shows the values of the pipeline as JSON, as an operator is told of
them.
-/

import AccessFeed.Archive.Category
import AccessFeed.Event.Access
import AccessFeed.Event.HandlerError
import AccessFeed.Json.Members
import AccessFeed.Retention.Cleanup
import AccessFeed.Settings.Check
import AccessFeed.Settings.Layout
import AccessFeed.System.Basic

namespace AccessFeed

open Calendar (Instant Zone)
open Event (AccessEvent Category Payload)

/-- A failure with its classification. -/
def Failure.view (failure : Failure) : Json :=
  .ofMembers
    [("variant", .string failure.name), ("message", .string failure.message),
      ("kind", .string failure.kind.name), ("kind_display", .string failure.kind.display),
      ("code", .string failure.kind.code), ("status", .integer failure.kind.status)]

/-- A category row. -/
def Archive.CategoryRow.view (row : Archive.CategoryRow) : Json :=
  .ofMembers
    [("id", .integer row.id), ("code", .string row.category.code), ("name", .string row.name),
      ("description", .string row.description), ("is_deleted", .bool row.isDeleted),
      ("times_sane", .bool (decide (row.createdAt ≤ row.updatedAt)))]

/-- An instant as its seconds and nanoseconds. -/
def Calendar.Instant.view (at_ : Instant) : Json :=
  .array [.integer at_.seconds, .integer at_.nanos]

/-- The instant with given seconds and nanoseconds, if it lies within the calendar. -/
def Calendar.Instant.ofJson? (json : Json) : Option Instant :=
  match json.elements with
  | [.integer seconds, .integer nanos] => Instant.ofParts? seconds nanos.toNat
  | _ => none

/-- The sixteen digits of the word of a floating-point number, in lower case. -/
def Binary64.wordDigits (x : Binary64) : String :=
  let digits := Nat.toDigits 16 x.bits.toNat
  String.ofList (List.replicate (16 - digits.length) '0' ++ digits)

/-- A floating-point number as its word; those that are none are not told apart. -/
def Binary64.view (x : Binary64) : Json :=
  .string (if x.isNaN then "nan" else x.wordDigits)

/-- The floating-point number that a text writes, or zero if it writes none. -/
def Binary64.ofText (text : String) : Binary64 :=
  match Binary64.read text.toList with
  | .ok value => value
  | .error _ => .zero false

/-- A decoded payload. -/
def Event.Payload.view (payload : Payload) : Json :=
  .ofMembers
    [("type", .string payload.eventType), ("category_code", .string payload.category),
      ("user_id", .string payload.userId), ("endpoint", .string payload.endpoint),
      ("http_method", .string payload.httpMethod), ("method_name", .ofText? payload.methodName),
      ("response_status", .integer payload.responseStatus),
      ("response_time", payload.responseTime.view), ("ip_address", .string payload.ipAddress),
      ("user_agent", .string payload.userAgent), ("inputs", .ofText? payload.inputs),
      ("outputs", .ofText? payload.outputs), ("created_at_raw", .ofText? payload.createdAt),
      ("created_at", (payload.createdInstant?.map Instant.view).getD .null)]

/-- An access event from its JSON form, in which absent texts are empty. -/
def Event.AccessEvent.ofJson (json : Json) : AccessEvent :=
  { eventType := .access
    category := (Category.ofCode? (json.text "category_code")).getD .unknown
    userId := json.text "user_id"
    endpoint := json.text "endpoint"
    httpMethod := json.text "http_method"
    methodName := json.text "method_name"
    responseStatus := json.int "response_status"
    responseTime := .ofText (json.text "response_time" "0")
    ipAddress := json.text "ip_address"
    userAgent := json.text "user_agent"
    inputs := (json.at_ "inputs").text?
    outputs := (json.at_ "outputs").text? }

/-- A report of the health of the store. -/
def HealthReport.view (report : HealthReport) : Json :=
  .ofMembers
    [("cluster_ok", .bool report.clusterOk), ("stream_readable", .bool report.streamReadable),
      ("detail", .ofText? report.detail), ("healthy", .bool report.isHealthy)]

/-- A report of the cleanup. -/
def Retention.CleanupReport.view (report : Retention.CleanupReport) : Json :=
  .ofMembers
    [("pending_acknowledged", .integer report.pendingAcknowledged),
      ("dead_lettered", .integer report.deadLettered),
      ("entries_deleted", .integer report.entriesDeleted),
      ("dead_letters_deleted", .integer report.deadLettersDeleted),
      ("rows_deleted", .integer report.rowsDeleted),
      ("failures", .ofTexts report.failures), ("clean", .bool report.isClean)]

/-- The container of listeners. -/
def Container.view (container : Container) : Json :=
  .ofMembers
    [("running", .bool container.running.isSome), ("active", .integer container.activeCount),
      ("registered", .ofTexts (container.registered.map ListenerSpec.display))]

/-- The transitions of the monitor that were made at all, with how often. -/
def Monitor.transitionsView (monitor : Monitor) : Json :=
  .ofMembers (MonitorState.all.flatMap fun source => MonitorState.all.filterMap fun target =>
    match monitor.transitionCount source target with
    | 0 => none
    | count => some (source.name ++ "->" ++ target.name, .integer count))

/-- The monitor. -/
def Monitor.view (monitor : Monitor) : Json :=
  .ofMembers
    [("state", .string monitor.state.name), ("is_monitoring", .bool monitor.isMonitoring),
      ("transitions", monitor.transitionsView)]

/-- A critical event. -/
def CriticalEvent.view (event : CriticalEvent) : Json :=
  .ofTexts
    [event.listener.stream, event.listener.group, event.listener.consumer, event.reason.label,
      event.reason.message]

/-! ### Settings -/

namespace Settings

/-- The most consumers of a set that are listed by name. -/
def listedConsumers : Nat := 50

/-- The names of the consumers of a set, unless there are too many. -/
def ConsumerSet.namesView (set : ConsumerSet) : Json :=
  if listedConsumers < set.consumerCount then .null else .ofTexts set.consumerNames

/-- A failure as its name and message. -/
def failureView (failure : Failure) : Json :=
  .ofMembers [("error", .string failure.name), ("message", .string failure.message)]

/-- Completed settings with what follows from them where there are some zones. -/
def view (json : Json) (zones : List Zone := Zone.database) : Json :=
  let settings := Settings.ofJson json
  let reading := settings.reading
  let millis : List Nat :=
    [settings.server.commandTimeout, reading.pollTimeout, reading.stopGrace,
      settings.watching.checkInterval]
  .ofMembers
    [("config", json),
      ("validate",
        match settings.check zones with
        | .ok () => .null
        | .error failure => failureView failure),
      ("tz",
        match settings.zone zones with
        | .ok zone => .string zone.name
        | .error _ => .null),
      ("is_cluster", .bool settings.server.isCluster),
      ("consumer_names", .array (reading.consumers.map ConsumerSet.namesView)),
      ("millis", .array (millis.map fun (value : Nat) => Json.integer value)),
      ("retention_secs", .integer settings.retention.seconds)]

end Settings

end AccessFeed
