/-
This file defines the numbers that the pipeline counts, and their text form.

Each family of numbers has a name and the names of its labels. A number is kept
for every combination of label values that was met, from the first time on, even
when it was met with nothing to add. Nothing is counted while counting is
disabled. Of the durations of handlers only how many there were is kept.
-/

import AccessFeed.Table
import AccessFeed.Text.Numeral

namespace AccessFeed

/-- The families of counted numbers. -/
inductive MetricFamily
  | activeListeners
  | cleanupEntries
  | cleanupRowsDeleted
  | eventsPublished
  | handlerDuration
  | listenerErrors
  | listenerRestarts
  | monitorTransitions
  | recordsDispatched
deriving DecidableEq, Repr

namespace MetricFamily

/-- All families in ascending order of their names. -/
def all : List MetricFamily :=
  [.activeListeners, .cleanupEntries, .cleanupRowsDeleted, .eventsPublished, .handlerDuration,
    .listenerErrors, .listenerRestarts, .monitorTransitions, .recordsDispatched]

/-- The name of the number of a family. -/
def name : MetricFamily → String
  | .activeListeners => "aes_active_listeners"
  | .cleanupEntries => "aes_cleanup_entries_total"
  | .cleanupRowsDeleted => "aes_cleanup_rows_deleted_total"
  | .eventsPublished => "aes_events_published_total"
  | .handlerDuration => "aes_handler_duration_seconds_count"
  | .listenerErrors => "aes_listener_errors_total"
  | .listenerRestarts => "aes_listener_restarts_total"
  | .monitorTransitions => "aes_monitor_transitions_total"
  | .recordsDispatched => "aes_records_dispatched_total"

/-- The names of the labels of a family, in ascending order. -/
def labels : MetricFamily → List String
  | .activeListeners => ["group", "stream"]
  | .cleanupEntries => ["action", "stream"]
  | .cleanupRowsDeleted => ["table"]
  | .eventsPublished => ["status", "stream"]
  | .handlerDuration => ["event_type"]
  | .listenerErrors => ["group", "kind", "stream"]
  | .listenerRestarts => ["trigger"]
  | .monitorTransitions => ["from", "to"]
  | .recordsDispatched => ["group", "outcome", "stream"]

end MetricFamily

/-- A family and a value for each of its labels. -/
structure Series where
  family : MetricFamily
  values : List String
deriving DecidableEq, Repr

namespace Series

/-- The running listeners of a group. -/
def activeListeners (stream group : String) : Series := ⟨.activeListeners, [group, stream]⟩

/-- The entries of a stream that the cleanup treated in some way. -/
def cleanupEntries (stream action : String) : Series := ⟨.cleanupEntries, [action, stream]⟩

/-- The kept events that the cleanup removed. -/
def cleanupRowsDeleted : Series := ⟨.cleanupRowsDeleted, ["access_events"]⟩

/-- The events published to a stream with some success. -/
def eventsPublished (stream status : String) : Series := ⟨.eventsPublished, [status, stream]⟩

/-- The calls of the handler of an event type. -/
def handlerDuration (eventType : String) : Series := ⟨.handlerDuration, [eventType]⟩

/-- The read errors of the listeners of a group. -/
def listenerErrors (stream group kind : String) : Series :=
  ⟨.listenerErrors, [group, kind, stream]⟩

/-- The restarts of the listeners by the monitor. -/
def listenerRestarts : Series := ⟨.listenerRestarts, ["health_recovered"]⟩

/-- The changes of the monitor between two states. -/
def monitorTransitions (source target : String) : Series :=
  ⟨.monitorTransitions, [source, target]⟩

/-- The records dispatched for a group with some outcome. -/
def recordsDispatched (stream group outcome : String) : Series :=
  ⟨.recordsDispatched, [group, outcome, stream]⟩

end Series

/-- The counted numbers. -/
structure Metrics where
  enabled : Bool
  numbers : Table Series Int
deriving Repr

namespace Metrics

/-- Nothing counted yet. -/
def fresh (enabled : Bool) : Metrics := ⟨enabled, .empty⟩

/-- The number of a series. -/
def number (metrics : Metrics) (series : Series) : Int :=
  (metrics.numbers.get? series).getD 0

/-- Adds to the number of a series, unless counting is disabled. -/
def add (metrics : Metrics) (series : Series) (amount : Int) : Metrics :=
  if metrics.enabled then
    { metrics with numbers := metrics.numbers.set series (metrics.number series + amount) }
  else metrics

/-- Stops counting. What was counted stays. -/
def disable (metrics : Metrics) : Metrics :=
  { metrics with enabled := false }

/-- A label value with its backslashes, quotes and line ends escaped. -/
def escapedValue (value : String) : String :=
  String.ofList (value.toList.flatMap fun c =>
    if c = '\\' then ['\\', '\\']
    else if c = '"' then ['\\', '"']
    else if c = '\n' then ['\\', 'n']
    else [c])

/-- The line of a number. -/
def line (series : Series) (number : Int) : String :=
  let labels := (series.family.labels.zip series.values).map fun label =>
    label.1 ++ "=\"" ++ escapedValue label.2 ++ "\""
  series.family.name ++ "\x7b" ++ ",".intercalate labels ++ "\x7d " ++ Text.signedDecimal number

/-- Whether a list of label values comes before another or is the same. -/
def valuesBefore : List String → List String → Bool
  | first :: firsts, second :: seconds =>
    if first = second then valuesBefore firsts seconds else decide (first < second)
  | _, _ => true

/-- The lines of all numbers, by families and then by label values. -/
def lines (metrics : Metrics) : List String :=
  MetricFamily.all.flatMap fun family =>
    let rows := metrics.numbers.rows.filter fun row => row.1.family == family
    let sorted := rows.mergeSort fun first second => valuesBefore first.1.values second.1.values
    sorted.map fun row => line row.1 row.2

end Metrics

end AccessFeed
