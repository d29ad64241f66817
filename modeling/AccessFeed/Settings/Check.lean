/-
This file defines which settings the pipeline can run with.

The faults are looked for in a fixed order, and the first one is reported. Which
time zones there are is told by a table of zones.
-/

import AccessFeed.Calendar.Zone
import AccessFeed.Settings.Basic

namespace AccessFeed.Settings

open Calendar (Zone)

/-- Checks a consumer set. -/
def ConsumerSet.check (set : ConsumerSet) : Except Failure Unit :=
  if set.stream.isEmpty || set.group.isEmpty then
    .error (.configuration
      ("Consumer set '" ++ set.consumerBase ++ "' requires stream_key and group_name"))
  else if set.consumerCount = 0 then
    .error (.configuration
      ("Consumer set '" ++ set.consumerBase ++ "' on stream '" ++ set.stream ++
        "' has consumer_count = 0"))
  else .ok ()

/-- The time zone of the settings among some zones. -/
def zone (settings : Settings) (zones : List Zone := Zone.database) : Except Failure Zone :=
  match Zone.find? settings.timezone zones with
  | some zone => .ok zone
  | none =>
    .error (.configuration
      ("Invalid timezone '" ++ settings.timezone ++ "': " ++
        Zone.unknownMessage settings.timezone))

/-- Checks whether the pipeline can run with the settings where there are some zones. -/
def check (settings : Settings) (zones : List Zone := Zone.database) : Except Failure Unit := do
  if settings.reading.eventStream.isEmpty then
    .error (.configuration "streams.event_stream_key must not be empty")
  settings.reading.consumers.forM ConsumerSet.check
  if settings.watching.checkInterval = 0 then
    .error (.configuration "monitor.check_interval_ms must be greater than zero")
  if settings.retention.retentionDays = 0 then
    .error (.configuration "retention.retention_days must be at least 1")
  let _ ← settings.zone zones
  .ok ()

end AccessFeed.Settings
