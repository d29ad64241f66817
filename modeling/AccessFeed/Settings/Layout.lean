/-
This file defines the layout of the settings and how they are taken from it.

The layout gives every field its name, its shape and its default. A completed
value of the layout holds all fields, and from it the settings are taken.
-/

import AccessFeed.Settings.Basic
import AccessFeed.Settings.Shape

namespace AccessFeed.Settings

open Archive (Backend)

/-- A field with a default. -/
def defaulted (name : String) (shape : Shape) (value : Json) : String × Absence × Shape :=
  (name, .filled value, shape)

/-- A field that has to be there. -/
def needed (name : String) (shape : Shape) : String × Absence × Shape :=
  (name, .required, shape)

/-- A field that may be left out or be null. -/
def left (name : String) (shape : Shape) : String × Absence × Shape :=
  (name, .omitted, .optional shape)

namespace Layout

/-- The layout of a consumer set. -/
def consumerSet : Shape :=
  .record "ConsumerSet"
    [needed "stream_key" .text, needed "group_name" .text, needed "consumer_prefix" .text,
      needed "consumer_count" (.number .size)]

/-- The layout of the server's settings. -/
def server : Shape :=
  let absent : Server := {}
  .record "RedisConfig"
    [defaulted "url" .text (.string absent.url),
      defaulted "cluster_nodes" (.list .text) (.ofTexts absent.clusterNodes),
      left "username" .text,
      left "password" .text,
      defaulted "command_timeout_ms" (.number .word) (.integer absent.commandTimeout)]

/-- The layout of the settings of reading. -/
def reading : Shape :=
  let absent : Reading := {}
  .record "StreamsConfig"
    [defaulted "event_stream_key" .text (.string absent.eventStream),
      defaulted "consumers" (.list consumerSet) (.array []),
      defaulted "read_count" (.number .size) (.integer absent.readCount),
      defaulted "poll_timeout_ms" (.number .word) (.integer absent.pollTimeout),
      defaulted "replay_pending_on_start" .flag (.bool absent.replayPending),
      defaulted "stop_grace_ms" (.number .word) (.integer absent.stopGrace)]

/-- The layout of the settings of watching. -/
def watching : Shape :=
  let absent : Watching := {}
  .record "MonitorConfig"
    [defaulted "check_interval_ms" (.number .word) (.integer absent.checkInterval)]

/-- The layout of the settings of retention. -/
def retention : Shape :=
  let absent : Retention := {}
  .record "RetentionConfig"
    [defaulted "enabled" .flag (.bool absent.enabled),
      defaulted "schedule" .text (.string absent.schedule),
      defaulted "retention_days" (.number .half) (.integer absent.retentionDays),
      defaulted "pending_batch_size" (.number .size) (.integer absent.pendingBatch),
      defaulted "delete_batch_size" (.number .size) (.integer absent.deleteBatch),
      defaulted "ack_stale_pending" .flag (.bool absent.ackStalePending),
      defaulted "dead_letter_enabled" .flag (.bool absent.deadLetterEnabled),
      defaulted "dead_letter_suffix" .text (.string absent.deadLetterSuffix)]

/-- The names of the kinds of storage. -/
def backends : List (String × Backend) :=
  [("sled", .disk), ("memory", .memory)]

/-- The name of a kind of storage. -/
def backendName (backend : Backend) : String :=
  ((backends.find? fun entry => entry.2 == backend).map Prod.fst).getD ""

/-- The layout of the settings of storage. -/
def storage : Shape :=
  let absent : Storage := {}
  .record "StorageConfig"
    [defaulted "backend" (.choice "StorageBackend" (backends.map Prod.fst))
        (.string (backendName absent.backend)),
      left "path" .path]

/-- The layout of the settings of reporting. -/
def reporting : Shape :=
  let absent : Reporting := {}
  .record "ObservabilityConfig"
    [defaulted "log_level" .text (.string absent.logLevel),
      defaulted "json_logs" .flag (.bool absent.jsonLogs),
      defaulted "metrics_enabled" .flag (.bool absent.metricsEnabled),
      defaulted "service_name" .text (.string absent.serviceName)]

/-- A shape completed from nothing. -/
def defaults (shape : Shape) : Json :=
  match shape.read (.object []) with
  | .ok value => value
  | .error _ => .null

/-- The layout of all settings. -/
def whole : Shape :=
  .record "Config"
    [needed "redis" server,
      needed "streams" reading,
      defaulted "monitor" watching (defaults watching),
      defaulted "retention" retention (defaults retention),
      defaulted "storage" storage (defaults storage),
      defaulted "observability" reporting (defaults reporting),
      defaulted "timezone" .text (.string defaultTimezone)]

end Layout

/-! ### Settings from completed values -/

/-- A consumer set from a completed value. -/
def ConsumerSet.ofJson (json : Json) : ConsumerSet :=
  { stream := json.text "stream_key"
    group := json.text "group_name"
    consumerBase := json.text "consumer_prefix"
    consumerCount := json.nat "consumer_count" }

/-- The settings of the server from a completed value. -/
def Server.ofJson (json : Json) : Server :=
  { url := json.text "url"
    clusterNodes := json.texts "cluster_nodes"
    username := (json.at_ "username").text?
    password := (json.at_ "password").text?
    commandTimeout := json.nat "command_timeout_ms" }

/-- The settings of reading from a completed value. -/
def Reading.ofJson (json : Json) : Reading :=
  { eventStream := json.text "event_stream_key"
    consumers := (json.list "consumers").map ConsumerSet.ofJson
    readCount := json.nat "read_count"
    pollTimeout := json.nat "poll_timeout_ms"
    replayPending := json.flag "replay_pending_on_start"
    stopGrace := json.nat "stop_grace_ms" }

/-- The settings of retention from a completed value. -/
def Retention.ofJson (json : Json) : Retention :=
  { enabled := json.flag "enabled"
    schedule := json.text "schedule"
    retentionDays := json.nat "retention_days"
    pendingBatch := json.nat "pending_batch_size"
    deleteBatch := json.nat "delete_batch_size"
    ackStalePending := json.flag "ack_stale_pending"
    deadLetterEnabled := json.flag "dead_letter_enabled"
    deadLetterSuffix := json.text "dead_letter_suffix" }

/-- The settings of storage from a completed value. -/
def Storage.ofJson (json : Json) : Storage :=
  { backend :=
      ((Layout.backends.find? fun entry => entry.1 == json.text "backend").map Prod.snd).getD .disk
    path := (json.at_ "path").text? }

/-- The settings of reporting from a completed value. -/
def Reporting.ofJson (json : Json) : Reporting :=
  { logLevel := json.text "log_level"
    jsonLogs := json.flag "json_logs"
    metricsEnabled := json.flag "metrics_enabled"
    serviceName := json.text "service_name" }

end AccessFeed.Settings

namespace AccessFeed

/-- All settings from a completed value. -/
def Settings.ofJson (json : Json) : Settings :=
  { server := .ofJson (json.at_ "redis")
    reading := .ofJson (json.at_ "streams")
    watching := { checkInterval := (json.at_ "monitor").nat "check_interval_ms" }
    retention := .ofJson (json.at_ "retention")
    storage := .ofJson (json.at_ "storage")
    reporting := .ofJson (json.at_ "observability")
    timezone := json.text "timezone" }

end AccessFeed
