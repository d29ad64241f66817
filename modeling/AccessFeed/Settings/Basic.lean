/-
This file defines the settings of the pipeline with their defaults.

The settings are given in groups, one for each part of the pipeline. Durations
are in milliseconds unless a name says otherwise.
-/

import AccessFeed.Archive.Basic
import AccessFeed.Text.Numeral

namespace AccessFeed.Settings

open Archive (Backend)

/-- How to reach the server of the stream store. -/
structure Server where
  url : String := "redis://127.0.0.1:6379"
  clusterNodes : List String := []
  username : Option String := none
  password : Option String := none
  commandTimeout : Nat := 3000
deriving DecidableEq, Repr

namespace Server

/-- Whether the server is a cluster. -/
def isCluster (server : Server) : Bool :=
  !server.clusterNodes.isEmpty

end Server

/-- A set of consumers of one group of one stream. -/
structure ConsumerSet where
  stream : String
  group : String
  consumerBase : String
  consumerCount : Nat
deriving DecidableEq, Repr, Inhabited

namespace ConsumerSet

/-- The names of the consumers of a set, numbered from one. -/
def consumerNames (set : ConsumerSet) : List String :=
  (List.range set.consumerCount).map fun index =>
    set.consumerBase ++ "-" ++ Text.decimal (index + 1)

end ConsumerSet

/-- How streams are read. -/
structure Reading where
  eventStream : String := "EVENT_STREAM"
  consumers : List ConsumerSet := []
  readCount : Nat := 10
  pollTimeout : Nat := 500
  replayPending : Bool := true
  stopGrace : Nat := 5000
deriving DecidableEq, Repr

/-- How the store is watched after a critical error. -/
structure Watching where
  checkInterval : Nat := 10000
deriving DecidableEq, Repr

/-- What the retention cleanup does, and when. -/
structure Retention where
  enabled : Bool := true
  schedule : String := "0 0 10 * * *"
  retentionDays : Nat := 60
  pendingBatch : Nat := 1000
  deleteBatch : Nat := 5000
  ackStalePending : Bool := true
  deadLetterEnabled : Bool := true
  deadLetterSuffix : String := ":dlq"
deriving DecidableEq, Repr

namespace Retention

/-- The stream that holds the dead letters of another. -/
def deadLetterStream (retention : Retention) (stream : String) : String :=
  stream ++ retention.deadLetterSuffix

/-- The seconds that entries are retained. -/
def seconds (retention : Retention) : Nat :=
  retention.retentionDays * 86400

end Retention

/-- Where events are kept. -/
structure Storage where
  backend : Backend := .disk
  path : Option String := none
deriving DecidableEq, Repr

/-- The time zone in which events are dated unless another one is set. -/
def defaultTimezone : String := "Asia/Seoul"

/-- What the program reports about itself. -/
structure Reporting where
  logLevel : String := "info"
  jsonLogs : Bool := false
  metricsEnabled : Bool := true
  serviceName : String := "access-event-stream"
deriving DecidableEq, Repr

end Settings

/-- All settings of the pipeline. -/
structure Settings where
  server : Settings.Server
  reading : Settings.Reading
  watching : Settings.Watching := {}
  retention : Settings.Retention := {}
  storage : Settings.Storage := {}
  reporting : Settings.Reporting := {}
  timezone : String := Settings.defaultTimezone
deriving DecidableEq, Repr

end AccessFeed
