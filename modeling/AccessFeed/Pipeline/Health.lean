/-
This file defines the probe that decides whether the listeners can be restarted.

The store is healthy when its cluster is and the first entry of the event stream
can be read. Both are always asked, so that a report names everything that is
wrong.
-/

import AccessFeed.Pipeline.Basic

namespace AccessFeed

open Streams (StoreError StreamId)

/-- What one half of a probe found wrong, if anything. -/
abbrev Finding : Type := Option String

/-- The outcome of a probe. -/
structure HealthReport where
  clusterOk : Bool
  streamReadable : Bool
  detail : Option String
deriving DecidableEq, Repr

namespace HealthReport

/-- Whether the listeners can be restarted. -/
def isHealthy (report : HealthReport) : Bool :=
  report.clusterOk && report.streamReadable

/-- The report of what the two halves of a probe found. -/
def ofFindings (cluster stream : Finding) : HealthReport :=
  { clusterOk := cluster.isNone
    streamReadable := stream.isNone
    detail :=
      match cluster, stream with
      | some first, some second => some (first ++ "; " ++ second)
      | some first, none => some first
      | none, found => found }

end HealthReport

namespace Pipeline

/-- The state of a healthy cluster. -/
def healthyState : String := "ok"

/-- Asks for the state of the cluster. -/
def probeCluster (pipeline : Pipeline) : Finding × Pipeline :=
  match pipeline.ask fun service => service.clusterState with
  | (.ok state, pipeline) =>
    (if state = healthyState then none else some ("cluster_state:" ++ state), pipeline)
  | (.error error, pipeline) => (some error.message, pipeline)

/-- Reads the first entry of a stream. -/
def probeStream (pipeline : Pipeline) (stream : String) : Finding × Pipeline :=
  match pipeline.ask fun service => service.range stream .least .greatest 1 with
  | (.ok records, pipeline) =>
    (if records.isEmpty then some ("stream " ++ stream ++ " is empty") else none, pipeline)
  | (.error error, pipeline) => (some error.message, pipeline)

/-- Makes both halves of a probe. -/
def checkHealth (pipeline : Pipeline) (stream : String) : HealthReport × Pipeline :=
  let (cluster, pipeline) := pipeline.probeCluster
  let (found, pipeline) := pipeline.probeStream stream
  (.ofFindings cluster found, pipeline)

end Pipeline

end AccessFeed
