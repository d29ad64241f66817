/-
This file defines the retention cleanup of streams and kept events.

A run treats the consumer sets, then the streams, then their dead-letter
streams, then the archive. Each part may fail on its own: its failure is logged
and reported, and the others still run. Pending entries are acknowledged by
force, each copied to the dead-letter stream first, and an entry whose copy
fails stays pending. Of the expired entries of a stream the first is kept, so
that the stream and its groups survive.
-/

import AccessFeed.Calendar.Stamp
import AccessFeed.Pipeline.Basic
import AccessFeed.Retention.Error
import AccessFeed.Settings.Basic

namespace AccessFeed.Retention

open Calendar (Instant)
open Settings (ConsumerSet)
open Streams (PendingEntry Record StoreError StreamId)

/-- What the cleanup did to the pending entries of a group. -/
structure PendingCleanup where
  acknowledged : Nat := 0
  deadLettered : Nat := 0
deriving DecidableEq, Repr

/-- What a run of the cleanup did. -/
structure CleanupReport where
  pendingAcknowledged : Nat := 0
  deadLettered : Nat := 0
  entriesDeleted : Nat := 0
  deadLettersDeleted : Nat := 0
  rowsDeleted : Nat := 0
  failures : List String := []
deriving DecidableEq, Repr

namespace CleanupReport

/-- Whether nothing failed. -/
def isClean (report : CleanupReport) : Bool :=
  report.failures.isEmpty

/-- The report with a failure added. -/
def fail (report : CleanupReport) (error : CleanupError) : CleanupReport :=
  { report with failures := report.failures ++ [error.message] }

end CleanupReport

/-- The names of the fields that a dead letter has besides those of its source. -/
structure DeadLetterNames where
  sourceId : String := "dlq_source_id"
  group : String := "dlq_group"
  consumer : String := "dlq_consumer"
  deliveries : String := "dlq_delivery_count"
  movedAt : String := "dlq_moved_at"

/-- The names of the fields of dead letters. -/
def deadLetterNames : DeadLetterNames := {}

/-- The fields of the dead letter of a pending entry, those of its source first. -/
def deadLetterFields (record : Record) (group : String) (entry : PendingEntry) (now : Instant) :
    List (String × String) :=
  record.fields.entries ++
    [(deadLetterNames.sourceId, entry.id.display),
      (deadLetterNames.group, group),
      (deadLetterNames.consumer, entry.consumer),
      (deadLetterNames.deliveries, Text.decimal entry.deliveries),
      (deadLetterNames.movedAt, now.stamp 0 .asNeeded)]

/-- The cleanup of some consumer sets. -/
structure Cleaner where
  consumers : List ConsumerSet
  settings : Settings.Retention
deriving Repr

namespace Cleaner

/-! ### Pending entries -/

/-- Copies a pending entry to the dead-letter stream, unless it is no longer in its own stream, and
answers whether it was copied. -/
def deadLetter (cleaner : Cleaner) (stream group : String) (entry : PendingEntry)
    (pipeline : Pipeline) : Except StoreError Bool × Pipeline :=
  match pipeline.ask fun service => service.range stream entry.id entry.id 1 with
  | (.error error, pipeline) => (.error error, pipeline)
  | (.ok [], pipeline) => (.ok false, pipeline)
  | (.ok (record :: _), pipeline) =>
    let fields := deadLetterFields record group entry pipeline.wall
    let target := cleaner.settings.deadLetterStream stream
    match pipeline.ask fun service => service.append pipeline.wallMillis target fields with
    | (.error error, pipeline) => (.error error, pipeline)
    | (.ok _, pipeline) => (.ok true, pipeline)

/-- Copies pending entries and answers which of them can be acknowledged, with the number of
copies. -/
def deadLetterAll (cleaner : Cleaner) (stream group : String) :
    List PendingEntry → Pipeline → (List StreamId × Nat) × Pipeline
  | [], pipeline => (([], 0), pipeline)
  | entry :: rest, pipeline =>
    match cleaner.deadLetter stream group entry pipeline with
    | (.error _, pipeline) =>
      deadLetterAll cleaner stream group rest
        (pipeline.warn "Dead-letter copy failed, leaving entry pending")
    | (.ok copied, pipeline) =>
      let ((ids, copies), pipeline) := deadLetterAll cleaner stream group rest pipeline
      ((entry.id :: ids, (if copied then 1 else 0) + copies), pipeline)

/-- The pending entries that can be acknowledged, copied first where dead letters are kept. -/
def release (cleaner : Cleaner) (stream group : String) (entries : List PendingEntry)
    (pipeline : Pipeline) : (List StreamId × Nat) × Pipeline :=
  if cleaner.settings.deadLetterEnabled then
    cleaner.deadLetterAll stream group entries pipeline
  else ((entries.map PendingEntry.id, 0), pipeline)

/-- Writes down what was done to the pending entries of a stream. -/
def notePending (stream : String) (done : PendingCleanup) (pipeline : Pipeline) : Pipeline :=
  let pipeline := pipeline.warn "Force-acknowledged stale pending entries"
  let pipeline := pipeline.count (.cleanupEntries stream "acknowledged") done.acknowledged
  pipeline.count (.cleanupEntries stream "dead_lettered") done.deadLettered

/-- Acknowledges by force the entries of a group that were released. -/
def forceAcknowledge (stream group : String) (ids : List StreamId) (pipeline : Pipeline) :
    Except StoreError Nat × Pipeline :=
  if ids.isEmpty then (.ok 0, pipeline)
  else pipeline.ask fun service => service.acknowledge stream group ids

/-- Treats one batch of the pending entries of a consumer set. -/
def acknowledgePending (cleaner : Cleaner) (set : ConsumerSet) (pipeline : Pipeline) :
    Except CleanupError PendingCleanup × Pipeline :=
  if cleaner.settings.ackStalePending then
    let batch := cleaner.settings.pendingBatch
    match pipeline.ask fun service => service.pending set.stream set.group batch with
    | (.error error, pipeline) => (.error (.stream error), pipeline)
    | (.ok [], pipeline) => (.ok {}, pipeline)
    | (.ok entries, pipeline) =>
      let ((ids, copies), pipeline) := cleaner.release set.stream set.group entries pipeline
      match forceAcknowledge set.stream set.group ids pipeline with
      | (.error error, pipeline) => (.error (.stream error), pipeline)
      | (.ok acknowledged, pipeline) =>
        let done : PendingCleanup := { acknowledged, deadLettered := copies }
        (.ok done, notePending set.stream done pipeline)
  else (.ok {}, pipeline)

/-! ### Expired entries -/

/-- The instant before which everything is expired, if the calendar reaches it. -/
def threshold? (cleaner : Cleaner) (now : Instant) : Option Instant :=
  now.daysEarlier? cleaner.settings.retentionDays

/-- Deletes entries of a stream, of which there is at least one. -/
def deleteEntries (stream : String) (ids : List StreamId) (pipeline : Pipeline) :
    Except CleanupError Nat × Pipeline :=
  match pipeline.ask fun service => service.delete stream ids with
  | (.error error, pipeline) => (.error (.stream error), pipeline)
  | (.ok deleted, pipeline) =>
    (.ok deleted, pipeline.count (.cleanupEntries stream "deleted") deleted)

/-- Deletes one batch of the entries up to a cutoff, sparing the first ones. -/
def deleteUpTo (cleaner : Cleaner) (spared : Nat) (stream : String) (cutoff : StreamId)
    (pipeline : Pipeline) : Except CleanupError Nat × Pipeline :=
  let batch := cleaner.settings.deleteBatch
  match pipeline.ask fun service => service.range stream .least cutoff batch with
  | (.error error, pipeline) => (.error (.stream error), pipeline)
  | (.ok records, pipeline) =>
    let ids := (records.drop spared).map Record.id
    if ids.isEmpty then (.ok 0, pipeline) else deleteEntries stream ids pipeline

/-- Deletes expired entries of a stream, whose first entry is spared. -/
def removeExpired (cleaner : Cleaner) (stream : String) (threshold : Instant)
    (pipeline : Pipeline) : Except CleanupError Nat × Pipeline :=
  cleaner.deleteUpTo 1 stream (.cutoff threshold) pipeline

/-- Deletes expired entries of a dead-letter stream. No group reads it, so none is spared. -/
def removeDeadLetters (cleaner : Cleaner) (stream : String) (threshold : Instant)
    (pipeline : Pipeline) : Except CleanupError Nat × Pipeline :=
  cleaner.deleteUpTo 0 stream (.cutoff threshold) pipeline

/-- Deletes the kept events created before a threshold. -/
def purge (threshold : Instant) (pipeline : Pipeline) : Except CleanupError Nat × Pipeline :=
  match pipeline.look fun archive => archive.deleteBefore threshold with
  | (.error failure, pipeline) => (.error (.database failure.message), pipeline)
  | (.ok deleted, pipeline) => (.ok deleted, pipeline.count .cleanupRowsDeleted deleted)

/-! ### A run -/

/-- A name put into an ascending list of distinct names. -/
def insertName (name : String) : List String → List String
  | [] => [name]
  | other :: rest =>
    if name = other then other :: rest
    else if name < other then name :: other :: rest
    else other :: insertName name rest

/-- The distinct streams of the consumer sets in ascending order. -/
def streams (cleaner : Cleaner) : List String :=
  (cleaner.consumers.map ConsumerSet.stream).foldr insertName []

/-- Adds what a part of a run answered to the report; a failure is logged as well. -/
def settle {Value : Type} (message : String) (merge : CleanupReport → Value → CleanupReport)
    (report : CleanupReport) (answer : Except CleanupError Value × Pipeline) :
    CleanupReport × Pipeline :=
  match answer with
  | (.ok value, pipeline) => (merge report value, pipeline)
  | (.error error, pipeline) => (report.fail error, pipeline.error message)

/-- The part of a run for the consumer sets. -/
def runPending (cleaner : Cleaner) :
    List ConsumerSet → CleanupReport × Pipeline → CleanupReport × Pipeline
  | [], state => state
  | set :: rest, (report, pipeline) =>
    runPending cleaner rest <|
      settle "Pending entry cleanup failed"
        (fun report done =>
          { report with
            pendingAcknowledged := report.pendingAcknowledged + done.acknowledged
            deadLettered := report.deadLettered + done.deadLettered })
        report (cleaner.acknowledgePending set pipeline)

/-- The part of a run for the streams. -/
def runExpired (cleaner : Cleaner) (threshold : Instant) :
    List String → CleanupReport × Pipeline → CleanupReport × Pipeline
  | [], state => state
  | stream :: rest, (report, pipeline) =>
    runExpired cleaner threshold rest <|
      settle "Expired entry cleanup failed"
        (fun report deleted =>
          { report with entriesDeleted := report.entriesDeleted + deleted })
        report (cleaner.removeExpired stream threshold pipeline)

/-- The part of a run for the dead-letter streams of the streams. -/
def runDeadLetters (cleaner : Cleaner) (threshold : Instant) :
    List String → CleanupReport × Pipeline → CleanupReport × Pipeline
  | [], state => state
  | stream :: rest, (report, pipeline) =>
    runDeadLetters cleaner threshold rest <|
      settle "Dead-letter cleanup failed"
        (fun report deleted =>
          { report with deadLettersDeleted := report.deadLettersDeleted + deleted })
        report
        (cleaner.removeDeadLetters (cleaner.settings.deadLetterStream stream) threshold pipeline)

/-- The part of a run for the archive. -/
def runPurge (threshold : Instant) : CleanupReport × Pipeline → CleanupReport × Pipeline
  | (report, pipeline) =>
    settle "Access event purge failed"
      (fun report deleted => { report with rowsDeleted := deleted })
      report (purge threshold pipeline)

/-- All parts of a run for a threshold. -/
def runFor (cleaner : Cleaner) (threshold : Instant) (pipeline : Pipeline) :
    CleanupReport × Pipeline :=
  let state := cleaner.runPending cleaner.consumers ({}, pipeline)
  let state := cleaner.runExpired threshold cleaner.streams state
  let state :=
    if cleaner.settings.deadLetterEnabled then
      cleaner.runDeadLetters threshold cleaner.streams state
    else state
  runPurge threshold state

/-- A run at an instant. There is none when the calendar does not reach the threshold. -/
def run? (cleaner : Cleaner) (now : Instant) (pipeline : Pipeline) :
    Option (CleanupReport × Pipeline) :=
  (cleaner.threshold? now).map fun threshold => cleaner.runFor threshold pipeline

end Cleaner

end AccessFeed.Retention
