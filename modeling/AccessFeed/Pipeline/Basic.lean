/-
This file defines the state that all parts of the pipeline work on.

The state joins the stream service, the archive, the handlers with what they are
told to do, the log, the counted numbers and the signal of critical errors. It
also holds the wall clock, which gives new ids and times.
-/

import AccessFeed.Archive.Basic
import AccessFeed.Event.HandlerError
import AccessFeed.Journal
import AccessFeed.Metrics
import AccessFeed.Pipeline.Signal
import AccessFeed.Streams.Cutoff
import AccessFeed.Streams.Service

namespace AccessFeed

open Calendar (Instant)
open Event (EventType HandlerError)
open Streams (Service StoreError)

/-- What a rehearsed handler does with a record: it succeeds, fails, or takes some time. -/
inductive Rehearsal
  | succeed
  | fail (error : HandlerError)
  | pause (millis : Nat)
deriving DecidableEq, Repr

/-- A handler of events: the one that keeps access events, or one that follows a script. -/
inductive Handler
  | access
  | rehearsed
deriving DecidableEq, Repr

/-- The state of the pipeline. -/
structure Pipeline where
  service : Service
  archive : Archive
  wall : Instant
  handlers : Table EventType Handler := .empty
  script : List Rehearsal := []
  handlerCalls : Nat := 0
  journal : List LogLine := []
  metrics : Metrics := .fresh false
  signal : CriticalSignal := .subscribed
deriving Repr

namespace Pipeline

/-- Writes a line to the log, whose last line stands first. -/
def note (pipeline : Pipeline) (level : LogLevel) (message : String) : Pipeline :=
  { pipeline with journal := ⟨level, message⟩ :: pipeline.journal }

/-- Writes a warning. -/
def warn (pipeline : Pipeline) (message : String) : Pipeline :=
  pipeline.note .warn message

/-- Writes an error. -/
def error (pipeline : Pipeline) (message : String) : Pipeline :=
  pipeline.note .error message

/-- Adds to a counted number. -/
def count (pipeline : Pipeline) (series : Series) (amount : Int) : Pipeline :=
  { pipeline with metrics := pipeline.metrics.add series amount }

/-- Signals a critical error. -/
def emit (pipeline : Pipeline) (event : CriticalEvent) : Pipeline :=
  match pipeline.signal.emit? event with
  | some signal => { pipeline with signal }
  | none => pipeline.warn "Critical error signal has no subscriber"

/-- Calls the stream service. -/
def ask {Value : Type} (pipeline : Pipeline) (request : Service → Streams.Reply Value) :
    Except StoreError Value × Pipeline :=
  let (answer, service) := request pipeline.service
  (answer, { pipeline with service })

/-- Calls the archive. -/
def look {Value : Type} (pipeline : Pipeline) (request : Archive → Archive.Reply Value) :
    Except Failure Value × Pipeline :=
  let (answer, archive) := request pipeline.archive
  (answer, { pipeline with archive })

/-- The milliseconds of the wall clock, zero before 1970. -/
def wallMillis (pipeline : Pipeline) : UInt64 :=
  pipeline.wall.millis.toNat.toUInt64

/-- Registers the handler of an event type in place of an earlier one. -/
def register (pipeline : Pipeline) (eventType : EventType) (handler : Handler) : Pipeline :=
  let registered := { pipeline with handlers := pipeline.handlers.set eventType handler }
  if pipeline.handlers.contains eventType then
    registered.warn "Replacing registered event handler"
  else registered

end Pipeline

end AccessFeed
