/-
This file defines how a delivered record is dispatched to its handler.

Dispatching is a sequence of small steps, between which other parts of the
pipeline may act: the record is routed by its type, the handler is called, and
only when it succeeds is the record acknowledged. Every dispatch ends with an
outcome, and with nothing else; failures are written to the log.
-/

import AccessFeed.Pipeline.Handling

namespace AccessFeed

open Event (EventType HandlerError)
open Streams (Record)

/-- How a dispatch ends. -/
inductive DispatchOutcome
  | acknowledged
  | ackFailed
  | handlerFailed
  | parseFailed
  | unsupportedType
  | noHandler
deriving DecidableEq, Repr

namespace DispatchOutcome

/-- The label of an outcome. -/
def label : DispatchOutcome → String
  | .acknowledged => "acknowledged"
  | .ackFailed => "ack_failed"
  | .handlerFailed => "handler_failed"
  | .parseFailed => "parse_failed"
  | .unsupportedType => "unsupported_type"
  | .noHandler => "no_handler"

/-- Whether the record was acknowledged. -/
def isAcknowledged : DispatchOutcome → Bool
  | .acknowledged => true
  | _ => false

end DispatchOutcome

/-- How far a dispatch has come. A pausing handler goes on at a time of the monotonic clock. -/
inductive DispatchPhase
  | routing
  | handling (eventType : EventType) (handler : Handler)
  | pausing (eventType : EventType) (until_ : Nat)
  | acknowledging
  | finished (outcome : DispatchOutcome)
deriving DecidableEq, Repr

namespace Dispatch

/-- Counts the outcome of a dispatch. -/
def conclude (group : String) (record : Record) (pipeline : Pipeline)
    (outcome : DispatchOutcome) : DispatchOutcome × Pipeline :=
  (outcome, pipeline.count (.recordsDispatched record.stream group outcome.label) 1)

/-- Ends a dispatch. -/
def finish (group : String) (record : Record) (pipeline : Pipeline) (outcome : DispatchOutcome) :
    DispatchPhase × Pipeline :=
  let (outcome, pipeline) := conclude group record pipeline outcome
  (.finished outcome, pipeline)

/-- Goes on with a dispatch when its handler is done. -/
def handled (group : String) (record : Record) (pipeline : Pipeline) (eventType : EventType)
    (result : Except HandlerError Unit) : DispatchPhase × Pipeline :=
  let pipeline := pipeline.count (.handlerDuration eventType.tag) 1
  match result with
  | .ok () => (.acknowledging, pipeline)
  | .error failure =>
    if failure.isParsing then
      finish group record (pipeline.error "Event parsing failed") .parseFailed
    else finish group record (pipeline.error "Event handling failed") .handlerFailed

/-- Finds the handler of a record. -/
def route (group : String) (record : Record) (pipeline : Pipeline) : DispatchPhase × Pipeline :=
  match (record.field? Event.fieldNames.eventType).bind EventType.classify with
  | none => finish group record (pipeline.warn "Unsupported eventType") .unsupportedType
  | some eventType =>
    match pipeline.handlers.get? eventType with
    | none =>
      finish group record (pipeline.warn "No handler registered for eventType") .noHandler
    | some handler => (.handling eventType handler, pipeline)

/-- Acknowledges a record that was handled. -/
def acknowledge (group : String) (record : Record) (pipeline : Pipeline) :
    DispatchOutcome × Pipeline :=
  match pipeline.ask fun service => service.acknowledge record.stream group [record.id] with
  | (.ok _, pipeline) => conclude group record pipeline .acknowledged
  | (.error _, pipeline) =>
    conclude group record (pipeline.error "Acknowledgement failed") .ackFailed

/-- One step of a dispatch at a time of the monotonic clock. A pausing handler takes no step before
its time, and a finished dispatch takes none. -/
def step (group : String) (record : Record) (now : Nat) (phase : DispatchPhase)
    (pipeline : Pipeline) : DispatchPhase × Pipeline :=
  match phase with
  | .routing => route group record pipeline
  | .handling eventType handler =>
    match pipeline.handle handler record with
    | (.done result, pipeline) => handled group record pipeline eventType result
    | (.pausing millis, pipeline) => (.pausing eventType (now + millis), pipeline)
  | .pausing eventType until_ =>
    if until_ ≤ now then handled group record pipeline eventType (.ok ()) else (phase, pipeline)
  | .acknowledging =>
    let (outcome, pipeline) := acknowledge group record pipeline
    (.finished outcome, pipeline)
  | .finished _ => (phase, pipeline)

/-- How much of a dispatch is left: no phase is entered twice. -/
def remaining : DispatchPhase → Nat
  | .routing => 4
  | .handling _ _ => 3
  | .pausing _ _ => 2
  | .acknowledging => 1
  | .finished _ => 0

theorem remaining_handled (group : String) (record : Record) (pipeline : Pipeline)
    (eventType : EventType) (result : Except HandlerError Unit) :
    remaining (handled group record pipeline eventType result).1 ≤ 1 := by
  unfold handled
  split
  · exact Nat.le_refl 1
  · split <;> exact Nat.zero_le 1

theorem remaining_route (group : String) (record : Record) (pipeline : Pipeline) :
    remaining (route group record pipeline).1 ≤ 3 := by
  unfold route
  split
  · exact Nat.zero_le 3
  · split
    · exact Nat.zero_le 3
    · exact Nat.le_refl 3

/-- A step brings a dispatch nearer to its end unless it is over or its handler pauses. -/
theorem remaining_step (group : String) (record : Record) (now : Nat) (phase : DispatchPhase)
    (pipeline : Pipeline) (unfinished : remaining phase ≠ 0)
    (ready : ∀ eventType until_, phase = .pausing eventType until_ → until_ ≤ now) :
    remaining (step group record now phase pipeline).1 < remaining phase := by
  cases phase with
  | routing => exact Nat.lt_succ_of_le (remaining_route group record pipeline)
  | handling eventType handler =>
    simp only [step]
    split
    · exact Nat.lt_of_le_of_lt (remaining_handled _ _ _ _ _) (by simp [remaining])
    · exact Nat.lt_succ_self 2
  | pausing eventType until_ =>
    simp only [step, ready eventType until_ rfl, if_true]
    exact Nat.lt_of_le_of_lt (remaining_handled _ _ _ _ _) (by simp [remaining])
  | acknowledging => exact Nat.zero_lt_one
  | finished outcome => exact absurd rfl unfinished

/-- Where a dispatch that runs on its own comes to a stop. -/
inductive Stop
  | finished (outcome : DispatchOutcome)
  | pausing (eventType : EventType) (until_ : Nat)

/-- Takes steps, with nobody else acting, until a dispatch is over or its handler pauses. -/
def run (group : String) (record : Record) (now : Nat) (phase : DispatchPhase)
    (pipeline : Pipeline) : Stop × Pipeline :=
  match phase with
  | .finished outcome => (.finished outcome, pipeline)
  | .pausing eventType until_ => (.pausing eventType until_, pipeline)
  | .routing =>
    let next := route group record pipeline
    have : remaining next.1 < remaining .routing :=
      Nat.lt_succ_of_le (remaining_route group record pipeline)
    run group record now next.1 next.2
  | .handling eventType handler =>
    let next := step group record now (.handling eventType handler) pipeline
    have : remaining next.1 < remaining (.handling eventType handler) :=
      remaining_step _ _ _ _ _ (by simp [remaining]) (fun _ _ impossible => by cases impossible)
    run group record now next.1 next.2
  | .acknowledging =>
    let (outcome, pipeline) := acknowledge group record pipeline
    (.finished outcome, pipeline)
termination_by remaining phase

end Dispatch

end AccessFeed
