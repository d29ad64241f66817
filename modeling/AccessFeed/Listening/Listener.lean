/-
This file defines the loop of a listener.

A listener first replays the entries that are pending with its consumer, from
the least id on, and then reads new entries. Each batch is dispatched record by
record, and the tombstones among them are acknowledged together afterwards. A
critical read error ends the loop and is signalled; after any other one, and
when there is nothing to read, the loop waits. Every step of a loop is one
action, so that others may act between any two calls to the store.
-/

import AccessFeed.Pipeline.Dispatch

namespace AccessFeed

open Streams (ReadOffset Record StoreError StreamId)

/-- How a listener reads. -/
structure ListenerSettings where
  readCount : Nat
  idleWait : Nat
  replayPending : Bool
deriving DecidableEq, Repr

namespace ListenerSettings

/-- Where the first read of a listener begins. -/
def firstOffset (settings : ListenerSettings) : ReadOffset :=
  if settings.replayPending then .pendingAfter .least else .lastConsumed

end ListenerSettings

/-- How far a listener has come. What is left of a batch comes with the offset of the read behind
it and the tombstones met so far. -/
inductive ListenerPhase
  | starting
  | reading (offset : ReadOffset)
  | delivering (next : ReadOffset) (batch : List Record) (tombstones : List StreamId)
  | dispatching (next : ReadOffset) (record : Record) (dispatch : DispatchPhase)
      (rest : List Record) (tombstones : List StreamId)
  | sweeping (next : ReadOffset) (tombstones : List StreamId)
  | idle (offset : ReadOffset) (until_ : Nat)
  | stopping
  | stopped
deriving DecidableEq, Repr

namespace ListenerPhase

/-- The time until which a phase waits. -/
def deadline? : ListenerPhase → Option Nat
  | .idle _ until_ => some until_
  | .dispatching _ _ (.pausing _ until_) _ _ => some until_
  | _ => none

/-- Whether a phase waits for new entries. -/
def isIdle : ListenerPhase → Bool
  | .idle _ _ => true
  | _ => false

/-- The phase once the waiting for new entries is over. -/
def roused : ListenerPhase → ListenerPhase
  | .idle offset _ => .reading offset
  | phase => phase

/-- Whether a phase has nothing to do at a time. A request to shut down ends the waiting for new
entries, but not that for a handler. -/
def isBlocked (phase : ListenerPhase) (shutdown : Bool) (now : Nat) : Bool :=
  match phase with
  | .idle _ until_ => !shutdown && now < until_
  | .dispatching _ _ (.pausing _ until_) _ _ => now < until_
  | .stopped => true
  | _ => false

end ListenerPhase

/-- The offset behind a batch: a replay goes on behind the last id of the batch, tombstones
included. -/
def Streams.ReadOffset.behind (offset : ReadOffset) (batch : List Record) : ReadOffset :=
  match offset, batch.getLast? with
  | .pendingAfter _, some last => .pendingAfter last.id
  | offset, _ => offset

namespace Pipeline

/-- Decides whether a read error ends a listener. A critical one does, and is signalled. -/
def cancelOnError (pipeline : Pipeline) (spec : ListenerSpec) (error : StoreError) :
    Bool × Pipeline :=
  if error.isCritical then
    (true, (pipeline.error "Critical stream error, cancelling listener").emit ⟨spec, error⟩)
  else (false, pipeline)

/-- Acknowledges tombstones, which nobody can handle. When that fails they are left to the
cleanup. -/
def dropTombstones (pipeline : Pipeline) (spec : ListenerSpec) (ids : List StreamId) : Pipeline :=
  match pipeline.ask fun service => service.acknowledge spec.stream spec.group ids with
  | (.ok _, pipeline) =>
    pipeline.warn "Acknowledged pending entries deleted from the stream"
  | (.error _, pipeline) => pipeline.warn "Failed to acknowledge deleted pending entries"

end Pipeline

namespace Listener

/-- Reads a batch. An empty one ends a replay. -/
def read (settings : ListenerSettings) (spec : ListenerSpec) (now : Nat) (offset : ReadOffset)
    (pipeline : Pipeline) : ListenerPhase × Pipeline :=
  let request := fun service : Streams.Service =>
    service.readGroup spec.stream spec.group spec.consumer offset settings.readCount
  match pipeline.ask request with
  | (.ok [], pipeline) =>
    match offset with
    | .pendingAfter _ => (.reading .lastConsumed, pipeline)
    | .lastConsumed => (.idle .lastConsumed (now + settings.idleWait), pipeline)
  | (.ok batch, pipeline) => (.delivering (offset.behind batch) batch [], pipeline)
  | (.error error, pipeline) =>
    let pipeline := pipeline.count (.listenerErrors spec.stream spec.group error.label) 1
    match pipeline.cancelOnError spec error with
    | (true, pipeline) => (.stopping, pipeline)
    | (false, pipeline) =>
      (.idle offset (now + settings.idleWait), pipeline.warn "Stream read error")

/-- Takes up the next record of a batch, setting tombstones aside. -/
def takeUp (next : ReadOffset) (batch : List Record) (tombstones : List StreamId) :
    ListenerPhase :=
  match batch with
  | record :: rest =>
    if record.isTombstone then .delivering next rest (tombstones ++ [record.id])
    else .dispatching next record .routing rest tombstones
  | [] => if tombstones.isEmpty then .reading next else .sweeping next tombstones

/-- One step of a listener at a time of the monotonic clock. -/
def step (settings : ListenerSettings) (spec : ListenerSpec) (shutdown : Bool) (now : Nat)
    (phase : ListenerPhase) (pipeline : Pipeline) : ListenerPhase × Pipeline :=
  match phase with
  | .starting =>
    (.reading settings.firstOffset, pipeline.count (.activeListeners spec.stream spec.group) 1)
  | .reading offset =>
    if shutdown then (.stopping, pipeline) else read settings spec now offset pipeline
  | .delivering next batch tombstones => (takeUp next batch tombstones, pipeline)
  | .dispatching next record dispatch rest tombstones =>
    match Dispatch.step spec.group record now dispatch pipeline with
    | (.finished _, pipeline) => (.delivering next rest tombstones, pipeline)
    | (dispatch, pipeline) => (.dispatching next record dispatch rest tombstones, pipeline)
  | .sweeping next tombstones => (.reading next, pipeline.dropTombstones spec tombstones)
  | .idle offset until_ =>
    if shutdown then (.stopping, pipeline)
    else if until_ ≤ now then (.reading offset, pipeline)
    else (phase, pipeline)
  | .stopping =>
    (.stopped, pipeline.count (.activeListeners spec.stream spec.group) (-1))
  | .stopped => (phase, pipeline)

end Listener

end AccessFeed
