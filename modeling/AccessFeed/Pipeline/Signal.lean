/-
This file defines the signal by which listeners report critical errors.

Events queue up in the order in which they were emitted until the subscriber
takes them. Without a subscriber they are lost.
-/

import AccessFeed.Streams.Error

namespace AccessFeed

open Streams (StoreError)

/-- A listener: a consumer of a group of a stream. -/
structure ListenerSpec where
  stream : String
  group : String
  consumer : String
deriving DecidableEq, Repr, Inhabited

namespace ListenerSpec

/-- A listener in its written form. -/
def display (spec : ListenerSpec) : String :=
  spec.stream ++ "/" ++ spec.group ++ "/" ++ spec.consumer

end ListenerSpec

/-- A critical error that a listener met. -/
structure CriticalEvent where
  listener : ListenerSpec
  reason : StoreError
deriving DecidableEq, Repr

/-- The signal of critical errors: without a subscriber, or with the events not yet taken. -/
inductive CriticalSignal
  | unheard
  | queued (events : List CriticalEvent)
deriving DecidableEq, Repr

namespace CriticalSignal

/-- A signal with a subscriber and no events. -/
def subscribed : CriticalSignal := .queued []

/-- The events not yet taken, the earliest first. -/
def events : CriticalSignal → List CriticalEvent
  | .unheard => []
  | .queued events => events

/-- The signal with an event emitted, if there is a subscriber. -/
def emit? (signal : CriticalSignal) (event : CriticalEvent) : Option CriticalSignal :=
  match signal with
  | .unheard => none
  | .queued events => some (.queued (events ++ [event]))

/-- The earliest event, and the signal it is taken from. -/
def take? : CriticalSignal → Option (CriticalEvent × CriticalSignal)
  | .queued (event :: rest) => some (event, .queued rest)
  | _ => none

/-- The signal with all its events taken. -/
def drained : CriticalSignal → CriticalSignal
  | .unheard => .unheard
  | .queued _ => .subscribed

end CriticalSignal

end AccessFeed
