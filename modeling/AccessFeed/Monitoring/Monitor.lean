/-
This file defines the state of the monitor that brings the listeners back.

The monitor is idle, probes the store, or restarts the container. Probing and
restarting carry the generation of the task that does it, and a task of another
generation changes nothing. A start that comes while the container restarts is
remembered, and the monitor then probes again instead of becoming idle.
-/

import AccessFeed.Table

namespace AccessFeed

/-- The states of the monitor that can be told from outside. -/
inductive MonitorState
  | idle
  | monitoring
  | restarting
deriving DecidableEq, Repr

namespace MonitorState

/-- All states. -/
def all : List MonitorState := [.idle, .monitoring, .restarting]

/-- The name of a state. -/
def name : MonitorState → String
  | .idle => "idle"
  | .monitoring => "monitoring"
  | .restarting => "restarting"

end MonitorState

/-- What the monitor is doing, and the generation of the task that does it. -/
inductive MonitorSlot
  | idle
  | monitoring (generation : Nat)
  | restarting (generation : Nat) (rearm : Bool)
deriving DecidableEq, Repr

namespace MonitorSlot

/-- The state of a slot. -/
def state : MonitorSlot → MonitorState
  | .idle => .idle
  | .monitoring _ => .monitoring
  | .restarting _ _ => .restarting

end MonitorSlot

/-- The monitor: its slot, the last generation given out, how often it went from one state to
another, and how many probes it made and restarts it began and completed. -/
structure Monitor where
  slot : MonitorSlot := .idle
  generation : Nat := 0
  transitions : Table (MonitorState × MonitorState) Nat := .empty
  probes : Nat := 0
  begun : Nat := 0
  completed : Nat := 0
deriving DecidableEq, Repr

namespace Monitor

/-- The state of the monitor. -/
def state (monitor : Monitor) : MonitorState :=
  monitor.slot.state

/-- Whether the monitor is at work. -/
def isMonitoring (monitor : Monitor) : Bool :=
  monitor.state ≠ .idle

/-- How often the monitor went from one state to another. -/
def transitionCount (monitor : Monitor) (source target : MonitorState) : Nat :=
  (monitor.transitions.get? (source, target)).getD 0

/-- Counts a transition. -/
def record (monitor : Monitor) (source target : MonitorState) : Monitor :=
  { monitor with
    transitions :=
      monitor.transitions.set (source, target) (monitor.transitionCount source target + 1) }

/-- Gives the slot to a task of a new generation that probes. -/
def schedule (monitor : Monitor) : Monitor :=
  let generation := monitor.generation + 1
  { monitor with slot := .monitoring generation, generation }

/-- What a start does: it schedules probing, or is remembered until the restart is over, or does
nothing as the monitor probes already. -/
inductive StartEffect
  | scheduled
  | remembered
  | none
deriving DecidableEq, Repr

/-- Starts the monitor. -/
def start (monitor : Monitor) : StartEffect × Monitor :=
  match monitor.slot with
  | .idle => (.scheduled, monitor.schedule.record .idle .monitoring)
  | .monitoring _ => (.none, monitor)
  | .restarting generation _ => (.remembered, { monitor with slot := .restarting generation true })

/-- Stops the monitor. -/
def stop (monitor : Monitor) : Monitor :=
  match monitor.slot with
  | .idle => monitor
  | slot => { monitor with slot := .idle }.record slot.state .idle

/-- Takes the slot for restarting, which only the task that holds it can do. The transition is not
yet counted. -/
def claim? (monitor : Monitor) (generation : Nat) : Option Monitor :=
  if monitor.slot = .monitoring generation then
    some { monitor with slot := .restarting generation false }
  else none

/-- What the end of a restart does: the monitor probes again, becomes idle, or is left as it is
because the restart is no longer its own. -/
inductive RestartEffect
  | scheduled
  | idle
  | none
deriving DecidableEq, Repr

/-- Ends a restart. -/
def conclude (monitor : Monitor) (generation : Nat) : RestartEffect × Monitor :=
  match monitor.slot with
  | .restarting holder rearm =>
    if holder = generation then
      if rearm then (.scheduled, monitor.schedule.record .restarting .monitoring)
      else (.idle, { monitor with slot := .idle }.record .restarting .idle)
    else (.none, monitor)
  | _ => (.none, monitor)

end Monitor

end AccessFeed
