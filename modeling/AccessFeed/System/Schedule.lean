/-
This file defines the schedule by which the tasks of the system are run.

A task runs until it has nothing to do, and only then the next one does: calls
come before probing tasks, these before loops, and the bridge comes last. When
no task has anything to do, the system waits for the earliest time for which one
of them does. Loops that are to wait for new entries, but for no time at all, read
again whenever the tasks are run.
-/

import AccessFeed.System.Basic

namespace AccessFeed.System

/-- All tasks in the order in which they are run. -/
def tasks (system : System) : List Task :=
  (List.range system.calls.length).map .call ++
    (List.range system.probes.length).map .probe ++
    (List.range system.container.loops.length).map .loop ++ [.bridge]

/-- Whether a probing task has nothing to do. One that was aborted is not run any more. -/
def isProbeBlocked (system : System) (probe : ProbeTask) : Bool :=
  probe.aborted ||
    match probe.phase with
    | .waiting due => system.now < due
    | .restarting call => !system.hasReturned call
    | .ended => true
    | _ => false

/-- Whether a loop waits for new entries, but for no time at all. -/
def isRestless (system : System) (loop : ListenerLoop) : Bool :=
  system.settings.pollTimeout == 0 && !loop.shutdown && loop.phase.isIdle

/-- The system with its restless loops about to read again. -/
def roused (system : System) : System :=
  if system.settings.pollTimeout = 0 then
    { system with
      container.loops := system.container.loops.map fun loop =>
        if system.isRestless loop then { loop with phase := loop.phase.roused } else loop }
  else system

/-- Whether a task has nothing to do. -/
def isBlocked (system : System) (task : Task) : Bool :=
  match task with
  | .call number =>
    (system.calls[number]?.map fun call =>
      call.isBlocked system.container system.now).getD true
  | .probe number => (system.probes[number]?.map system.isProbeBlocked).getD true
  | .loop number =>
    (system.container.loops[number]?.map fun loop =>
      loop.isBlocked system.now || system.isRestless loop).getD true
  | .bridge =>
    match system.bridge with
    | .absent => true
    | .waiting => system.pipeline.signal.take?.isNone
    | .holding _ => false

/-- The time for which a task waits. -/
def deadline? (system : System) (task : Task) : Option Nat :=
  match task with
  | .call number => system.calls[number]? >>= ControlCall.deadline?
  | .probe number =>
    match system.probes[number]? with
    | some { phase := .waiting due, aborted := false, .. } => some due
    | _ => none
  | .loop number =>
    (system.container.loops[number]?.filter fun loop => !system.isRestless loop) >>=
      ListenerLoop.deadline?
  | .bridge => none

/-- The first task with something to do. -/
def nextTask? (system : System) : Option Task :=
  system.tasks.find? fun task => !system.isBlocked task

/-- Runs tasks until none has anything to do, the current one first, or until the given number of
steps is used up. -/
def settleWithin : Nat → Option Task → System → System
  | 0, _, system => system
  | steps + 1, current, system =>
    match current.filter fun task => !system.isBlocked task with
    | some task => settleWithin steps (some task) (system.step task)
    | none =>
      match system.nextTask? with
      | none => system
      | some task => settleWithin steps (some task) (system.step task)

/-- More steps than the tasks ever take at one time of the clock. -/
def stepLimit : Nat := 10000000

/-- Runs tasks until none has anything to do. -/
def settle (system : System) : System :=
  settleWithin stepLimit none system.roused

/-- The earliest time for which a task waits. -/
def nextDeadline? (system : System) : Option Nat :=
  (system.tasks.filterMap system.deadline?).min?

end AccessFeed.System
