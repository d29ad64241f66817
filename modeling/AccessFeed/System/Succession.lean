/-
This file defines how systems follow one another, and how time passes for them.

A system that is replaced does not end at once: its tasks go on, on its own store
and archive, while the clock, the log and the counted numbers are shared with the
system in its place. Its listeners end as soon as none of its tasks could start
them again, and its critical errors are no longer taken by anybody but its own
bridge. The clock moves only while no task of any system has anything to do, to
the earliest time for which one waits; at such a time the earlier systems run
first.
-/

import AccessFeed.System.Schedule

namespace AccessFeed

namespace System

/-- Whether a task of the system may yet control its container. -/
def keepsContainer (system : System) : Bool :=
  system.bridge != .absent || system.probes.any fun probe => !probe.isOver

/-- Whether a task of the system is left. -/
def isAlive (system : System) : Bool :=
  system.keepsContainer || system.container.loops.any fun loop => !loop.isFinished

/-- The system with all its loops asked to shut down. -/
def letGo (system : System) : System :=
  { system with container := system.container.release (List.range system.container.loops.length) }

/-- The system with nobody outside it to take its critical errors. -/
def forsaken (system : System) : System :=
  match system.bridge with
  | .absent => { system with pipeline.signal := .unheard }
  | _ => system

/-- Runs the tasks of a system that was replaced until none has anything to do. -/
def settleForsaken (system : System) : System :=
  let system := system.settle
  if system.keepsContainer then system else system.letGo.settle

/-- The system with the log and the counted numbers of another one. -/
def sharing (system other : System) : System :=
  { system with
    pipeline.journal := other.pipeline.journal
    pipeline.metrics := other.pipeline.metrics }

end System

/-- A system, and those whose place it has taken, the earliest first. -/
structure Succession where
  current : System
  former : List System := []

namespace Succession

/-- The systems, the earliest first. -/
def systems (succession : Succession) : List System :=
  succession.former ++ [succession.current]

/-- The time of the clock. -/
def now (succession : Succession) : Nat :=
  succession.current.now

/-- The systems with the current one changed. -/
def change (succession : Succession) (change : System → System) : Succession :=
  { succession with current := change succession.current }

/-- The systems with another one in place of the current one. It goes on with the clock, the log and
the counted numbers; what it logged while it was put together comes after what is in the log. -/
def replace (succession : Succession) (system : System) : Succession :=
  let current := system.sharing succession.current
  { current :=
      { current with
        now := succession.now
        pipeline.journal := system.pipeline.journal ++ current.pipeline.journal }
    former := succession.former ++ [succession.current.forsaken] }

/-- Runs the tasks of replaced systems, each sharing the log and the counted numbers of the one
before, and answers the last one that ran with them. -/
def settleFormer : System → List System → List System × System
  | before, [] => ([], before)
  | before, system :: rest =>
    let system := (system.sharing before).settleForsaken
    let (rest, last) := settleFormer system rest
    (system :: rest, last)

/-- Runs tasks until none has anything to do. -/
def settle (succession : Succession) : Succession :=
  let (former, last) := settleFormer succession.current succession.former
  { current := (succession.current.sharing last).settle, former }

/-- The earliest time for which a task waits. -/
def nextDeadline? (succession : Succession) : Option Nat :=
  (succession.systems.filterMap System.nextDeadline?).min?

/-- Moves the clock on to a time at which tasks wait, and runs them. -/
def moveTo (succession : Succession) (time : Nat) : Succession :=
  let move (system : System) : System := { system with now := time }
  { current := move succession.current, former := succession.former.map move : Succession }.settle

/-- Lets tasks run as their times come, up to a time, within a number of moves of the clock. -/
def advanceWithin : Nat → Nat → Succession → Succession
  | 0, _, succession => succession
  | moves + 1, target, succession =>
    match succession.nextDeadline?.filter (· ≤ target) with
    | some time => advanceWithin moves target (succession.moveTo (max time succession.now))
    | none => succession.moveTo (max target succession.now)

/-- Lets some milliseconds pass. -/
def advance (succession : Succession) (millis : Nat) : Succession :=
  advanceWithin (System.stepLimit * (millis + 1)) (succession.now + millis) succession.settle

/-- Lets time pass until a call of the current system has returned, within a number of moves of the
clock. -/
def awaitWithin : Nat → Nat → Succession → Succession
  | 0, _, succession => succession
  | moves + 1, number, succession =>
    if succession.current.hasReturned number then succession
    else
      match succession.nextDeadline? with
      | some time => awaitWithin moves number (succession.moveTo (max time succession.now))
      | none => succession

/-- Makes a call of the current system and waits until it has returned. -/
def perform (succession : Succession) (call : ControlCall) : Succession :=
  awaitWithin System.stepLimit succession.current.calls.length
    (succession.change fun system => system.makeCall call).settle

/-- Dispatches a record for a group in the current system, waiting when its handler does. -/
def dispatch (succession : Succession) (group : String) (record : Streams.Record) :
    DispatchOutcome × Succession :=
  let withPipeline (succession : Succession) (pipeline : Pipeline) : Succession :=
    succession.change fun system => { system with pipeline }
  match Dispatch.run group record succession.now .routing succession.current.pipeline with
  | (.finished outcome, pipeline) => (outcome, withPipeline succession pipeline)
  | (.pausing eventType until_, pipeline) =>
    let succession := (withPipeline succession pipeline).advance (until_ - succession.now)
    let (_, pipeline) :=
      Dispatch.handled group record succession.current.pipeline eventType (.ok ())
    let (outcome, pipeline) := Dispatch.acknowledge group record pipeline
    (outcome, withPipeline succession pipeline)

/-- Dispatches records for a group one by one, and answers each with its outcome. -/
def dispatchAll (succession : Succession) (group : String) :
    List Streams.Record → List (Streams.Record × DispatchOutcome) × Succession
  | [] => ([], succession)
  | record :: rest =>
    let (outcome, succession) := succession.dispatch group record
    let (outcomes, succession) := succession.dispatchAll group rest
    ((record, outcome) :: outcomes, succession)

end Succession

end AccessFeed
