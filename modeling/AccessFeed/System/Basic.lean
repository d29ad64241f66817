/-
This file defines the whole system and its tasks.

The system joins the pipeline, the container of listeners, the monitor with its
probing tasks, the bridge from the signal of critical errors to the monitor, and
the calls that control the container. Each of its tasks takes one step at a
time, and leaves everything as it is while it has nothing to do; in which order
the tasks take their steps is not decided here.
-/

import AccessFeed.Listening.Container
import AccessFeed.Monitoring.Monitor
import AccessFeed.Monitoring.Probe

namespace AccessFeed

/-- The bridge from the signal of critical errors to the monitor: absent, waiting for an event, or
about to start the monitor for one. -/
inductive Bridge
  | absent
  | waiting
  | holding (event : CriticalEvent)
deriving DecidableEq, Repr

/-- The tasks of the system, each by its number among those of its sort. -/
inductive Task
  | call (number : Nat)
  | probe (number : Nat)
  | loop (number : Nat)
  | bridge
deriving DecidableEq, Repr

/-- The whole system at a time of the monotonic clock, with all calls and probing tasks there have
been. -/
structure System where
  pipeline : Pipeline
  settings : Settings.Reading
  period : Nat
  container : Container := {}
  monitor : Monitor := {}
  calls : List ControlCall := []
  probes : List ProbeTask := []
  bridge : Bridge := .absent
  rehearsal : Option MonitorRehearsal := none
  now : Nat := 0

namespace System

/-- How the listeners of the system read. -/
def listenerSettings (system : System) : ListenerSettings :=
  { readCount := max system.settings.readCount 1
    idleWait := system.settings.pollTimeout
    replayPending := system.settings.replayPending }

/-- The call that the monitor makes to restart the container. -/
def restartCall (system : System) : ControlCall :=
  match system.rehearsal with
  | some rehearsal => [.rest rehearsal.restartMillis]
  | none => .restart system.settings.consumers

/-- The system with a call made. -/
def makeCall (system : System) (call : ControlCall) : System :=
  { system with calls := system.calls ++ [call] }

/-- Whether a call has returned. -/
def hasReturned (system : System) (number : Nat) : Bool :=
  (system.calls[number]?.map ControlCall.hasReturned).getD true

/-! ### The monitor -/

/-- Counts a transition of the monitor among the counted numbers. -/
def countTransition (system : System) (source target : MonitorState) : System :=
  { system with
    pipeline := system.pipeline.count (.monitorTransitions source.name target.name) 1 }

/-- Spawns the probing task of the generation that the monitor gave out last. -/
def spawnProbe (system : System) : System :=
  { system with probes := system.probes ++ [{ generation := system.monitor.generation }] }

/-- Starts the monitor. -/
def startMonitor (system : System) : System :=
  let (effect, monitor) := system.monitor.start
  let system := { system with monitor }
  match effect with
  | .scheduled => system.spawnProbe.countTransition .idle .monitoring
  | .remembered => system
  | .none => system

/-- Aborts the probing tasks of a generation. -/
def abortProbes (system : System) (generation : Nat) : System :=
  { system with
    probes := system.probes.map fun probe =>
      if probe.generation = generation then { probe with aborted := true } else probe }

/-- Stops the monitor. A task that probes is aborted, one that restarts is not. -/
def stopMonitor (system : System) : System :=
  let slot := system.monitor.slot
  let system := { system with monitor := system.monitor.stop }
  match slot with
  | .idle => system
  | .monitoring generation =>
    (system.abortProbes generation).countTransition .monitoring .idle
  | .restarting _ _ => system.countTransition .restarting .idle

/-! ### Steps -/

/-- The system with the phase of a probing task changed. -/
def setProbe (system : System) (number : Nat) (phase : ProbePhase) : System :=
  { system with
    probes := system.probes.modify number fun probe => { probe with phase } }

/-- Begins a probe. A rehearsed one is over at once. -/
def beginProbe (system : System) (number due : Nat) : System :=
  let system := { system with monitor.probes := system.monitor.probes + 1 }
  match system.rehearsal with
  | some rehearsal =>
    let (report, rehearsal) := rehearsal.next
    { system with rehearsal := some rehearsal }.setProbe number (.judging due report)
  | none =>
    let (finding, pipeline) := system.pipeline.probeCluster
    { system with pipeline }.setProbe number (.reading due finding)

/-- Acts on the report of a probe. -/
def judge (system : System) (number generation due : Nat) (report : HealthReport) : System :=
  if report.isHealthy then
    match system.monitor.claim? generation with
    | some monitor => { system with monitor }.setProbe number .noting
    | none => system.setProbe number .ended
  else
    { system with
      pipeline :=
        system.pipeline.warn "Stream store still unhealthy, waiting for next check" }.setProbe
      number (.waiting (ProbeTask.nextDue system.period due system.now))

/-- Counts the transition to restarting and has the container restarted. -/
def beginRestart (system : System) (number : Nat) : System :=
  let monitor := system.monitor.record .monitoring .restarting
  let noted := { system with monitor := { monitor with begun := monitor.begun + 1 } }
  ((noted.countTransition .monitoring .restarting).makeCall system.restartCall).setProbe
    number (.restarting system.calls.length)

/-- Counts a completed restart. -/
def completeRestart (system : System) (number : Nat) : System :=
  { system with
    monitor.completed := system.monitor.completed + 1
    pipeline := system.pipeline.count .listenerRestarts 1 }.setProbe number .concluding

/-- Ends a probing task whose restart is completed. -/
def concludeProbe (system : System) (number generation : Nat) : System :=
  let (effect, monitor) := system.monitor.conclude generation
  let system := { system with monitor }.setProbe number .ended
  match effect with
  | .scheduled => system.spawnProbe.countTransition .restarting .monitoring
  | .idle => system.countTransition .restarting .idle
  | .none => system

/-- Begins the waiting for the first probe. Without a period there is nothing to wait for, and the
task ends while the monitor holds on to it. -/
def awaitFirstProbe (system : System) (number : Nat) : System :=
  system.setProbe number
    (if system.period = 0 then .ended else .waiting (system.now + system.period))

/-- One step of a probing task. -/
def stepProbe (system : System) (number : Nat) (probe : ProbeTask) : System :=
  match probe.phase with
  | .starting => system.awaitFirstProbe number
  | .waiting due => if due ≤ system.now then system.beginProbe number due else system
  | .reading due cluster =>
    let (found, pipeline) := system.pipeline.probeStream system.settings.eventStream
    { system with pipeline }.setProbe number (.judging due (.ofFindings cluster found))
  | .judging due report => system.judge number probe.generation due report
  | .noting => system.beginRestart number
  | .restarting call => if system.hasReturned call then system.completeRestart number else system
  | .concluding => system.concludeProbe number probe.generation
  | .ended => system

/-- One step of a loop. -/
def stepLoop (system : System) (number : Nat) (loop : ListenerLoop) : System :=
  let (phase, pipeline) :=
    Listener.step system.listenerSettings loop.spec loop.shutdown system.now loop.phase
      system.pipeline
  { system with
    pipeline
    container := system.container.changeLoops [number] fun loop => { loop with phase } }

/-- One step of a call. -/
def stepCall (system : System) (number : Nat) (call : ControlCall) : System :=
  let (call, scope) :=
    Control.step system.settings.stopGrace system.now call ⟨system.container, system.pipeline⟩
  { system with
    container := scope.container
    pipeline := scope.pipeline
    calls := system.calls.set number call }

/-- One step of the bridge. -/
def stepBridge (system : System) : System :=
  match system.bridge with
  | .absent => system
  | .waiting =>
    match system.pipeline.signal.take? with
    | none => system
    | some (event, signal) =>
      { system with
        pipeline :=
          { system.pipeline with signal }.warn
            "Critical error received, starting listener monitor"
        bridge := .holding event }
  | .holding _ => { system with bridge := .waiting }.startMonitor

/-- One step of a task. A task that is not there takes none, and an aborted loop neither. An aborted
probing task may still take steps until it finds that the monitor's slot is not its own. -/
def step (system : System) (task : Task) : System :=
  match task with
  | .call number =>
    match system.calls[number]? with
    | none => system
    | some call => system.stepCall number call
  | .probe number =>
    match system.probes[number]? with
    | none => system
    | some probe => system.stepProbe number probe
  | .loop number =>
    match system.container.loops[number]? with
    | none => system
    | some loop => if loop.aborted then system else system.stepLoop number loop
  | .bridge => system.stepBridge

end System

end AccessFeed
