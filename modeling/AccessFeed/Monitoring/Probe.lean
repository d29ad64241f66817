/-
This file defines the tasks that probe the store for the monitor.

A task waits for its next probe, makes it, and goes on waiting as long as the
store is unhealthy. At the first healthy probe it takes the monitor's slot, has
the container restarted, and ends.
-/

import AccessFeed.Pipeline.Health

namespace AccessFeed

/-- How far a probing task has come. -/
inductive ProbePhase
  | starting
  | waiting (due : Nat)
  | reading (due : Nat) (cluster : Finding)
  | judging (due : Nat) (report : HealthReport)
  | noting
  | restarting (call : Nat)
  | concluding
  | ended
deriving DecidableEq, Repr

/-- A probing task of some generation of the monitor. -/
structure ProbeTask where
  generation : Nat
  phase : ProbePhase := .starting
  aborted : Bool := false
deriving DecidableEq, Repr

namespace ProbeTask

/-- Whether a probing task takes no more steps. -/
def isOver (probe : ProbeTask) : Bool :=
  probe.aborted || probe.phase == .ended

/-- How late a probe may be without the ones behind it being put off, in milliseconds. -/
def tolerance : Nat := 5

/-- When the probe behind one that was due is due: a period later, counted from the present when the
one before was late. -/
def nextDue (period due now : Nat) : Nat :=
  if due + tolerance < now then now + period else due + period

end ProbeTask

/-- The surroundings of a monitor that is rehearsed without a store: the outcomes of the probes, of
which the last repeats, and how long a restart takes. -/
structure MonitorRehearsal where
  reports : List HealthReport
  restartMillis : Nat
deriving DecidableEq, Repr

namespace MonitorRehearsal

/-- The report of a rehearsed probe when there is none to repeat. -/
def unhealthy : HealthReport := ⟨false, false, none⟩

/-- The next report, and what is left. -/
def next (rehearsal : MonitorRehearsal) : HealthReport × MonitorRehearsal :=
  match rehearsal.reports with
  | [] => (unhealthy, rehearsal)
  | [report] => (report, rehearsal)
  | report :: rest => (report, { rehearsal with reports := rest })

end MonitorRehearsal

end AccessFeed
