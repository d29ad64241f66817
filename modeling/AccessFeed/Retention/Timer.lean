/-
This file starts and stops the timer of the retention cleanup.

The timer holds its schedule while it runs. Starting a cleanup that is switched
off does nothing, and so does starting one that runs or stopping one that does
not.
-/

import AccessFeed.Retention.Error
import AccessFeed.Retention.Schedule
import AccessFeed.Settings.Basic

namespace AccessFeed.Retention

/-- The timer of the cleanup, with the schedule it runs on if it runs. -/
structure CleanupTimer where
  settings : Settings.Retention
  schedule : Option Schedule := none
deriving DecidableEq, Repr

namespace CleanupTimer

/-- Whether the timer runs. -/
def isRunning (timer : CleanupTimer) : Bool :=
  timer.schedule.isSome

/-- Starts the timer. -/
def start (timer : CleanupTimer) : Except CleanupError Unit × CleanupTimer :=
  if !timer.settings.enabled || timer.isRunning then (.ok (), timer)
  else
    match Schedule.read timer.settings.schedule with
    | none => (.error (.jobCreation "ParseSchedule"), timer)
    | some schedule => (.ok (), { timer with schedule := some schedule })

/-- Stops the timer. -/
def stop (timer : CleanupTimer) : CleanupTimer :=
  { timer with schedule := none }

end CleanupTimer

end AccessFeed.Retention
