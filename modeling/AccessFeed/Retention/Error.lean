/-
This file names the errors of the retention cleanup.
-/

import AccessFeed.Streams.Error

namespace AccessFeed.Retention

open Streams (StoreError)

/-- An error of the cleanup or of its schedule. -/
inductive CleanupError
  | stream (source : StoreError)
  | database (cause : String)
  | jobCreation (cause : String)
  | startup (cause : String)
  | shutdown (cause : String)
deriving DecidableEq, Repr

namespace CleanupError

/-- The name an error is reported under. -/
def name : CleanupError → String
  | .stream _ => "Stream"
  | .database _ => "Database"
  | .jobCreation _ => "JobCreationFailed"
  | .startup _ => "StartupFailed"
  | .shutdown _ => "ShutdownFailed"

/-- The error with a name that is not due to the stream store, if it is one of the names. -/
def ofName? (name cause : String) : Option CleanupError :=
  [database cause, jobCreation cause, startup cause, shutdown cause].find? fun error =>
    error.name == name

/-- The wording of an error. -/
def message : CleanupError → String
  | .stream source => "Stream cleanup failed: " ++ source.message
  | .database cause => "Database cleanup failed: " ++ cause
  | .jobCreation cause => "Failed to create cleanup job: " ++ cause
  | .startup cause => "Failed to start cleanup scheduler: " ++ cause
  | .shutdown cause => "Failed to shutdown cleanup scheduler: " ++ cause

/-- An error of the cleanup as a failure of the pipeline. -/
def toFailure : CleanupError → Failure
  | .stream source => source.toFailure
  | .database cause => .database cause
  | .jobCreation cause => .configuration cause
  | .startup cause => .internal (CleanupError.startup cause).message
  | .shutdown cause => .internal (CleanupError.shutdown cause).message

end CleanupError

end AccessFeed.Retention
