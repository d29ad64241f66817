/-
This file names the errors of a stream store.

The first four say that the store itself is in trouble and are critical: a
listener that meets one stops and asks for the store to be watched. The last two
concern one request and leave the store usable.
-/

import AccessFeed.Failure

namespace AccessFeed.Streams

/-- An error of a stream store, with the text of its cause. -/
inductive StoreError
  | timeout (cause : String)
  | connection (cause : String)
  | commandExecution (cause : String)
  | clusterSystem (cause : String)
  | groupExists (cause : String)
  | protocol (cause : String)
deriving DecidableEq, Repr

namespace StoreError

/-- Whether an error means that the store, and not just one request, is impaired. -/
def isCritical : StoreError → Bool
  | .timeout _ => true
  | .connection _ => true
  | .commandExecution _ => true
  | .clusterSystem _ => true
  | .groupExists _ => false
  | .protocol _ => false

/-- The short label of an error in logs and counters. -/
def label : StoreError → String
  | .timeout _ => "timeout"
  | .connection _ => "connection"
  | .commandExecution _ => "command_execution"
  | .clusterSystem _ => "cluster_system"
  | .groupExists _ => "group_exists"
  | .protocol _ => "protocol"

/-- The error with a label, if it is one of the labels. -/
def ofLabel? (label cause : String) : Option StoreError :=
  [timeout cause, connection cause, commandExecution cause, clusterSystem cause,
    groupExists cause, protocol cause].find? fun error => error.label == label

/-- The wording of an error. -/
def message : StoreError → String
  | .timeout cause => "Stream command timed out: " ++ cause
  | .connection cause => "Stream connection failure: " ++ cause
  | .commandExecution cause => "Stream command failed: " ++ cause
  | .clusterSystem cause => "Stream cluster failure: " ++ cause
  | .groupExists cause => "Consumer group already exists: " ++ cause
  | .protocol cause => "Stream protocol error: " ++ cause

/-- A store error as a failure of the pipeline: a timeout and an existing group keep their own
kind, everything else is a failure of the store. -/
def toFailure : StoreError → Failure
  | .timeout cause => .timeout cause
  | .groupExists cause => .alreadyExists cause
  | error => .stream error.message

end StoreError

end AccessFeed.Streams
