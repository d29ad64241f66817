/-
This file defines how a consumer group is ensured.

A stream that is not there is created with a placeholder entry, and a group that
is not there is created behind the last entry. Every call to the store is a step
of its own, between which others may act; a group that somebody else creates in
the meantime is as good as one created here.
-/

import AccessFeed.Pipeline.Basic

namespace AccessFeed

open Streams (StoreError)

/-- How far the ensuring of a group has come. -/
inductive EnsurePhase
  | checking
  | seeding
  | listing
  | creating
  | finished (result : Except StoreError Unit)

namespace EnsurePhase

/-- The fields of the entry that creates a stream. -/
def placeholder : List (String × String) := [("event_id", "preservedId")]

/-- One step of ensuring a group: one call to the store. -/
def step (stream group : String) (phase : EnsurePhase) (pipeline : Pipeline) :
    EnsurePhase × Pipeline :=
  match phase with
  | .checking =>
    match pipeline.ask fun service => service.hasStream stream with
    | (.ok true, pipeline) => (.listing, pipeline)
    | (.ok false, pipeline) => (.seeding, pipeline)
    | (.error error, pipeline) => (.finished (.error error), pipeline)
  | .seeding =>
    match pipeline.ask fun service => service.append pipeline.wallMillis stream placeholder with
    | (.ok _, pipeline) => (.listing, pipeline)
    | (.error error, pipeline) => (.finished (.error error), pipeline)
  | .listing =>
    match pipeline.ask fun service => service.groupNames stream with
    | (.ok names, pipeline) =>
      (if names.contains group then .finished (.ok ()) else .creating, pipeline)
    | (.error error, pipeline) => (.finished (.error error), pipeline)
  | .creating =>
    match pipeline.ask fun service => service.createGroup stream group with
    | (.ok (), pipeline) => (.finished (.ok ()), pipeline)
    | (.error (.groupExists _), pipeline) => (.finished (.ok ()), pipeline)
    | (.error error, pipeline) => (.finished (.error error), pipeline)
  | .finished result => (.finished result, pipeline)

/-- How many steps are left at most. -/
def remaining : EnsurePhase → Nat
  | .checking => 4
  | .seeding => 3
  | .listing => 2
  | .creating => 1
  | .finished _ => 0

/-- Every step brings the ensuring of a group nearer to its end. -/
theorem remaining_step (stream group : String) (phase : EnsurePhase) (pipeline : Pipeline)
    (unfinished : phase.remaining ≠ 0) :
    (phase.step stream group pipeline).1.remaining < phase.remaining := by
  cases phase with
  | finished result => exact absurd rfl unfinished
  | checking => simp only [step]; split <;> simp [remaining]
  | seeding => simp only [step]; split <;> simp [remaining]
  | listing =>
    simp only [step]
    split
    · split <;> simp [remaining]
    · simp [remaining]
  | creating => simp only [step]; split <;> simp [remaining]

/-- Takes all steps that are left, with nobody else acting. -/
def complete (stream group : String) (phase : EnsurePhase) (pipeline : Pipeline) :
    Except StoreError Unit × Pipeline :=
  match phase with
  | .finished result => (result, pipeline)
  | phase =>
    if unfinished : phase.remaining ≠ 0 then
      let next := phase.step stream group pipeline
      have := remaining_step stream group phase pipeline unfinished
      complete stream group next.1 next.2
    else (.ok (), pipeline)
termination_by phase.remaining

end EnsurePhase

namespace Pipeline

/-- Ensures a group of a stream. -/
def ensureGroup (pipeline : Pipeline) (stream group : String) :
    Except StoreError Unit × Pipeline :=
  EnsurePhase.complete stream group .checking pipeline

end Pipeline

end AccessFeed
