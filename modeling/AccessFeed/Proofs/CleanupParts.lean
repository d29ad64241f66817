/-
This file takes a run of the cleanup apart.

A run consists of parts, one for each consumer set, each stream, each
dead-letter stream and the archive, and what it reports is what its parts
answered, one after the other. Each part but the last is an errand on the
stream service, so that it is known what it asks, which streams it names, and
what its answer depends on; the last one alone turns to the archive.
-/

import AccessFeed.Proofs.Cleanups
import AccessFeed.Proofs.Errands

namespace AccessFeed

open Streams (Attempt Errand PendingEntry Request Service StoreError StreamId)

namespace Retention

open Calendar (Instant)
open Settings (ConsumerSet)

/-! ### Parts -/

/-- A part of a run of the cleanup. -/
inductive Part
  | pending (set : ConsumerSet)
  | expired (stream : String)
  | letters (stream : String)
  | purge
deriving DecidableEq, Repr

/-- The message that the failure of a part is logged with. -/
def Part.message : Part → String
  | .pending _ => "Pending entry cleanup failed"
  | .expired _ => "Expired entry cleanup failed"
  | .letters _ => "Dead-letter cleanup failed"
  | .purge => "Access event purge failed"

namespace CleanupReport

/-- The report of what was done to the pending entries of a group. -/
def ofPending (done : PendingCleanup) : CleanupReport :=
  { pendingAcknowledged := done.acknowledged, deadLettered := done.deadLettered }

/-- The report of deleted entries of a stream. -/
def ofExpired (deleted : Nat) : CleanupReport :=
  { entriesDeleted := deleted }

/-- The report of deleted entries of a dead-letter stream. -/
def ofLetters (deleted : Nat) : CleanupReport :=
  { deadLettersDeleted := deleted }

/-- The report of deleted rows. -/
def ofRows (deleted : Nat) : CleanupReport :=
  { rowsDeleted := deleted }

/-- A report with what a part did added. -/
def add (report done : CleanupReport) : CleanupReport :=
  { report with
    pendingAcknowledged := report.pendingAcknowledged + done.pendingAcknowledged
    deadLettered := report.deadLettered + done.deadLettered
    entriesDeleted := report.entriesDeleted + done.entriesDeleted
    deadLettersDeleted := report.deadLettersDeleted + done.deadLettersDeleted
    rowsDeleted := report.rowsDeleted + done.rowsDeleted }

end CleanupReport

namespace Cleaner

/-- The parts of a run that turn to the stream service, in their order. -/
def streamParts (cleaner : Cleaner) : List Part :=
  cleaner.consumers.map .pending ++ cleaner.streams.map .expired ++
    if cleaner.settings.deadLetterEnabled then cleaner.streams.map .letters else []

/-- The parts of a run, in their order. -/
def parts (cleaner : Cleaner) : List Part :=
  cleaner.streamParts ++ [.purge]

/-- An answer of a part, as a report of its own. -/
def reported {Value : Type} (done : Value → CleanupReport)
    (answer : Except CleanupError Value × Pipeline) :
    Except CleanupError CleanupReport × Pipeline :=
  (answer.1.map done, answer.2)

/-- Takes a part of a run, and answers what it did. -/
def take (cleaner : Cleaner) (threshold : Instant) (pipeline : Pipeline) :
    Part → Except CleanupError CleanupReport × Pipeline
  | .pending set => reported .ofPending (cleaner.acknowledgePending set pipeline)
  | .expired stream => reported .ofExpired (cleaner.removeExpired stream threshold pipeline)
  | .letters stream =>
    reported .ofLetters
      (cleaner.removeDeadLetters (cleaner.settings.deadLetterStream stream) threshold pipeline)
  | .purge => reported .ofRows (purge threshold pipeline)

/-- Takes some parts of a run one after the other. -/
def runParts (cleaner : Cleaner) (threshold : Instant) (parts : List Part)
    (state : CleanupReport × Pipeline) : CleanupReport × Pipeline :=
  parts.foldl (fun state part =>
    settle part.message CleanupReport.add state.1 (cleaner.take threshold state.2 part)) state

/-- The pipeline when a part was taken and its failure, if it failed, written down. -/
def afterPart (cleaner : Cleaner) (threshold : Instant) (pipeline : Pipeline) (part : Part) :
    Pipeline :=
  (settle part.message .add {} (cleaner.take threshold pipeline part)).2

/-- What the parts of a run answer. -/
def outcomes (cleaner : Cleaner) (threshold : Instant) :
    List Part → Pipeline → List (Except CleanupError CleanupReport)
  | [], _ => []
  | part :: rest, pipeline =>
    (cleaner.take threshold pipeline part).1 ::
      outcomes cleaner threshold rest (cleaner.afterPart threshold pipeline part)

variable (cleaner : Cleaner) (threshold : Instant)

theorem runParts_append (first second : List Part) (state : CleanupReport × Pipeline) :
    cleaner.runParts threshold (first ++ second) state =
      cleaner.runParts threshold second (cleaner.runParts threshold first state) :=
  List.foldl_append

theorem runParts_cons (part : Part) (rest : List Part) (state : CleanupReport × Pipeline) :
    cleaner.runParts threshold (part :: rest) state =
      cleaner.runParts threshold rest
        (settle part.message .add state.1 (cleaner.take threshold state.2 part)) := rfl

theorem settle_reported {Value : Type} (done : Value → CleanupReport) (message : String)
    {merge : CleanupReport → Value → CleanupReport} {report : CleanupReport}
    (same : ∀ value, merge report value = report.add (done value))
    (answer : Except CleanupError Value × Pipeline) :
    settle message merge report answer = settle message .add report (reported done answer) := by
  obtain ⟨answer, after⟩ := answer
  cases answer with
  | error error => rfl
  | ok value => exact congrArg (·, after) (same value)

theorem runPending_eq (sets : List ConsumerSet) (state : CleanupReport × Pipeline) :
    cleaner.runPending sets state = cleaner.runParts threshold (sets.map .pending) state := by
  induction sets generalizing state with
  | nil => rfl
  | cons set rest inductionHypothesis =>
    obtain ⟨report, pipeline⟩ := state
    rw [runPending, inductionHypothesis, settle_reported .ofPending _ fun _ => rfl]
    rfl

theorem runExpired_eq (names : List String) (state : CleanupReport × Pipeline) :
    cleaner.runExpired threshold names state =
      cleaner.runParts threshold (names.map .expired) state := by
  induction names generalizing state with
  | nil => rfl
  | cons name rest inductionHypothesis =>
    obtain ⟨report, pipeline⟩ := state
    rw [runExpired, inductionHypothesis, settle_reported .ofExpired _ fun _ => rfl]
    rfl

theorem runDeadLetters_eq (names : List String) (state : CleanupReport × Pipeline) :
    cleaner.runDeadLetters threshold names state =
      cleaner.runParts threshold (names.map .letters) state := by
  induction names generalizing state with
  | nil => rfl
  | cons name rest inductionHypothesis =>
    obtain ⟨report, pipeline⟩ := state
    rw [runDeadLetters, inductionHypothesis, settle_reported .ofLetters _ fun _ => rfl]
    rfl

theorem of_reported {Value : Type} {done : Value → CleanupReport}
    {answer : Except CleanupError Value × Pipeline} {report : CleanupReport}
    (told : (reported done answer).1 = .ok report) :
    ∃ value, answer.1 = .ok value ∧ report = done value := by
  obtain ⟨answer, after⟩ := answer
  cases answer with
  | error error => cases told
  | ok value => exact ⟨value, rfl, (Except.ok.inj told).symm⟩

/-- Until the archive has its turn no rows are reported. -/
theorem rowsDeleted_runParts {parts : List Part} (early : .purge ∉ parts)
    (state : CleanupReport × Pipeline) :
    (cleaner.runParts threshold parts state).1.rowsDeleted = state.1.rowsDeleted := by
  induction parts generalizing state with
  | nil => rfl
  | cons part rest inductionHypothesis =>
    obtain ⟨other, later⟩ := List.ne_and_not_mem_of_not_mem_cons early
    rw [runParts_cons, inductionHypothesis later]
    have none : ∀ done, (cleaner.take threshold state.2 part).1 = .ok done →
        done.rowsDeleted = 0 := by
      intro done answered
      cases part with
      | purge => exact absurd rfl other
      | pending | expired | letters =>
        obtain ⟨_, _, rfl⟩ := of_reported answered
        rfl
    generalize cleaner.take threshold state.2 part = taken at none ⊢
    obtain ⟨answer, after⟩ := taken
    cases answer with
    | error error => rfl
    | ok done => exact congrArg (state.1.rowsDeleted + ·) (none done rfl)

theorem purge_not_mem_streamParts : .purge ∉ cleaner.streamParts := by
  rw [streamParts]
  split <;> simp

theorem runPurge_eq {state : CleanupReport × Pipeline} (none : state.1.rowsDeleted = 0) :
    runPurge threshold state = cleaner.runParts threshold [.purge] state := by
  obtain ⟨report, pipeline⟩ := state
  rw [runPurge, settle_reported .ofRows]
  · rfl
  · intro deleted
    show ({ report with rowsDeleted := deleted } : CleanupReport) =
      { report with rowsDeleted := report.rowsDeleted + deleted }
    rw [none, Nat.zero_add]

/-- A run takes its parts one after the other. -/
theorem runFor_eq (pipeline : Pipeline) :
    cleaner.runFor threshold pipeline =
      cleaner.runParts threshold cleaner.parts ({}, pipeline) := by
  have early := cleaner.rowsDeleted_runParts threshold cleaner.purge_not_mem_streamParts
    ({}, pipeline)
  have same : cleaner.runFor threshold pipeline =
      runPurge threshold (cleaner.runParts threshold cleaner.streamParts ({}, pipeline)) := by
    rw [runFor, streamParts, runParts_append, runParts_append, ← runPending_eq, ← runExpired_eq]
    split
    · rw [runDeadLetters_eq]
    · rfl
  rw [same, runPurge_eq cleaner threshold early, parts, runParts_append]

/-! ### What the parts ask -/

/-- Copying a pending entry. -/
def copying (cleaner : Cleaner) (wall : Instant) (stream group : String) (entry : PendingEntry) :
    Errand (Option Bool) :=
  .ask (.range stream entry.id entry.id 1) fun
    | none => .done none
    | some [] => .done (some false)
    | some (record :: _) =>
      .ask (.append wall.millis.toNat.toUInt64 (cleaner.settings.deadLetterStream stream)
        (deadLetterFields record group entry wall)) fun id => .done (id.map fun _ => true)

/-- Copying pending entries, which tells those that can be acknowledged. -/
def copyingAll (cleaner : Cleaner) (wall : Instant) (stream group : String) :
    List PendingEntry → Errand (List StreamId × Nat)
  | [] => .done ([], 0)
  | entry :: rest =>
    (cleaner.copying wall stream group entry).bind fun
      | none => copyingAll cleaner wall stream group rest
      | some copied =>
        (copyingAll cleaner wall stream group rest).map fun released =>
          (entry.id :: released.1, (if copied then 1 else 0) + released.2)

/-- Releasing pending entries. -/
def releasing (cleaner : Cleaner) (wall : Instant) (stream group : String)
    (entries : List PendingEntry) : Errand (List StreamId × Nat) :=
  if cleaner.settings.deadLetterEnabled then cleaner.copyingAll wall stream group entries
  else .done (entries.map PendingEntry.id, 0)

/-- Acknowledging what was released. -/
def acknowledging (stream group : String) (ids : List StreamId) : Errand (Option Nat) :=
  if ids.isEmpty then .done (some 0) else .ask (.acknowledge stream group ids) .done

/-- Treating the pending entries of a consumer set. -/
def treating (cleaner : Cleaner) (wall : Instant) (set : ConsumerSet) :
    Errand (Option PendingCleanup) :=
  if cleaner.settings.ackStalePending then
    .ask (.pending set.stream set.group cleaner.settings.pendingBatch) fun
      | none => .done none
      | some [] => .done (some {})
      | some entries =>
        (cleaner.releasing wall set.stream set.group entries).bind fun released =>
          (acknowledging set.stream set.group released.1).map <| Option.map fun number =>
            { acknowledged := number, deadLettered := released.2 }
  else .done (some {})

/-- Deleting the entries of a stream up to a cutoff. -/
def deleting (cleaner : Cleaner) (spared : Nat) (stream : String) (cutoff : StreamId) :
    Errand (Option Nat) :=
  .ask (.range stream .least cutoff cleaner.settings.deleteBatch) fun
    | none => .done none
    | some records =>
      if ((records.drop spared).map Streams.Record.id).isEmpty then .done (some 0)
      else .ask (.delete stream ((records.drop spared).map Streams.Record.id)) .done

/-- What a part asks of the stream service. -/
def errand (cleaner : Cleaner) (threshold wall : Instant) : Part → Errand (Option CleanupReport)
  | .pending set => (cleaner.treating wall set).map (Option.map .ofPending)
  | .expired stream =>
    (cleaner.deleting 1 stream (.cutoff threshold)).map (Option.map .ofExpired)
  | .letters stream =>
    (cleaner.deleting 0 (cleaner.settings.deadLetterStream stream) (.cutoff threshold)).map
      (Option.map .ofLetters)
  | .purge => .done none

/-- The turns of some parts of a run, each with the requests made in it. -/
def turns (cleaner : Cleaner) (threshold wall : Instant) :
    List Part → Service → List (Part × List Attempt)
  | [], _ => []
  | part :: rest, service =>
    (part, (cleaner.errand threshold wall part).trail service) ::
      turns cleaner threshold wall rest ((cleaner.errand threshold wall part).run service).2

/-- The requests of some parts of a run, each with its part. -/
def trail (cleaner : Cleaner) (threshold wall : Instant) (parts : List Part) (service : Service) :
    List (Part × Attempt) :=
  (cleaner.turns threshold wall parts service).flatMap fun turn => turn.2.map (turn.1, ·)

theorem trail_cons (wall : Instant) (part : Part) (rest : List Part) (service : Service) :
    cleaner.trail threshold wall (part :: rest) service =
      ((cleaner.errand threshold wall part).trail service).map (part, ·) ++
        cleaner.trail threshold wall rest ((cleaner.errand threshold wall part).run service).2 :=
  rfl

section

variable {allowed : Request → Prop} {stream group : String}

theorem makes_copying (read : ∀ id, allowed (.range stream id id 1))
    (copy : ∀ now fields,
      allowed (.append now (cleaner.settings.deadLetterStream stream) fields))
    (wall : Instant) (group : String) (entry : PendingEntry) :
    (cleaner.copying wall stream group entry).Makes allowed := by
  refine ⟨read entry.id, fun answer => ?_⟩
  cases answer with
  | none => trivial
  | some records =>
    cases records with
    | nil => trivial
    | cons record rest => exact ⟨copy _ _, fun _ => trivial⟩

theorem makes_releasing (read : ∀ id, allowed (.range stream id id 1))
    (copy : ∀ now fields,
      allowed (.append now (cleaner.settings.deadLetterStream stream) fields))
    (wall : Instant) (group : String) (entries : List PendingEntry) :
    (cleaner.releasing wall stream group entries).Makes allowed := by
  rw [releasing]
  split
  · induction entries with
    | nil => trivial
    | cons entry rest inductionHypothesis =>
      refine (cleaner.makes_copying read copy wall group entry).bind fun copied => ?_
      cases copied with
      | none => exact inductionHypothesis
      | some copied => exact inductionHypothesis.map _
  · trivial

theorem makes_acknowledging (ids : List StreamId)
    (acknowledge : allowed (.acknowledge stream group ids)) :
    (acknowledging stream group ids).Makes allowed := by
  rw [acknowledging]
  split
  · trivial
  · exact ⟨acknowledge, fun _ => trivial⟩

theorem makes_treating {set : ConsumerSet}
    (list : allowed (.pending set.stream set.group cleaner.settings.pendingBatch))
    (read : ∀ id, allowed (.range set.stream id id 1))
    (copy : ∀ now fields,
      allowed (.append now (cleaner.settings.deadLetterStream set.stream) fields))
    (acknowledge : ∀ ids, allowed (.acknowledge set.stream set.group ids)) (wall : Instant) :
    (cleaner.treating wall set).Makes allowed := by
  rw [treating]
  split
  · refine ⟨list, fun answer => ?_⟩
    cases answer with
    | none => trivial
    | some entries =>
      cases entries with
      | nil => trivial
      | cons entry rest =>
        exact (cleaner.makes_releasing read copy wall set.group _).bind fun released =>
          (makes_acknowledging released.1 (acknowledge _)).map _
  · trivial

theorem makes_deleting {cutoff : StreamId}
    (read : allowed (.range stream .least cutoff cleaner.settings.deleteBatch))
    (delete : ∀ ids, allowed (.delete stream ids)) (spared : Nat) :
    (cleaner.deleting spared stream cutoff).Makes allowed := by
  refine ⟨read, fun answer => ?_⟩
  cases answer with
  | none => trivial
  | some records =>
    dsimp only
    split
    · trivial
    · exact ⟨delete _, fun _ => trivial⟩

end

/-! ### Parts as errands -/

/-- Whether an errand leads from one state of the pipeline to another, which differ in the stream
service and in what is written down. -/
structure Performs {Value : Type} (errand : Errand Value) (before : Pipeline) (value : Value)
    (after : Pipeline) : Prop where
  run : errand.run before.service = (value, after.service)
  wall : after.wall = before.wall
  archive : after.archive = before.archive

namespace Performs

variable {Value Other : Type} {errand : Errand Value} {value : Value}
  {before reached after : Pipeline}

theorem done (value : Value) (pipeline : Pipeline) :
    Performs (.done value) pipeline value pipeline := ⟨rfl, rfl, rfl⟩

theorem ask {request : Request} {next : Option request.Answered → Errand Value}
    {answer : Except StoreError request.Answered}
    (asked : before.ask (fun service => request.make service) = (answer, reached))
    (rest : Performs (next answer.toOption) reached value after) :
    Performs (.ask request next) before value after := by
  obtain ⟨told, rfl⟩ := Pipeline.of_ask asked
  refine ⟨?_, rest.wall, rest.archive⟩
  rw [Errand.run, told]
  exact rest.run

theorem bind {next : Value → Errand Other} {result : Other}
    (first : Performs errand before value reached)
    (rest : Performs (next value) reached result after) :
    Performs (errand.bind next) before result after := by
  refine ⟨?_, rest.wall.trans first.wall, rest.archive.trans first.archive⟩
  rw [Errand.run_bind, first.run]
  exact rest.run

end Performs

variable (cleaner : Cleaner)

theorem performs_deadLetter (stream group : String) (entry : PendingEntry)
    (pipeline : Pipeline) :
    Performs (cleaner.copying pipeline.wall stream group entry) pipeline
      (cleaner.deadLetter stream group entry pipeline).1.toOption
      (cleaner.deadLetter stream group entry pipeline).2 := by
  rw [deadLetter, copying]
  generalize asked : pipeline.ask (fun service =>
    service.range stream entry.id entry.id 1) = read
  obtain ⟨answer, reached⟩ := read
  refine Performs.ask asked ?_
  have wall : reached.wall = pipeline.wall := by
    obtain ⟨-, rfl⟩ := Pipeline.of_ask asked
    rfl
  cases answer with
  | error error => exact .done _ reached
  | ok records =>
    cases records with
    | nil => exact .done _ reached
    | cons record rest =>
      dsimp only [Except.toOption]
      rw [Pipeline.wallMillis, wall]
      generalize appended : reached.ask (fun service =>
        service.append pipeline.wall.millis.toNat.toUInt64
          (cleaner.settings.deadLetterStream stream)
          (deadLetterFields record group entry pipeline.wall)) = made
      obtain ⟨answer, after⟩ := made
      refine Performs.ask appended ?_
      cases answer <;> exact .done _ after

theorem performs_deadLetterAll (stream group : String) (entries : List PendingEntry)
    (pipeline : Pipeline) :
    Performs (cleaner.copyingAll pipeline.wall stream group entries) pipeline
      (cleaner.deadLetterAll stream group entries pipeline).1
      (cleaner.deadLetterAll stream group entries pipeline).2 := by
  induction entries generalizing pipeline with
  | nil => exact .done _ pipeline
  | cons entry rest inductionHypothesis =>
    have copied := cleaner.performs_deadLetter stream group entry pipeline
    rw [deadLetterAll, copyingAll]
    generalize cleaner.deadLetter stream group entry pipeline = answer at copied ⊢
    obtain ⟨answer, reached⟩ := answer
    refine copied.bind ?_
    have wall : reached.wall = pipeline.wall := copied.wall
    cases answer with
    | error error =>
      -- The warning changes neither the service nor the time, all the errand depends on.
      have others := inductionHypothesis
        (reached.warn "Dead-letter copy failed, leaving entry pending")
      rw [show (reached.warn _).wall = pipeline.wall from wall] at others
      exact ⟨others.run, others.wall, others.archive⟩
    | ok copied =>
      have others := inductionHypothesis reached
      rw [wall] at others
      exact others.bind (.done _ _)

theorem performs_release (stream group : String) (entries : List PendingEntry)
    (pipeline : Pipeline) :
    Performs (cleaner.releasing pipeline.wall stream group entries) pipeline
      (cleaner.release stream group entries pipeline).1
      (cleaner.release stream group entries pipeline).2 := by
  rw [release, releasing]
  split
  · exact cleaner.performs_deadLetterAll stream group entries pipeline
  · exact .done _ pipeline

theorem performs_forceAcknowledge (stream group : String) (ids : List StreamId)
    (pipeline : Pipeline) :
    Performs (acknowledging stream group ids) pipeline
      (forceAcknowledge stream group ids pipeline).1.toOption
      (forceAcknowledge stream group ids pipeline).2 := by
  rw [forceAcknowledge, acknowledging]
  split
  · exact .done _ pipeline
  · exact Performs.ask rfl (.done _ _)

theorem performs_acknowledgePending (set : ConsumerSet) (pipeline : Pipeline) :
    Performs (cleaner.treating pipeline.wall set) pipeline
      (cleaner.acknowledgePending set pipeline).1.toOption
      (cleaner.acknowledgePending set pipeline).2 := by
  rw [acknowledgePending, treating]
  split
  · dsimp only
    generalize asked : pipeline.ask (fun service =>
      service.pending set.stream set.group cleaner.settings.pendingBatch) = read
    obtain ⟨answer, reached⟩ := read
    refine Performs.ask asked ?_
    have wall : reached.wall = pipeline.wall := by
      obtain ⟨-, rfl⟩ := Pipeline.of_ask asked
      rfl
    cases answer with
    | error error => exact .done _ reached
    | ok entries =>
      cases entries with
      | nil => exact .done _ reached
      | cons entry rest =>
        dsimp only [Except.toOption]
        have released := cleaner.performs_release set.stream set.group (entry :: rest) reached
        rw [wall] at released
        generalize cleaner.release set.stream set.group (entry :: rest) reached = answer
          at released ⊢
        obtain ⟨⟨ids, copies⟩, after⟩ := answer
        refine released.bind ?_
        have forced := performs_forceAcknowledge set.stream set.group ids after
        dsimp only
        generalize forceAcknowledge set.stream set.group ids after = answer at forced ⊢
        obtain ⟨answer, ended⟩ := answer
        refine forced.bind ?_
        cases answer <;> exact ⟨rfl, rfl, rfl⟩
  · exact .done _ pipeline

theorem performs_deleteUpTo (spared : Nat) (stream : String) (cutoff : StreamId)
    (pipeline : Pipeline) :
    Performs (cleaner.deleting spared stream cutoff) pipeline
      (cleaner.deleteUpTo spared stream cutoff pipeline).1.toOption
      (cleaner.deleteUpTo spared stream cutoff pipeline).2 := by
  rw [deleteUpTo, deleting]
  dsimp only
  generalize asked : pipeline.ask (fun service =>
    service.range stream .least cutoff cleaner.settings.deleteBatch) = read
  obtain ⟨answer, reached⟩ := read
  refine Performs.ask asked ?_
  cases answer with
  | error error => exact .done _ reached
  | ok records =>
    dsimp only [Except.toOption]
    split
    · exact .done _ reached
    · rw [deleteEntries]
      generalize deleted : reached.ask (fun service =>
        service.delete stream ((records.drop spared).map Streams.Record.id)) = answer
      obtain ⟨answer, left⟩ := answer
      refine Performs.ask deleted ?_
      cases answer <;> exact ⟨rfl, rfl, rfl⟩

theorem Performs.reported {Value : Type} {errand : Errand (Option Value)} {pipeline : Pipeline}
    {answer : Except CleanupError Value × Pipeline}
    (performs : Performs errand pipeline answer.1.toOption answer.2)
    (done : Value → CleanupReport) :
    Performs (errand.map (Option.map done)) pipeline
      (Cleaner.reported done answer).1.toOption (Cleaner.reported done answer).2 := by
  refine performs.bind ?_
  obtain ⟨answer, after⟩ := answer
  cases answer <;> exact ⟨rfl, rfl, rfl⟩

/-- Every part but that of the archive does its errand, and answers what the errand comes to. -/
theorem performs_take (threshold : Instant) (pipeline : Pipeline) {part : Part}
    (other : part ≠ .purge) :
    Performs (cleaner.errand threshold pipeline.wall part) pipeline
      (cleaner.take threshold pipeline part).1.toOption
      (cleaner.take threshold pipeline part).2 := by
  cases part with
  | pending set => exact (cleaner.performs_acknowledgePending set pipeline).reported _
  | expired stream => exact (cleaner.performs_deleteUpTo 1 stream _ pipeline).reported _
  | letters stream => exact (cleaner.performs_deleteUpTo 0 _ _ pipeline).reported _
  | purge => exact absurd rfl other

/-! ### A run as errands -/

variable (threshold : Instant)

/-- A report with what a part answered. -/
def tell (report : CleanupReport) : Except CleanupError CleanupReport → CleanupReport
  | .ok done => report.add done
  | .error error => report.fail error

theorem settle_eq (report : CleanupReport) (pipeline : Pipeline) (part : Part) :
    settle part.message .add report (cleaner.take threshold pipeline part) =
      (tell report (cleaner.take threshold pipeline part).1,
        cleaner.afterPart threshold pipeline part) := by
  rw [afterPart]
  obtain ⟨answer, after⟩ := cleaner.take threshold pipeline part
  cases answer <;> rfl

/-- What is written down about a part is nothing to its errand. -/
theorem performs_afterPart (pipeline : Pipeline) {part : Part} (other : part ≠ .purge) :
    Performs (cleaner.errand threshold pipeline.wall part) pipeline
      (cleaner.take threshold pipeline part).1.toOption
      (cleaner.afterPart threshold pipeline part) := by
  have taken := cleaner.performs_take threshold pipeline other
  rw [afterPart]
  generalize cleaner.take threshold pipeline part = answer at taken ⊢
  obtain ⟨answer, after⟩ := answer
  cases answer <;> exact ⟨taken.run, taken.wall, taken.archive⟩

/-- The part of the archive alone turns to the archive, and to nothing else. -/
theorem afterPart_purge (pipeline : Pipeline) :
    (cleaner.take threshold pipeline .purge).1 =
        (((pipeline.archive.deleteBefore threshold).1.mapError fun failure =>
          CleanupError.database failure.message).map .ofRows) ∧
      (cleaner.afterPart threshold pipeline .purge).archive =
        (pipeline.archive.deleteBefore threshold).2 ∧
      (cleaner.afterPart threshold pipeline .purge).service = pipeline.service ∧
      (cleaner.afterPart threshold pipeline .purge).wall = pipeline.wall := by
  rw [afterPart, take, purge]
  dsimp only [Pipeline.look]
  generalize pipeline.archive.deleteBefore threshold = answer
  obtain ⟨answer, archive⟩ := answer
  cases answer <;> exact ⟨rfl, rfl, rfl, rfl⟩

theorem service_afterPart (pipeline : Pipeline) (part : Part) :
    (cleaner.afterPart threshold pipeline part).service =
        ((cleaner.errand threshold pipeline.wall part).run pipeline.service).2 ∧
      (cleaner.afterPart threshold pipeline part).wall = pipeline.wall := by
  by_cases purges : part = .purge
  · subst purges
    exact (cleaner.afterPart_purge threshold pipeline).2.2
  · have performs := cleaner.performs_afterPart threshold pipeline purges
    exact ⟨(congrArg Prod.snd performs.run).symm, performs.wall⟩

/-- What a run reports is what its parts answer. -/
theorem report_runParts (parts : List Part) (report : CleanupReport) (pipeline : Pipeline) :
    (cleaner.runParts threshold parts (report, pipeline)).1 =
      (cleaner.outcomes threshold parts pipeline).foldl tell report := by
  induction parts generalizing report pipeline with
  | nil => rfl
  | cons part rest inductionHypothesis =>
    rw [runParts_cons, settle_eq, inductionHypothesis]
    rfl

/-- The parts of a run that turn to the stream service leave the archive alone. -/
theorem archive_runParts {parts : List Part} (early : .purge ∉ parts)
    (state : CleanupReport × Pipeline) :
    (cleaner.runParts threshold parts state).2.archive = state.2.archive := by
  induction parts generalizing state with
  | nil => rfl
  | cons part rest inductionHypothesis =>
    obtain ⟨other, later⟩ := List.ne_and_not_mem_of_not_mem_cons early
    rw [runParts_cons, settle_eq, inductionHypothesis later]
    exact (cleaner.performs_afterPart threshold state.2 other.symm).archive

/-- What becomes of the archive in a run, and how many rows are reported, is decided by the archive
alone. -/
theorem archive_runFor (pipeline : Pipeline) :
    (cleaner.runFor threshold pipeline).2.archive =
        (pipeline.archive.deleteBefore threshold).2 ∧
      (cleaner.runFor threshold pipeline).1.rowsDeleted =
        (pipeline.archive.deleteBefore threshold).1.toOption.getD 0 := by
  have early := cleaner.purge_not_mem_streamParts
  have none := cleaner.rowsDeleted_runParts threshold early ({}, pipeline)
  have same := cleaner.archive_runParts threshold early ({}, pipeline)
  rw [runFor_eq, parts, runParts_append]
  generalize cleaner.runParts threshold cleaner.streamParts ({}, pipeline) = state at none same ⊢
  obtain ⟨report, reached⟩ := state
  obtain ⟨answered, archive, -, -⟩ := cleaner.afterPart_purge threshold reached
  rw [runParts_cons, settle_eq, answered, ← same]
  refine ⟨archive, ?_⟩
  show (tell report _).rowsDeleted = _
  cases (reached.archive.deleteBefore threshold).1 with
  | error failure => exact none
  | ok deleted =>
    show report.rowsDeleted + deleted = deleted
    rw [show report.rowsDeleted = 0 from none, Nat.zero_add]

end Cleaner

end Retention

end AccessFeed
