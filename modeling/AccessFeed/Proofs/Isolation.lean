/-
This file proves that the parts of a cleanup fail each on its own.

The archive is cleaned whatever becomes of the streams. What becomes of a stream
and its dead letters depends on what they were and on the requests naming them
that failed, provided that no other stream or dead-letter stream has the name of
one of them: its parts ask nothing else, and all other parts leave both alone.
Every part that fails is reported once.
-/

import AccessFeed.Proofs.CleanupParts
import AccessFeed.Proofs.Survivors

namespace AccessFeed.Retention

open Calendar (Instant)
open Settings (ConsumerSet)
open Streams (Attempt Errand Service StreamId)

/-- The configured stream that a part is for. -/
def Part.stream? : Part → Option String
  | .pending set => some set.stream
  | .expired stream => some stream
  | .letters stream => some stream
  | .purge => none

namespace Cleaner

variable (cleaner : Cleaner)

/-! ### The streams of a part -/

/-- The names that the parts for a stream are concerned with. -/
def Concerned (stream name : String) : Prop :=
  name = stream ∨ name = cleaner.settings.deadLetterStream stream

instance (stream name : String) : Decidable (cleaner.Concerned stream name) :=
  inferInstanceAs (Decidable (_ ∨ _))

/-- Whether the key and the dead-letter name of a stream differ from those of all other ones. -/
def Apart (stream : String) : Prop :=
  ∀ other ∈ cleaner.streams, other ≠ stream →
    ∀ name, cleaner.Concerned other name → ¬ cleaner.Concerned stream name

/-- A part names the stream it is for and its dead-letter stream only. -/
theorem names_errand (threshold wall : Instant) (part : Part) :
    (cleaner.errand threshold wall part).Names fun name =>
      ∃ stream, part.stream? = some stream ∧ cleaner.Concerned stream name := by
  cases part with
  | pending set =>
    have own : ∃ stream, some set.stream = some stream ∧ cleaner.Concerned stream set.stream :=
      ⟨_, rfl, Or.inl rfl⟩
    exact (cleaner.makes_treating own (fun _ => own) (fun _ _ => ⟨_, rfl, Or.inr rfl⟩)
      (fun _ => own) wall).map _
  | expired stream =>
    exact (cleaner.makes_deleting ⟨stream, rfl, Or.inl rfl⟩
      (fun _ => ⟨stream, rfl, Or.inl rfl⟩) 1).map _
  | letters stream =>
    exact (cleaner.makes_deleting ⟨stream, rfl, Or.inr rfl⟩
      (fun _ => ⟨stream, rfl, Or.inr rfl⟩) 0).map _
  | purge => trivial

theorem mem_streams_of_part {part : Part} (member : part ∈ cleaner.parts) {stream : String}
    (own : part.stream? = some stream) : stream ∈ cleaner.streams := by
  rw [parts, streamParts, List.mem_append, List.mem_append, List.mem_append] at member
  rcases member with ((sets | expired) | letters) | purge
  · obtain ⟨set, among, rfl⟩ := List.mem_map.mp sets
    obtain rfl := Option.some.inj own
    exact mem_streams.mpr ⟨set, among, rfl⟩
  · obtain ⟨name, among, rfl⟩ := List.mem_map.mp expired
    exact Option.some.inj own ▸ among
  · split at letters
    · obtain ⟨name, among, rfl⟩ := List.mem_map.mp letters
      exact Option.some.inj own ▸ among
    · exact absurd letters List.not_mem_nil
  · obtain rfl := List.mem_singleton.mp purge
    cases own

/-- The parts of a run name a stream that stands apart, or its dead-letter stream, if they are for
this stream, and else they name neither. -/
theorem names_of_apart {stream : String} (apart : cleaner.Apart stream) {part : Part}
    (member : part ∈ cleaner.parts) (threshold wall : Instant) :
    (cleaner.errand threshold wall part).Names (cleaner.Concerned stream) ∨
      (cleaner.errand threshold wall part).Names fun name => ¬ cleaner.Concerned stream name := by
  have names := cleaner.names_errand threshold wall part
  by_cases own : part.stream? = some stream
  · refine Or.inl (names.mono ?_)
    rintro request ⟨other, same, concerned⟩
    obtain rfl := Option.some.inj (own.symm.trans same)
    exact concerned
  · refine Or.inr (names.mono ?_)
    rintro request ⟨other, same, concerned⟩
    exact apart other (cleaner.mem_streams_of_part member same)
      (fun equal => own (equal ▸ same)) request.stream concerned

/-! ### Two runs -/

/-- Which requests of some parts that name a stream or its dead-letter stream fail. -/
def fates (threshold wall : Instant) (stream : String) (parts : List Part) (service : Service) :
    List Bool :=
  ((cleaner.trail threshold wall parts service).filter fun entry =>
    decide (cleaner.Concerned stream entry.2.request.stream)).map fun entry => entry.2.failed

theorem fates_cons (threshold wall : Instant) (stream : String) (part : Part) (rest : List Part)
    (service : Service) :
    cleaner.fates threshold wall stream (part :: rest) service =
      (((cleaner.errand threshold wall part).trail service).filter fun attempt =>
          decide (cleaner.Concerned stream attempt.request.stream)).map Attempt.failed ++
        cleaner.fates threshold wall stream rest
          ((cleaner.errand threshold wall part).run service).2 := by
  rw [fates, trail_cons, List.filter_append, List.map_append, List.filter_map, List.map_map]
  rfl

/-- Two runs of a part that names a stream and its dead-letter stream only, or neither of them,
leave these alike if they find them so and the same requests naming them fail. -/
theorem alike_part {threshold wall : Instant} {stream : String} {part : Part} {rest : List Part}
    (sorted : (cleaner.errand threshold wall part).Names (cleaner.Concerned stream) ∨
      (cleaner.errand threshold wall part).Names fun name => ¬ cleaner.Concerned stream name)
    {first second : Service}
    (alike : ∀ name, cleaner.Concerned stream name →
      first.store.content? name = second.store.content? name)
    (fates : cleaner.fates threshold wall stream (part :: rest) first =
      cleaner.fates threshold wall stream (part :: rest) second) :
    (∀ name, cleaner.Concerned stream name →
      ((cleaner.errand threshold wall part).run first).2.store.content? name =
        ((cleaner.errand threshold wall part).run second).2.store.content? name) ∧
      cleaner.fates threshold wall stream rest
          ((cleaner.errand threshold wall part).run first).2 =
        cleaner.fates threshold wall stream rest
          ((cleaner.errand threshold wall part).run second).2 := by
  rw [fates_cons, fates_cons] at fates
  rcases sorted with own | foreign
  · have all : ∀ service, ((cleaner.errand threshold wall part).trail service).filter
        (fun attempt => decide (cleaner.Concerned stream attempt.request.stream)) =
          (cleaner.errand threshold wall part).trail service :=
      fun service => List.filter_eq_self.mpr fun _ member => decide_eq_true (own.mem_trail member)
    rw [all, all] at fates
    obtain ⟨-, others, left⟩ := own.run_alike alike fates
    exact ⟨left, others⟩
  · have none : ∀ service, ((cleaner.errand threshold wall part).trail service).filter
        (fun attempt => decide (cleaner.Concerned stream attempt.request.stream)) = [] :=
      fun service => List.filter_eq_nil_iff.mpr fun _ member concerned =>
        foreign.mem_trail member (of_decide_eq_true concerned)
    rw [none, none] at fates
    refine ⟨fun name own => ?_, fates⟩
    rw [foreign.content?_run (not_not_intro own), foreign.content?_run (not_not_intro own)]
    exact alike name own

/-- Two runs of some parts that find a stream and its dead letters alike, and in which the same
requests naming them fail, leave them alike. -/
theorem alike_runParts {threshold wall : Instant} {stream : String} {parts : List Part}
    (sorted : ∀ part ∈ parts,
      (cleaner.errand threshold wall part).Names (cleaner.Concerned stream) ∨
        (cleaner.errand threshold wall part).Names fun name => ¬ cleaner.Concerned stream name)
    {first second : CleanupReport × Pipeline} (firstWall : first.2.wall = wall)
    (secondWall : second.2.wall = wall)
    (alike : ∀ name, cleaner.Concerned stream name →
      first.2.service.store.content? name = second.2.service.store.content? name)
    (fates : cleaner.fates threshold wall stream parts first.2.service =
      cleaner.fates threshold wall stream parts second.2.service) :
    ∀ name, cleaner.Concerned stream name →
      (cleaner.runParts threshold parts first).2.service.store.content? name =
        (cleaner.runParts threshold parts second).2.service.store.content? name := by
  induction parts generalizing first second with
  | nil => exact alike
  | cons part rest inductionHypothesis =>
    obtain ⟨left, others⟩ :=
      cleaner.alike_part (sorted part List.mem_cons_self) alike fates
    obtain ⟨firstService, firstKept⟩ := cleaner.service_afterPart threshold first.2 part
    obtain ⟨secondService, secondKept⟩ := cleaner.service_afterPart threshold second.2 part
    rw [firstWall] at firstService firstKept
    rw [secondWall] at secondService secondKept
    rw [← firstService, ← secondService] at left others
    rw [runParts_cons, runParts_cons, settle_eq, settle_eq]
    exact inductionHypothesis (fun other member => sorted other (List.mem_cons_of_mem _ member))
      firstKept secondKept left others

/-! ### Reported failures -/

/-- What is reported of a part that failed. -/
def failure? : Except CleanupError CleanupReport → Option String
  | .ok _ => none
  | .error error => some error.message

theorem failures_foldl (outcomes : List (Except CleanupError CleanupReport))
    (report : CleanupReport) :
    (outcomes.foldl tell report).failures = report.failures ++ outcomes.filterMap failure? := by
  induction outcomes generalizing report with
  | nil => exact (List.append_nil _).symm
  | cons outcome rest inductionHypothesis =>
    rw [List.foldl_cons, inductionHypothesis]
    cases outcome with
    | ok done => rfl
    | error error => exact List.append_assoc _ _ _

theorem length_outcomes (threshold : Instant) (parts : List Part) (pipeline : Pipeline) :
    (cleaner.outcomes threshold parts pipeline).length = parts.length := by
  induction parts generalizing pipeline with
  | nil => rfl
  | cons part rest inductionHypothesis => exact congrArg (· + 1) (inductionHypothesis _)

/-- In two runs of a cleanup at one time, whatever fails in them: where the archive was the same,
the same is left of it, and the same rows are reported as deleted; what is left of a stream that
stands apart, and of its dead letters, is the same if they were the same and the same requests
naming them failed; and what is reported as failed are the failures of the parts, each once. -/
theorem failures_stay_apart (cleaner : Cleaner) {now threshold : Instant}
    (representable : cleaner.threshold? now = some threshold) (first second : Pipeline) :
    ∃ one two, cleaner.run? now first = some one ∧ cleaner.run? now second = some two ∧
      (first.archive = second.archive →
        one.2.archive = two.2.archive ∧ one.1.rowsDeleted = two.1.rowsDeleted) ∧
      (∀ stream ∈ cleaner.streams, cleaner.Apart stream → first.wall = second.wall →
        (∀ name, cleaner.Concerned stream name →
          first.service.store.content? name = second.service.store.content? name) →
        cleaner.fates threshold first.wall stream cleaner.parts first.service =
          cleaner.fates threshold second.wall stream cleaner.parts second.service →
        ∀ name, cleaner.Concerned stream name →
          one.2.service.store.content? name = two.2.service.store.content? name) ∧
      (cleaner.outcomes threshold cleaner.parts first).length = cleaner.parts.length ∧
      one.1.failures =
        (cleaner.outcomes threshold cleaner.parts first).filterMap failure? := by
  refine ⟨cleaner.runFor threshold first, cleaner.runFor threshold second, ?_, ?_, ?_, ?_, ?_, ?_⟩
  · rw [run?, representable, Option.map_some]
  · rw [run?, representable, Option.map_some]
  · intro same
    obtain ⟨firstArchive, firstRows⟩ := cleaner.archive_runFor threshold first
    obtain ⟨secondArchive, secondRows⟩ := cleaner.archive_runFor threshold second
    rw [firstArchive, firstRows, secondArchive, secondRows, same]
    exact ⟨rfl, rfl⟩
  · intro stream _ apart wall alike fates
    rw [← wall] at fates
    rw [runFor_eq, runFor_eq]
    exact cleaner.alike_runParts
      (fun part member => cleaner.names_of_apart apart member threshold first.wall) rfl wall.symm
      alike fates
  · exact cleaner.length_outcomes threshold cleaner.parts first
  · rw [runFor_eq, report_runParts, failures_foldl]
    exact List.nil_append _

end Cleaner

/-- A cleanup of two streams. -/
def paired : Cleaner :=
  ⟨[⟨"orders", "audit", "worker", 1⟩, ⟨"payments", "audit", "worker", 1⟩], {}⟩

/-- The calls that leave a stream with two old entries, the second of which is pending. -/
def agedCalls (stream : String) : List Streams.StoreCall :=
  [.append 5 stream [("type", "first")], .createGroup stream "audit",
    .append 6 stream [("type", "second")],
    .readGroup stream "audit" "worker-1" .lastConsumed 10]

/-- A pipeline with two such streams, a hundred days later. -/
def aged (outages : List (Outage Streams.StoreMethod Streams.StoreError)) : Pipeline where
  service := ⟨Streams.Store.empty.after (agedCalls "orders" ++ agedCalls "payments"), outages⟩
  archive := .empty .memory
  wall := ⟨8640000, 0⟩

/-- Neither copies nor deletions of one of the streams work. -/
def paymentsFail : List (Outage Streams.StoreMethod Streams.StoreError) :=
  [⟨.append, some "payments:dlq", .timeout "append", 0, none⟩,
    ⟨.delete, some "payments", .timeout "delete", 0, none⟩]

theorem apart_orders : paired.Apart "orders" := by
  intro other member different name own
  have listed : other ∈ ["orders", "payments"] := member
  rcases List.mem_pair.mp listed with rfl | rfl
  · exact absurd rfl different
  · rcases own with rfl | rfl <;> decide

/-- The other stream comes out as it does where nothing fails, and one failure is reported. -/
theorem orders_stay_apart :
    paired.threshold? ⟨8640000, 0⟩ = some ⟨3456000, 0⟩ ∧
      ∃ one two, paired.run? ⟨8640000, 0⟩ (aged paymentsFail) = some one ∧
        paired.run? ⟨8640000, 0⟩ (aged []) = some two ∧
        one.2.archive = two.2.archive ∧
        one.2.service.store.content? "orders" = two.2.service.store.content? "orders" ∧
        one.2.service.store.content? "orders:dlq" = two.2.service.store.content? "orders:dlq" ∧
        one.1.failures.length = 1 := by
  have representable : paired.threshold? ⟨8640000, 0⟩ = some ⟨3456000, 0⟩ := by decide
  obtain ⟨one, two, ran, calm, archive, streams, -, failures⟩ :=
    paired.failures_stay_apart representable (aged paymentsFail) (aged [])
  have alike := streams "orders" (by decide) apart_orders rfl (fun _ _ => rfl) (by decide)
  refine ⟨representable, one, two, ran, calm, (archive rfl).1, alike _ (Or.inl rfl),
    alike _ (Or.inr rfl), ?_⟩
  rw [failures]
  decide

end AccessFeed.Retention
