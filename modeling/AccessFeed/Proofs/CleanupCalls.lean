/-
This file says what a cleanup does to the stream store: it makes calls.

Whatever a cleanup does, it makes a few kinds of calls on the store, and only
those of them that no outage meets are made at all. What each of these calls
keeps of a stream is therefore kept up to every moment of a run. The part for
the consumer sets deletes nothing, and what it appends are dead letters.
-/

import AccessFeed.Proofs.Cleanups

namespace AccessFeed

namespace Streams

/-- What each call keeps of the stream it names is kept by a run of calls. -/
theorem Store.content?_after {holds : Option Content → Prop} {stream : String}
    {calls : List StoreCall}
    (kept : ∀ call ∈ calls, call.target? = some stream → ∀ held, holds held →
      holds (call.effect held))
    {store : Store} (start : holds (store.content? stream)) :
    holds ((store.after calls).content? stream) := by
  induction calls generalizing store with
  | nil => exact start
  | cons call rest inductionHypothesis =>
    refine inductionHypothesis (fun other member => kept other (List.mem_cons_of_mem _ member)) ?_
    rcases call.content?_perform store stream with same | ⟨_, named, told⟩
    · exact same ▸ start
    · exact told ▸ kept call List.mem_cons_self named _ start

/-- Whether a call neither deletes entries nor chooses the id of one. -/
def StoreCall.Gentle : StoreCall → Prop
  | .delete _ _ => False
  | .appendWithId _ _ _ => False
  | _ => True

/-- An entry that is there stays. -/
theorem StoreCall.mem_ids_effect {call : StoreCall} (gentle : call.Gentle) {held : Option Content}
    {id : StreamId} (present : id ∈ (held.getD .empty).entries.ids) :
    id ∈ ((call.effect held).getD .empty).entries.ids := by
  cases call with
  | append now stream fields => exact IdMap.mem_ids_insert.mpr (Or.inr present)
  | createGroup stream group =>
    cases held with
    | none => exact present
    | some content =>
      rw [effect, Option.map_some]
      split <;> exact present
  | readGroup stream group consumer offset count =>
    cases held with
    | none => exact present
    | some content => exact (Store.entries_changeGroup content group _).symm ▸ present
  | acknowledge stream group ids =>
    cases held with
    | none => exact present
    | some content => exact (Store.entries_changeGroup content group _).symm ▸ present
  | hasStream | groupNames | pending | range | cluster | inject | clear | setClusterState =>
    exact present
  | delete | appendWithId => exact gentle.elim

end Streams

open Streams (Content PendingEntry Record Store StoreCall StoreError StoreMethod StreamId)

/-! ### Runs of calls -/

/-- Whether calls of some kind on the store lead from one moment to another, and no outage comes up
meanwhile. -/
structure Leads (allowed : StoreCall → Prop) (before after : Pipeline) : Prop where
  calls : ∃ calls, (∀ call ∈ calls, allowed call) ∧
    after.service.store = before.service.store.after calls
  outages : before.service.outages = [] → after.service.outages = []

namespace Leads

variable {allowed : StoreCall → Prop} {first second third : Pipeline}

theorem of_service (same : second.service = first.service) : Leads allowed first second where
  calls := ⟨[], fun _ member => absurd member List.not_mem_nil, congrArg _ same⟩
  outages := fun none => same ▸ none

theorem trans (left : Leads allowed first second) (right : Leads allowed second third) :
    Leads allowed first third where
  calls := by
    obtain ⟨calls, allowedCalls, made⟩ := left.calls
    obtain ⟨more, allowedMore, madeMore⟩ := right.calls
    refine ⟨calls ++ more, fun call member => ?_, ?_⟩
    · exact (List.mem_append.mp member).elim (allowedCalls call) (allowedMore call)
    · rw [madeMore, made, Store.after_append]
  outages := fun none => right.outages (left.outages none)

theorem mono {more : StoreCall → Prop} (leads : Leads allowed first second)
    (subset : ∀ call, allowed call → more call) : Leads more first second where
  calls := by
    obtain ⟨calls, allowedCalls, made⟩ := leads.calls
    exact ⟨calls, fun call member => subset call (allowedCalls call member), made⟩
  outages := leads.outages

/-- A request that comes to a call on the store. -/
theorem of_ask {Value : Type} (call : StoreCall) (mayCall : allowed call) {method : StoreMethod}
    {target : Option String} {operation : Store → Streams.Answer Value}
    {answer : Except StoreError Value}
    (asked : first.ask (fun service => service.call method target operation) = (answer, second))
    (same : ∀ store, (operation store).2 = (call.perform store).2) :
    Leads allowed first second := by
  obtain ⟨-, rfl⟩ := Pipeline.of_ask asked
  refine ⟨?_, fun none => ?_⟩
  · rcases first.service.call_cases method target operation with ⟨_, _, store⟩ | ⟨_, store⟩
    · exact ⟨[], fun _ member => absurd member List.not_mem_nil, store⟩
    · refine ⟨[call], fun other member => List.mem_singleton.mp member ▸ mayCall, ?_⟩
      exact store.trans (same first.service.store)
  · show (first.service.call method target operation).2.outages = []
    rw [Streams.Service.call, none, Outage.meet_nil]

/-- A step that leaves the service as a call does. -/
theorem of_call {Value : Type} {method : StoreMethod} {target : Option String}
    {operation : Store → Streams.Answer Value} (call : StoreCall) (mayCall : allowed call)
    (left : second.service = (first.service.call method target operation).2)
    (same : ∀ store, (operation store).2 = (call.perform store).2) :
    Leads allowed first second :=
  (of_ask call mayCall (show first.ask (fun service => service.call method target operation) =
    (_, _) from rfl) same).trans (of_service left)

/-- What the calls keep of a stream is kept. -/
theorem holds (leads : Leads allowed first second) (holds : Option Content → Prop)
    {stream : String}
    (kept : ∀ call, allowed call → call.target? = some stream → ∀ held, holds held →
      holds (call.effect held))
    (start : holds (first.service.store.content? stream)) :
    holds (second.service.store.content? stream) := by
  obtain ⟨calls, allowedCalls, made⟩ := leads.calls
  rw [made]
  exact Store.content?_after (fun call member => kept call (allowedCalls call member)) start

end Leads

namespace Retention

open Calendar (Instant)
open Settings (ConsumerSet)

namespace Cleaner

/-! ### Calls of a cleanup -/

/-- The calls of the part of a cleanup for the consumer sets. -/
inductive CopyCall (cleaner : Cleaner) : StoreCall → Prop
  | range (stream : String) (start stop : StreamId) (count : Nat) :
    CopyCall cleaner (.range stream start stop count)
  | pending (stream group : String) (count : Nat) :
    CopyCall cleaner (.pending stream group count)
  | acknowledge (stream group : String) (ids : List StreamId) :
    CopyCall cleaner (.acknowledge stream group ids)
  | append {set : ConsumerSet} (member : set ∈ cleaner.consumers)
    (enabled : cleaner.settings.deadLetterEnabled = true) (now : UInt64)
    (fields : List (String × String)) :
    CopyCall cleaner (.append now (cleaner.settings.deadLetterStream set.stream) fields)

/-- The calls of a cleanup. -/
inductive CleanupCall (cleaner : Cleaner) : StoreCall → Prop
  | copy {call : StoreCall} (copies : cleaner.CopyCall call) : CleanupCall cleaner call
  | delete (stream : String) (ids : List StreamId) : CleanupCall cleaner (.delete stream ids)

variable {cleaner : Cleaner}

/-- Nothing is deleted for the consumer sets. -/
theorem CopyCall.gentle {call : StoreCall} (copies : cleaner.CopyCall call) : call.Gentle := by
  cases copies <;> trivial

theorem leads_forceAcknowledge (stream group : String) (ids : List StreamId)
    (pipeline : Pipeline) :
    Leads cleaner.CopyCall pipeline
      (forceAcknowledge stream group ids pipeline).2 := by
  rw [forceAcknowledge]
  split
  · exact Leads.of_service rfl
  · generalize asked : pipeline.ask (fun service =>
      service.acknowledge stream group ids) = answer
    obtain ⟨answer, after⟩ := answer
    exact Leads.of_ask (.acknowledge ..) (CopyCall.acknowledge ..) asked fun _ => rfl

section

variable {set : ConsumerSet} (member : set ∈ cleaner.consumers)
include member

theorem leads_deadLetter (enabled : cleaner.settings.deadLetterEnabled = true)
    (entry : PendingEntry) (pipeline : Pipeline) :
    Leads cleaner.CopyCall pipeline
      (cleaner.deadLetter set.stream set.group entry pipeline).2 := by
  rw [deadLetter]
  generalize asked : pipeline.ask (fun service =>
    service.range set.stream entry.id entry.id 1) = read
  obtain ⟨answer, reached⟩ := read
  have looked : Leads cleaner.CopyCall pipeline reached :=
    Leads.of_ask (.range ..) (CopyCall.range ..) asked fun _ => rfl
  cases answer with
  | error error => exact looked
  | ok records =>
    cases records with
    | nil => exact looked
    | cons record rest =>
      dsimp only
      generalize appended : reached.ask (fun service =>
        service.append reached.wallMillis (cleaner.settings.deadLetterStream set.stream)
          (deadLetterFields record set.group entry reached.wall)) = made
      obtain ⟨answer, after⟩ := made
      have added := looked.trans
        (Leads.of_ask (.append ..) (CopyCall.append member enabled ..) appended (fun _ => rfl))
      cases answer <;> exact added

theorem leads_deadLetterAll (enabled : cleaner.settings.deadLetterEnabled = true)
    (entries : List PendingEntry) (pipeline : Pipeline) :
    Leads cleaner.CopyCall pipeline
      (cleaner.deadLetterAll set.stream set.group entries pipeline).2 := by
  induction entries generalizing pipeline with
  | nil => exact Leads.of_service rfl
  | cons entry rest inductionHypothesis =>
    have one := leads_deadLetter member enabled entry pipeline
    rw [deadLetterAll]
    generalize cleaner.deadLetter set.stream set.group entry pipeline = answer at one ⊢
    obtain ⟨answer, after⟩ := answer
    cases answer with
    | error error =>
      have warned : Leads cleaner.CopyCall after
          (after.warn "Dead-letter copy failed, leaving entry pending") := Leads.of_service rfl
      exact (one.trans warned).trans (inductionHypothesis _)
    | ok copied => exact one.trans (inductionHypothesis _)

theorem leads_release (entries : List PendingEntry) (pipeline : Pipeline) :
    Leads cleaner.CopyCall pipeline
      (cleaner.release set.stream set.group entries pipeline).2 := by
  rw [release]
  split
  · rename_i enabled
    exact leads_deadLetterAll member enabled entries pipeline
  · exact Leads.of_service rfl

theorem leads_acknowledgePending (pipeline : Pipeline) :
    Leads cleaner.CopyCall pipeline (cleaner.acknowledgePending set pipeline).2 := by
  rw [acknowledgePending]
  split
  · dsimp only
    generalize asked : pipeline.ask (fun service =>
      service.pending set.stream set.group cleaner.settings.pendingBatch) = read
    obtain ⟨answer, reached⟩ := read
    have looked : Leads cleaner.CopyCall pipeline reached :=
      Leads.of_ask (.pending ..) (CopyCall.pending ..) asked fun _ => rfl
    cases answer with
    | error error => exact looked
    | ok entries =>
      cases entries with
      | nil => exact looked
      | cons entry rest =>
        dsimp only
        have copied := looked.trans (leads_release member (entry :: rest) reached)
        generalize cleaner.release set.stream set.group (entry :: rest) reached = released
          at copied ⊢
        obtain ⟨⟨ids, copies⟩, after⟩ := released
        dsimp only
        have cleared := copied.trans (leads_forceAcknowledge set.stream set.group ids after)
        generalize forceAcknowledge set.stream set.group ids after = forced at cleared ⊢
        obtain ⟨answer, ended⟩ := forced
        cases answer with
        | error error => exact cleared
        | ok acknowledged => exact cleared.trans (Leads.of_service rfl)
  · exact Leads.of_service rfl

end

/-- Writing the report makes no call. -/
theorem leads_settle {Value : Type} {allowed : StoreCall → Prop} (message : String)
    (merge : CleanupReport → Value → CleanupReport) (report : CleanupReport) {pipeline : Pipeline}
    {answer : Except CleanupError Value × Pipeline} (leads : Leads allowed pipeline answer.2) :
    Leads allowed pipeline (settle message merge report answer).2 := by
  obtain ⟨answer, after⟩ := answer
  cases answer with
  | error error => exact leads.trans (Leads.of_service rfl)
  | ok value => exact leads

theorem leads_runPending {sets : List ConsumerSet} (subset : ∀ set ∈ sets, set ∈ cleaner.consumers)
    (state : CleanupReport × Pipeline) :
    Leads cleaner.CopyCall state.2 (cleaner.runPending sets state).2 := by
  induction sets generalizing state with
  | nil => exact Leads.of_service rfl
  | cons set rest inductionHypothesis =>
    have one := leads_acknowledgePending (subset set List.mem_cons_self) state.2
    exact (leads_settle _ _ state.1 one).trans
      (inductionHypothesis (fun other member => subset other (List.mem_cons_of_mem _ member)) _)

theorem leads_deleteUpTo (spared : Nat) (stream : String) (cutoff : StreamId)
    (pipeline : Pipeline) :
    Leads cleaner.CleanupCall pipeline (cleaner.deleteUpTo spared stream cutoff pipeline).2 := by
  rw [deleteUpTo]
  dsimp only
  generalize asked : pipeline.ask (fun service =>
    service.range stream .least cutoff cleaner.settings.deleteBatch) = read
  obtain ⟨answer, reached⟩ := read
  have looked : Leads cleaner.CleanupCall pipeline reached :=
    Leads.of_ask (.range ..) (CleanupCall.copy (CopyCall.range ..)) asked fun _ => rfl
  cases answer with
  | error error => exact looked
  | ok records =>
    dsimp only
    split
    · exact looked
    · rw [deleteEntries]
      generalize deleted : reached.ask (fun service =>
        service.delete stream ((records.drop spared).map Record.id)) = answer
      obtain ⟨answer, left⟩ := answer
      have gone := looked.trans
        (Leads.of_ask (.delete ..) (CleanupCall.delete ..) deleted (fun _ => rfl))
      cases answer with
      | error error => exact gone
      | ok count => exact gone.trans (Leads.of_service rfl)

theorem leads_runExpired (threshold : Instant) (names : List String)
    (state : CleanupReport × Pipeline) :
    Leads cleaner.CleanupCall state.2 (cleaner.runExpired threshold names state).2 := by
  induction names generalizing state with
  | nil => exact Leads.of_service rfl
  | cons name rest inductionHypothesis =>
    exact (leads_settle _ _ state.1 (leads_deleteUpTo 1 name (.cutoff threshold) state.2)).trans
      (inductionHypothesis _)

theorem leads_runDeadLetters (threshold : Instant) (names : List String)
    (state : CleanupReport × Pipeline) :
    Leads cleaner.CleanupCall state.2 (cleaner.runDeadLetters threshold names state).2 := by
  induction names generalizing state with
  | nil => exact Leads.of_service rfl
  | cons name rest inductionHypothesis =>
    exact (leads_settle _ _ state.1 (leads_deleteUpTo 0 _ (.cutoff threshold) state.2)).trans
      (inductionHypothesis _)

theorem leads_afterSets (cleaner : Cleaner) (pipeline : Pipeline) :
    Leads cleaner.CopyCall pipeline (cleaner.afterSets pipeline cleaner.consumers) :=
  leads_runPending (fun _ member => member) ({}, pipeline)

theorem leads_afterStreams (cleaner : Cleaner) (threshold : Instant) (pipeline : Pipeline)
    (done : List String) :
    Leads cleaner.CleanupCall pipeline (cleaner.afterStreams threshold pipeline done) :=
  ((leads_afterSets cleaner pipeline).mono fun _ => CleanupCall.copy).trans (leads_runExpired _ _ _)

theorem leads_afterLetters (cleaner : Cleaner) (threshold : Instant) (pipeline : Pipeline)
    (done : List String) :
    Leads cleaner.CleanupCall pipeline (cleaner.afterLetters threshold pipeline done) :=
  (leads_afterStreams cleaner threshold pipeline cleaner.streams).trans (leads_runDeadLetters _ _ _)

/-- A run of a cleanup makes calls. -/
theorem leads_run {pipeline ended : Pipeline} {now : Instant} {report : CleanupReport}
    (ran : cleaner.run? now pipeline = some (report, ended)) :
    Leads cleaner.CleanupCall pipeline ended := by
  obtain ⟨threshold, -, done⟩ := Option.map_eq_some_iff.mp ran
  have purged (state : CleanupReport × Pipeline) :
      Leads cleaner.CleanupCall state.2 (runPurge threshold state).2 := by
    refine leads_settle _ _ state.1 ?_
    rw [purge]
    split <;>
      rename_i answered <;>
      exact Leads.of_service (congrArg (fun answer => answer.2.service) answered).symm
  obtain rfl := congrArg Prod.snd done
  rw [runFor]
  refine .trans ?_ (purged _)
  split
  · exact cleaner.leads_afterLetters threshold pipeline cleaner.streams
  · exact cleaner.leads_afterStreams threshold pipeline cleaner.streams

/-- No call of a cleanup injects a failure. -/
theorem failure_perform {call : StoreCall} (made : cleaner.CleanupCall call) (store : Store) :
    (call.perform store).2.failure = store.failure := by
  cases made with
  | copy copies =>
    cases copies with
    | range | pending | acknowledge | append =>
      exact StoreCall.failure_perform store (fun _ => by simp) (by simp)
  | delete => exact StoreCall.failure_perform store (fun _ => by simp) (by simp)

theorem failure_after {calls : List StoreCall} (made : ∀ call ∈ calls, cleaner.CleanupCall call)
    (store : Store) : (store.after calls).failure = store.failure := by
  induction calls generalizing store with
  | nil => rfl
  | cons call rest inductionHypothesis =>
    have later := inductionHypothesis
      (fun other member => made other (List.mem_cons_of_mem _ member)) (call.perform store).2
    exact later.trans (failure_perform (made call List.mem_cons_self) store)

theorem working_of_leads {before after : Pipeline}
    (leads : Leads cleaner.CleanupCall before after) (working : before.service.Working) :
    after.service.Working := by
  obtain ⟨calls, allowed, made⟩ := leads.calls
  refine ⟨leads.outages working.1, ?_⟩
  rw [made, failure_after allowed]
  exact working.2

end Cleaner

end Retention

end AccessFeed
