/-
This file proves that a cleanup reports what it did.

Every number of a report is what the requests of the run come to: the pending ids
they took off the lists of their groups, the entries they took out of the streams
and out of the dead-letter streams. The dead letters told are those appended in
the turns of the consumer sets whose acknowledgement did not fail. The rows told
are those that are gone from the archive, unless its call failed; it may fail with
the rows gone, when the deletion cannot be written out. A report is clean exactly
if nothing failed but the copying of pending entries, which is logged and leaves
the entry pending.
-/

import Mathlib.Algebra.Order.BigOperators.Group.List
import AccessFeed.Proofs.EventMaps
import AccessFeed.Proofs.Isolation
import AccessFeed.Proofs.Tallies

namespace AccessFeed

open Calendar (Instant)

/-! ### Rows -/

/-- A removal answers how many rows fewer there are. -/
theorem Archive.EventRows.Keyed.count_removeBefore {rows : Archive.EventRows}
    (keyed : rows.Keyed) (threshold : Instant) :
    (rows.removeBefore threshold).1 + (rows.removeBefore threshold).2.count = rows.count := by
  obtain ⟨removed, left⟩ := keyed.removeBefore_eq threshold
  rw [removed, count_eq, count_eq, left, Nat.add_comm]
  exact (List.length_eq_length_filter_add
    fun row : String × Archive.KeptEvent => row.2.isKeptAfter threshold).symm

/-- A deletion answers how many rows fewer there are, or it fails, and then no row is gone or those
are that it was to remove. -/
theorem Archive.deleteBefore_cases (archive : Archive) (threshold : Instant) :
    (archive.deleteBefore threshold).1 = .ok (archive.events.removeBefore threshold).1 ∧
        (archive.deleteBefore threshold).2.events = (archive.events.removeBefore threshold).2 ∨
      (∃ failure, (archive.deleteBefore threshold).1 = .error failure) ∧
        ((archive.deleteBefore threshold).2.events = archive.events ∨
          (archive.deleteBefore threshold).2.events =
            (archive.events.removeBefore threshold).2) := by
  rw [deleteBefore]
  obtain ⟨outages, ⟨failure, refused⟩ | made⟩ := archive.call_cases .deleteBefore fun archive =>
    { archive with events := (archive.events.removeBefore threshold).2 }.flush .deleteBefore true
      (archive.events.removeBefore threshold).1
  · exact Or.inr ⟨⟨failure, congrArg Prod.fst refused⟩,
      Or.inl (congrArg (fun answer => answer.2.events) refused)⟩
  · obtain ⟨flushes, written | ⟨failure, written⟩⟩ := Archive.flush_cases
      { archive with outages, events := (archive.events.removeBefore threshold).2 } .deleteBefore
        true (archive.events.removeBefore threshold).1
    · exact Or.inl ⟨congrArg Prod.fst (made.trans written),
        congrArg (fun answer => answer.2.events) (made.trans written)⟩
    · exact Or.inr ⟨⟨failure, congrArg Prod.fst (made.trans written)⟩,
        Or.inr (congrArg (fun answer => answer.2.events) (made.trans written))⟩

namespace Retention

open Settings (ConsumerSet)
open Streams (Attempt Errand PendingEntry Request Service StreamId)

/-- Whether a request is one by which pending entries are copied. -/
def Part.copies : Part → Request → Bool
  | .pending _, .range _ _ _ _ => true
  | .pending _, .append _ _ _ => true
  | _, _ => false

/-- Counts a request of a part that failed, unless it was to copy a pending entry. -/
def Part.flaws (part : Part) (attempt : Attempt) : Nat :=
  if attempt.failed && !part.copies attempt.request then 1 else 0

/-- The dead letters that the requests of a turn are told as: those they appended to some streams,
unless an acknowledgement among them failed. -/
def toldLetters (streams : List String) (turn : List Attempt) : Nat :=
  if turn.any fun attempt => attempt.failed && attempt.request.acknowledges then 0
  else (turn.map (Attempt.appended streams)).sum

theorem Part.flaws_of_copies {part : Part} {attempt : Attempt}
    (copies : part.copies attempt.request = true) : part.flaws attempt = 0 := by
  rw [flaws, copies, Bool.not_true, Bool.and_false]
  rfl

namespace Cleaner

variable (cleaner : Cleaner)

/-- The dead-letter streams. -/
def letterStreams : List String :=
  cleaner.streams.map cleaner.settings.deadLetterStream

/-! ### Pending entries -/

variable {measure : Attempt → Nat} {wall : Instant} {service : Service} {stream group : String}

theorem appended_copying {streams : List String}
    (among : cleaner.settings.deadLetterStream stream ∈ streams) (entry : PendingEntry) :
    (cleaner.copying wall stream group entry).total (Attempt.appended streams) service =
      if ((cleaner.copying wall stream group entry).run service).1 = some true then 1 else 0 := by
  rw [copying, Errand.total_ask, Errand.run]
  have listing : ∀ service, ((Request.range stream entry.id entry.id 1).attempt service).appended
      streams = 0 := fun _ => rfl
  rw [listing, Nat.zero_add]
  generalize (Request.range stream entry.id entry.id 1).make service = made
  obtain ⟨answer, reached⟩ := made
  cases answer.toOption with
  | none => rfl
  | some records =>
    cases records with
    | nil => rfl
    | cons record rest =>
      dsimp only
      rw [Errand.total_ask, Errand.total_done, Errand.run, Errand.run,
        Request.appended_append _ among]
      cases (Request.make reached (.append _ _ _)).1.toOption <;> rfl

/-- Releasing pending entries answers how many dead letters it appended. -/
theorem appended_releasing {streams : List String}
    (among : cleaner.settings.deadLetterStream stream ∈ streams) (entries : List PendingEntry) :
    (cleaner.releasing wall stream group entries).total (Attempt.appended streams) service =
      ((cleaner.releasing wall stream group entries).run service).1.2 := by
  rw [releasing]
  split
  · induction entries generalizing service with
    | nil => rfl
    | cons entry rest inductionHypothesis =>
      rw [copyingAll, Errand.total_bind, Errand.run_bind, cleaner.appended_copying among]
      generalize (cleaner.copying wall stream group entry).run service = copied
      obtain ⟨copied, reached⟩ := copied
      cases copied with
      | none => exact (Nat.zero_add _).trans inductionHypothesis
      | some copied =>
        dsimp only
        rw [Errand.total_map, Errand.run_map, inductionHypothesis]
        cases copied <;> rfl
  · rfl

/-- Acknowledging answers how many pending ids it took off their list. -/
theorem released_acknowledging (stream group : String) (ids : List StreamId) (service : Service) :
    (acknowledging stream group ids).total (fun attempt => attempt.released.ncard) service =
      ((acknowledging stream group ids).run service).1.getD 0 := by
  rw [acknowledging]
  split
  · rfl
  · rw [Errand.total_ask, Errand.total_done, Errand.run, Errand.run]
    exact Request.released_acknowledge service stream group ids

theorem acknowledging_cases (stream group : String) (ids : List StreamId) (service : Service) :
    ((acknowledging stream group ids).trail service = [] ∧
        ((acknowledging stream group ids).run service).1 = some 0) ∨
      (acknowledging stream group ids).trail service =
          [(Request.acknowledge stream group ids).attempt service] ∧
        ((Request.acknowledge stream group ids).attempt service).failed =
          ((acknowledging stream group ids).run service).1.isNone := by
  rw [acknowledging]
  split
  · exact Or.inl ⟨rfl, rfl⟩
  · exact Or.inr ⟨rfl, rfl⟩

/-- The request that lists the pending entries of a consumer set. -/
def listing (set : ConsumerSet) : Request :=
  .pending set.stream set.group cleaner.settings.pendingBatch

/-- A treatment of pending entries comes to what its requests do, by a measure under which a listing
that works counts nothing, if this is so of the copying and acknowledging. -/
theorem total_treating {set : ConsumerSet} (share : Option PendingCleanup → Nat)
    (idle : share (some {}) = 0)
    (listed : measure ((cleaner.listing set).attempt service) =
      if ((cleaner.listing set).attempt service).failed then share none else 0)
    (treated : ∀ entries reached ids copies left,
      (cleaner.releasing wall set.stream set.group entries).run reached = ((ids, copies), left) →
      (∀ attempt ∈ (acknowledging set.stream set.group ids).trail left,
        attempt ∈ (cleaner.treating wall set).trail service) →
      (cleaner.releasing wall set.stream set.group entries).total measure reached +
          (acknowledging set.stream set.group ids).total measure left =
        share (((acknowledging set.stream set.group ids).run left).1.map fun number =>
          { acknowledged := number, deadLettered := copies })) :
    (cleaner.treating wall set).total measure service =
      share ((cleaner.treating wall set).run service).1 := by
  rw [treating] at treated ⊢
  split at treated
  · rename_i enabled
    rw [if_pos enabled]
    refine Errand.total_ask_eq share rfl listed fun entries answered => ?_
    rw [Errand.trail, answered] at treated
    cases entries with
    | nil => exact idle.symm
    | cons entry rest =>
      dsimp only at treated ⊢
      generalize (Request.make service _).2 = reached at treated ⊢
      generalize released : (cleaner.releasing wall set.stream set.group (entry :: rest)).run
        reached = answer
      obtain ⟨⟨ids, copies⟩, left⟩ := answer
      rw [Errand.total_bind, Errand.run_bind, released, Errand.total_map, Errand.run_map]
      refine treated (entry :: rest) reached ids copies left released fun attempt member => ?_
      rw [Errand.trail_bind, released, Errand.trail_map]
      exact List.mem_cons_of_mem _ (List.mem_append_right _ member)
  · rename_i disabled
    rw [if_neg disabled]
    exact idle.symm

/-- The treatment of pending entries tells how many it took off their lists. -/
theorem released_treating (wall : Instant) (set : ConsumerSet) (service : Service) :
    (cleaner.treating wall set).total (fun attempt => attempt.released.ncard) service =
      (((cleaner.treating wall set).run service).1.map PendingCleanup.acknowledged).getD 0 := by
  refine cleaner.total_treating
    (fun done => (done.map PendingCleanup.acknowledged).getD 0) rfl ?_ ?_
  · rw [Request.released_of_other]
    · split <;> rfl
    · rfl
  · intro entries reached ids copies left _ _
    have copying : (cleaner.releasing wall set.stream set.group entries).total
        (fun attempt => attempt.released.ncard) reached = 0 :=
      (cleaner.makes_releasing (fun _ _ => Request.released_of_other rfl)
        (fun _ _ _ => Request.released_of_other rfl) wall set.group entries).total_eq_zero
    rw [copying, released_acknowledging, Nat.zero_add]
    cases ((acknowledging set.stream set.group ids).run left).1 <;> rfl

/-- The treatment of pending entries comes to nothing exactly if something fails in it but the
copying, and then one thing does. -/
theorem flaws_treating (wall : Instant) (set : ConsumerSet) (service : Service) :
    (cleaner.treating wall set).total (Part.pending set).flaws service =
      if ((cleaner.treating wall set).run service).1.isNone then 1 else 0 := by
  refine cleaner.total_treating (fun done => if done.isNone then 1 else 0) rfl ?_ ?_
  · show (if _ && true then _ else _) = _
    rw [Bool.and_true]
    rfl
  · intro entries reached ids copies left _ _
    have copying : (cleaner.releasing wall set.stream set.group entries).total
        (Part.pending set).flaws reached = 0 :=
      (cleaner.makes_releasing (fun _ _ => Part.flaws_of_copies rfl)
        (fun _ _ _ => Part.flaws_of_copies rfl) wall set.group entries).total_eq_zero
    rw [copying, Nat.zero_add, Errand.total]
    rcases acknowledging_cases set.stream set.group ids left with ⟨none, value⟩ | ⟨once, value⟩
    · rw [none, value]
      rfl
    · rw [once]
      show (if _ && true then 1 else 0) + 0 = _
      rw [value, Bool.and_true]
      cases ((acknowledging set.stream set.group ids).run left).1 <;> rfl

/-- The treatment of pending entries tells how many dead letters it appended, unless an
acknowledgement failed. -/
theorem appended_treating {streams : List String} {set : ConsumerSet}
    (among : cleaner.settings.deadLetterStream set.stream ∈ streams)
    (fine : ∀ attempt ∈ (cleaner.treating wall set).trail service, attempt.failed = true →
      attempt.request.acknowledges = false) :
    (cleaner.treating wall set).total (Attempt.appended streams) service =
      (((cleaner.treating wall set).run service).1.map PendingCleanup.deadLettered).getD 0 := by
  refine cleaner.total_treating
    (fun done => (done.map PendingCleanup.deadLettered).getD 0) rfl ?_ ?_
  · split <;> rfl
  · intro entries reached ids copies left released inside
    rw [cleaner.appended_releasing among, released]
    rcases acknowledging_cases set.stream set.group ids left with ⟨none, value⟩ | ⟨once, value⟩
    · rw [Errand.total, none, value]
      rfl
    · rw [once] at inside
      have member := inside _ (List.mem_singleton_self _)
      cases acknowledged : ((acknowledging set.stream set.group ids).run left).1 with
      | none =>
        -- Here the copies are made and not told, so that the failure has to be excluded.
        rw [acknowledged] at value
        cases fine _ member value
      | some number =>
        rw [Errand.total, once]
        rfl

/-- The treatment of pending entries tells the dead letters that its requests are told as. -/
theorem letters_treating {streams : List String} {set : ConsumerSet}
    (among : cleaner.settings.deadLetterStream set.stream ∈ streams) (wall : Instant)
    (service : Service) :
    toldLetters streams ((cleaner.treating wall set).trail service) =
      (((cleaner.treating wall set).run service).1.map PendingCleanup.deadLettered).getD 0 := by
  rw [toldLetters]
  split
  · rename_i lost
    obtain ⟨attempt, member, both⟩ := List.any_eq_true.mp lost
    obtain ⟨failed, acknowledges⟩ := Bool.and_eq_true_iff.mp both
    -- An acknowledgement that failed is a flaw, and then the treatment answers nothing.
    have flaw : (Part.pending set).flaws attempt = 1 := by
      rw [Part.flaws, failed]
      cases request : attempt.request with
      | acknowledge => rfl
      | append | range | pending | delete => rw [request] at acknowledges; cases acknowledges
    have among : (Part.pending set).flaws attempt ∈
        ((cleaner.treating wall set).trail service).map (Part.pending set).flaws :=
      List.mem_map_of_mem member
    have counted := List.single_le_sum (fun _ _ => Nat.zero_le _) _ among
    rw [flaw, ← Errand.total, flaws_treating] at counted
    cases value : ((cleaner.treating wall set).run service).1 with
    | none => rfl
    | some done =>
      rw [value] at counted
      exact absurd counted (by simp)
  · rename_i fine
    refine cleaner.appended_treating among fun attempt member failed => ?_
    cases acknowledges : attempt.request.acknowledges with
    | false => rfl
    | true => exact absurd (List.any_eq_true.mpr ⟨attempt, member, by
        rw [failed, acknowledges]; rfl⟩) fine

/-! ### Expired entries -/

/-- The request that lists the entries of a stream up to a cutoff. -/
def expiring (stream : String) (cutoff : StreamId) : Request :=
  .range stream .least cutoff cleaner.settings.deleteBatch

/-- A deletion of old entries comes to what its requests do, by a measure under which a reading that
works counts nothing, if this is so of the deletion itself. -/
theorem total_deleting {spared : Nat} {cutoff : StreamId} (share : Option Nat → Nat)
    (idle : share (some 0) = 0)
    (listed : measure ((cleaner.expiring stream cutoff).attempt service) =
      if ((cleaner.expiring stream cutoff).attempt service).failed then share none else 0)
    (deleted : ∀ ids reached, measure ((Request.delete stream ids).attempt reached) =
      share ((Request.delete stream ids).make reached).1.toOption) :
    (cleaner.deleting spared stream cutoff).total measure service =
      share ((cleaner.deleting spared stream cutoff).run service).1 := by
  refine Errand.total_ask_eq share rfl listed fun records _ => ?_
  dsimp only
  split
  · exact idle.symm
  · rw [Errand.total_ask, Errand.total_done, Errand.run, Errand.run, deleted]
    rfl

/-- A deletion of old entries tells how many it took out of their stream. -/
theorem removed_deleting {streams : List String} (among : stream ∈ streams) (spared : Nat)
    (cutoff : StreamId) (service : Service) :
    (cleaner.deleting spared stream cutoff).total
        (fun attempt => (attempt.removed streams).ncard) service =
      ((cleaner.deleting spared stream cutoff).run service).1.getD 0 := by
  refine cleaner.total_deleting (·.getD 0) rfl ?_ fun ids reached =>
    Request.removed_delete reached among ids
  rw [Request.removed_of_other streams]
  · split <;> rfl
  · rfl

theorem flaws_deleting {part : Part} (none : ∀ request, part.copies request = false)
    (spared : Nat) (stream : String) (cutoff : StreamId) (service : Service) :
    (cleaner.deleting spared stream cutoff).total part.flaws service =
      if ((cleaner.deleting spared stream cutoff).run service).1.isNone then 1 else 0 := by
  have told (request : Request) (service : Service) : part.flaws (request.attempt service) =
      if (request.attempt service).failed then 1 else 0 := by
    rw [Part.flaws, none, Bool.not_false, Bool.and_true]
  exact cleaner.total_deleting (fun deleted => if deleted.isNone then 1 else 0) rfl
    (told _ service) fun ids reached => told _ reached

/-! ### Parts -/

variable {threshold : Instant}

/-- What an errand comes to, as a report. -/
theorem total_reported {Value : Type} {errand : Errand (Option Value)}
    {done : Value → CleanupReport} (field : CleanupReport → Nat)
    (told : errand.total measure service =
      ((errand.run service).1.map fun value => field (done value)).getD 0) :
    (errand.map (Option.map done)).total measure service =
      (((errand.map (Option.map done)).run service).1.map field).getD 0 := by
  rw [Errand.total_map, Errand.run_map, told, Option.map_map]
  rfl

/-- An errand that counts nothing, as a report that tells nothing. -/
theorem total_unreported {Value : Type} {errand : Errand (Option Value)}
    {done : Value → CleanupReport} {field : CleanupReport → Nat}
    (none : errand.total measure service = 0) (untold : ∀ value, field (done value) = 0) :
    (errand.map (Option.map done)).total measure service =
      (((errand.map (Option.map done)).run service).1.map field).getD 0 := by
  refine total_reported field (none.trans ?_)
  cases (errand.run service).1 with
  | none => rfl
  | some value => exact (untold value).symm

/-- A part tells how many pending ids it took off their lists. -/
theorem released_errand (threshold wall : Instant) (part : Part) (service : Service) :
    (cleaner.errand threshold wall part).total (fun attempt => attempt.released.ncard) service =
      (((cleaner.errand threshold wall part).run service).1.map
        CleanupReport.pendingAcknowledged).getD 0 := by
  have deleting (spared : Nat) (stream : String) (cutoff : StreamId) :
      (cleaner.deleting spared stream cutoff).total (fun attempt => attempt.released.ncard)
        service = 0 :=
    (cleaner.makes_deleting (fun _ => Request.released_of_other rfl)
      (fun _ _ => Request.released_of_other rfl) spared).total_eq_zero
  cases part with
  | pending set => exact total_reported _ (cleaner.released_treating wall set service)
  | expired stream => exact total_unreported (deleting _ _ _) fun _ => rfl
  | letters stream => exact total_unreported (deleting _ _ _) fun _ => rfl
  | purge => rfl

/-- A part tells the dead letters that its requests are told as. -/
theorem letters_errand (threshold wall : Instant) {part : Part}
    (member : part ∈ cleaner.streamParts) (service : Service) :
    toldLetters cleaner.letterStreams ((cleaner.errand threshold wall part).trail service) =
      (((cleaner.errand threshold wall part).run service).1.map
        CleanupReport.deadLettered).getD 0 := by
  have deleting (spared : Nat) (stream : String) (cutoff : StreamId) (done : Nat → CleanupReport)
      (none : ∀ number, (done number).deadLettered = 0) :
      toldLetters cleaner.letterStreams
          (((cleaner.deleting spared stream cutoff).map (Option.map done)).trail service) =
        ((((cleaner.deleting spared stream cutoff).map (Option.map done)).run service).1.map
          CleanupReport.deadLettered).getD 0 := by
    have total : ((cleaner.deleting spared stream cutoff).map (Option.map done)).total
        (Attempt.appended cleaner.letterStreams) service = _ :=
      total_unreported (cleaner.makes_deleting (fun _ => rfl) (fun _ _ => rfl) spared).total_eq_zero
        none
    rw [← total, toldLetters, Errand.total, if_neg]
    intro lost
    obtain ⟨attempt, member, both⟩ := List.any_eq_true.mp lost
    have makes : (cleaner.deleting spared stream cutoff).Makes fun request =>
        request.acknowledges = false := by
      refine cleaner.makes_deleting ?_ (fun _ => ?_) spared <;> rfl
    rw [(makes.map _).mem_trail member, Bool.and_false] at both
    cases both
  cases part with
  | pending set =>
    have among : cleaner.settings.deadLetterStream set.stream ∈ cleaner.letterStreams :=
      List.mem_map_of_mem (cleaner.mem_streams_of_part (List.mem_append_left _ member) rfl)
    rw [errand, Errand.trail_map, Errand.run_map, cleaner.letters_treating among]
    dsimp only
    rw [Option.map_map]
    rfl
  | expired stream => exact deleting _ _ _ _ fun _ => rfl
  | letters stream => exact deleting _ _ _ _ fun _ => rfl
  | purge => rfl

/-- A part tells how many entries it took out of some streams, if a report tells them so. -/
theorem removed_errand (threshold wall : Instant) {streams : List String}
    {field : CleanupReport → Nat} {part : Part} (service : Service)
    (pending : ∀ done, field (.ofPending done) = 0)
    (expired : ∀ stream, part = .expired stream → ∀ number,
      field (.ofExpired number) = if stream ∈ streams then number else 0)
    (letters : ∀ stream, part = .letters stream → ∀ number, field (.ofLetters number) =
      if cleaner.settings.deadLetterStream stream ∈ streams then number else 0) :
    (cleaner.errand threshold wall part).total (fun attempt => (attempt.removed streams).ncard)
        service =
      (((cleaner.errand threshold wall part).run service).1.map field).getD 0 := by
  have deleting {done : Nat → CleanupReport} {stream : String}
      (told : ∀ number, field (done number) = if stream ∈ streams then number else 0)
      (spared : Nat) (cutoff : StreamId) :
      (cleaner.deleting spared stream cutoff).total
          (fun attempt => (attempt.removed streams).ncard) service =
        (((cleaner.deleting spared stream cutoff).run service).1.map fun number =>
          field (done number)).getD 0 := by
    by_cases among : stream ∈ streams
    · rw [cleaner.removed_deleting among]
      cases ((cleaner.deleting spared stream cutoff).run service).1 with
      | none => rfl
      | some number => exact ((told number).trans (if_pos among)).symm
    · have none : (cleaner.deleting spared stream cutoff).total
          (fun attempt => (attempt.removed streams).ncard) service = 0 :=
        (cleaner.makes_deleting (fun _ => Request.removed_of_foreign among)
          (fun _ _ => Request.removed_of_foreign among) spared).total_eq_zero
      rw [none]
      cases ((cleaner.deleting spared stream cutoff).run service).1 with
      | none => rfl
      | some number => exact ((told number).trans (if_neg among)).symm
  cases part with
  | pending set =>
    refine total_unreported ?_ pending
    exact (cleaner.makes_treating (fun _ => Request.removed_of_other streams rfl)
      (fun _ _ => Request.removed_of_other streams rfl)
      (fun _ _ _ => Request.removed_of_other streams rfl)
      (fun _ _ => Request.removed_of_other streams rfl) wall).total_eq_zero
  | expired stream => exact total_reported field (deleting (expired stream rfl) _ _)
  | letters stream => exact total_reported field (deleting (letters stream rfl) _ _)
  | purge => rfl

theorem flaws_errand (threshold wall : Instant) {part : Part} (other : part ≠ .purge)
    (service : Service) :
    (cleaner.errand threshold wall part).total part.flaws service =
      if ((cleaner.errand threshold wall part).run service).1.isNone then 1 else 0 := by
  cases part with
  | pending set =>
    rw [errand, Errand.total_map, Errand.run_map, flaws_treating, Option.isNone_map]
  | expired stream =>
    rw [errand, Errand.total_map, Errand.run_map, cleaner.flaws_deleting fun _ => rfl,
      Option.isNone_map]
  | letters stream =>
    rw [errand, Errand.total_map, Errand.run_map, cleaner.flaws_deleting fun _ => rfl,
      Option.isNone_map]
  | purge => exact absurd rfl other

/-! ### Runs -/

/-- The turns of a run that turn to the stream service, each with the requests made in it. -/
def runTurns (threshold : Instant) (pipeline : Pipeline) : List (Part × List Attempt) :=
  cleaner.turns threshold pipeline.wall cleaner.streamParts pipeline.service

/-- The requests that a run makes to the stream service, each with its part. -/
def requests (threshold : Instant) (pipeline : Pipeline) : List (Part × Attempt) :=
  cleaner.trail threshold pipeline.wall cleaner.streamParts pipeline.service

/-- A field of a report is what the turns come to, if each part tells its share. -/
theorem told_runParts (field : CleanupReport → Nat) (share : Option CleanupReport → Nat)
    (tells : Part → List Attempt → Nat)
    (told : ∀ report answer, field (tell report answer) = field report + share answer.toOption)
    {parts : List Part} (early : .purge ∉ parts)
    (each : ∀ part ∈ parts, ∀ service,
      tells part ((cleaner.errand threshold wall part).trail service) =
        share ((cleaner.errand threshold wall part).run service).1)
    (state : CleanupReport × Pipeline) (same : state.2.wall = wall) :
    field (cleaner.runParts threshold parts state).1 =
      field state.1 + ((cleaner.turns threshold wall parts state.2.service).map fun turn =>
        tells turn.1 turn.2).sum := by
  induction parts generalizing state with
  | nil => rfl
  | cons part rest inductionHypothesis =>
    obtain ⟨other, later⟩ := List.ne_and_not_mem_of_not_mem_cons early
    have performs := cleaner.performs_afterPart threshold state.2 (Ne.symm other)
    rw [same] at performs
    -- The first part tells its share in the state it meets, the others from where it leaves off.
    have first := each part List.mem_cons_self state.2.service
    rw [performs.run] at first
    have others := inductionHypothesis later
      (fun part member => each part (List.mem_cons_of_mem _ member))
      (tell state.1 (cleaner.take threshold state.2 part).1,
        cleaner.afterPart threshold state.2 part) (performs.wall.trans same)
    rw [runParts_cons, settle_eq, turns, performs.run, List.map_cons, List.sum_cons]
    refine others.trans ?_
    rw [told, ← first, Nat.add_assoc]

/-- What the turns of some parts come to is what their requests do. -/
theorem sum_turns (measure : Part → Attempt → Nat) (parts : List Part) (service : Service) :
    ((cleaner.turns threshold wall parts service).map fun turn =>
        (turn.2.map (measure turn.1)).sum).sum =
      ((cleaner.trail threshold wall parts service).map fun entry =>
        measure entry.1 entry.2).sum := by
  rw [trail, List.map_flatMap, List.flatMap_def, List.sum_flatten, List.map_map]
  simp only [Function.comp_def, List.map_map]

/-- The requests of a run follow each other without a gap. -/
theorem links_trail (threshold : Instant) (parts : List Part) (state : CleanupReport × Pipeline) :
    Attempt.Links state.2.service.store
      ((cleaner.trail threshold state.2.wall parts state.2.service).map Prod.snd)
      (cleaner.runParts threshold parts state).2.service.store := by
  induction parts generalizing state with
  | nil => rfl
  | cons part rest inductionHypothesis =>
    obtain ⟨service, wall⟩ := cleaner.service_afterPart threshold state.2 part
    have rest := inductionHypothesis (tell state.1 (cleaner.take threshold state.2 part).1,
      cleaner.afterPart threshold state.2 part)
    dsimp only at rest
    rw [service, wall] at rest
    rw [runParts_cons, settle_eq, trail_cons, List.map_append, List.map_map]
    have first := Errand.links_trail (cleaner.errand threshold state.2.wall part) state.2.service
    have own : ((cleaner.errand threshold state.2.wall part).trail state.2.service).map
        (Prod.snd ∘ (part, ·)) =
          (cleaner.errand threshold state.2.wall part).trail state.2.service := List.map_id _
    rw [own]
    exact first.append rest

/-- The part of the archive comes last, and adds no more than its answer to the report. -/
theorem runFor_last (threshold : Instant) (pipeline : Pipeline) :
    (cleaner.runFor threshold pipeline).1 =
        tell (cleaner.runParts threshold cleaner.streamParts ({}, pipeline)).1
          (((pipeline.archive.deleteBefore threshold).1.mapError fun failure =>
            CleanupError.database failure.message).map .ofRows) ∧
      (cleaner.runFor threshold pipeline).2.service =
        (cleaner.runParts threshold cleaner.streamParts ({}, pipeline)).2.service := by
  have archive := cleaner.archive_runParts threshold cleaner.purge_not_mem_streamParts
    ({}, pipeline)
  rw [runFor_eq, parts, runParts_append]
  generalize cleaner.runParts threshold cleaner.streamParts ({}, pipeline) = state at archive ⊢
  obtain ⟨answered, -, service, -⟩ := cleaner.afterPart_purge threshold state.2
  rw [runParts_cons, settle_eq, answered, ← show state.2.archive = pipeline.archive from archive]
  exact ⟨rfl, service⟩

/-- What the turns of a run come to is what its report tells, if each part tells its share. The part
of the archive adds nothing to it. -/
theorem tell_runFor (field : CleanupReport → Nat) (tells : Part → List Attempt → Nat)
    {pipeline : Pipeline} (none : field {} = 0)
    (told : ∀ report answer,
      field (tell report answer) = field report + (answer.toOption.map field).getD 0)
    (rows : ∀ number, field (.ofRows number) = 0)
    (each : ∀ part ∈ cleaner.streamParts, ∀ service,
      tells part ((cleaner.errand threshold pipeline.wall part).trail service) =
        (((cleaner.errand threshold pipeline.wall part).run service).1.map field).getD 0) :
    field (cleaner.runFor threshold pipeline).1 =
      ((cleaner.runTurns threshold pipeline).map fun turn => tells turn.1 turn.2).sum := by
  have tally := cleaner.told_runParts field (fun done => (done.map field).getD 0) tells told
    cleaner.purge_not_mem_streamParts each ({}, pipeline) rfl
  rw [none, Nat.zero_add] at tally
  rw [(cleaner.runFor_last threshold pipeline).1, told, tally]
  refine (congrArg (_ + ·) ?_).trans (Nat.add_zero _)
  cases (pipeline.archive.deleteBefore threshold).1 with
  | error failure => rfl
  | ok number => exact rows number

/-- What the requests of a run come to by a measure is what its report tells, if each part tells its
share. -/
theorem total_runFor (field : CleanupReport → Nat) (measure : Attempt → Nat) {pipeline : Pipeline}
    (none : field {} = 0)
    (told : ∀ report answer,
      field (tell report answer) = field report + (answer.toOption.map field).getD 0)
    (rows : ∀ number, field (.ofRows number) = 0)
    (each : ∀ part ∈ cleaner.streamParts, ∀ service,
      (cleaner.errand threshold pipeline.wall part).total measure service =
        (((cleaner.errand threshold pipeline.wall part).run service).1.map field).getD 0) :
    field (cleaner.runFor threshold pipeline).1 =
      ((cleaner.requests threshold pipeline).map fun entry => measure entry.2).sum :=
  (cleaner.tell_runFor field (fun _ turn => (turn.map measure).sum) none told rows each).trans
    (cleaner.sum_turns (fun _ => measure) _ _)

theorem pendingAcknowledged_runFor (pipeline : Pipeline) :
    (cleaner.runFor threshold pipeline).1.pendingAcknowledged =
      ((cleaner.requests threshold pipeline).map fun entry => entry.2.released.ncard).sum :=
  cleaner.total_runFor CleanupReport.pendingAcknowledged (fun attempt => attempt.released.ncard)
    rfl (by rintro _ (_ | _) <;> rfl) (fun _ => rfl)
    fun part _ service => cleaner.released_errand threshold _ part service

theorem deadLettered_runFor (pipeline : Pipeline) :
    (cleaner.runFor threshold pipeline).1.deadLettered =
      ((cleaner.runTurns threshold pipeline).map fun turn =>
        toldLetters cleaner.letterStreams turn.2).sum :=
  cleaner.tell_runFor CleanupReport.deadLettered (fun _ => toldLetters cleaner.letterStreams)
    rfl (by rintro _ (_ | _) <;> rfl) (fun _ => rfl)
    fun _ member => cleaner.letters_errand threshold _ member

/-- Where no acknowledgement fails, all dead letters appended are told. -/
theorem sum_toldLetters {pipeline : Pipeline}
    (fine : ∀ entry ∈ cleaner.requests threshold pipeline, entry.2.failed = true →
      entry.2.request.acknowledges = false) :
    ((cleaner.runTurns threshold pipeline).map fun turn =>
        toldLetters cleaner.letterStreams turn.2).sum =
      ((cleaner.requests threshold pipeline).map fun entry =>
        entry.2.appended cleaner.letterStreams).sum := by
  refine Eq.trans (congrArg List.sum (List.map_congr_left fun turn member => if_neg ?_))
    (cleaner.sum_turns (fun _ => Attempt.appended cleaner.letterStreams) _ _)
  intro lost
  obtain ⟨attempt, among, both⟩ := List.any_eq_true.mp lost
  obtain ⟨failed, acknowledges⟩ := Bool.and_eq_true_iff.mp both
  have none := fine (turn.1, attempt)
    (List.mem_flatMap.mpr ⟨turn, member, List.mem_map_of_mem among⟩) failed
  exact Bool.false_ne_true (none.symm.trans acknowledges)

theorem entriesDeleted_runFor
    (distinct : ∀ stream ∈ cleaner.streams, stream ∉ cleaner.letterStreams)
    (pipeline : Pipeline) :
    (cleaner.runFor threshold pipeline).1.entriesDeleted =
      ((cleaner.requests threshold pipeline).map fun entry =>
        (entry.2.removed cleaner.streams).ncard).sum := by
  refine cleaner.total_runFor CleanupReport.entriesDeleted
    (fun attempt => (attempt.removed cleaner.streams).ncard) rfl
    (by rintro _ (_ | _) <;> rfl) (fun _ => rfl) fun part member service => ?_
  have own {stream : String} (concerned : part.stream? = some stream) :=
    cleaner.mem_streams_of_part (List.mem_append_left _ member) concerned
  refine cleaner.removed_errand threshold _ service (fun _ => rfl) ?_ ?_
  · rintro stream rfl number
    exact (if_pos (own rfl)).symm
  · rintro stream rfl number
    exact (if_neg fun among => distinct _ among (List.mem_map_of_mem (own rfl))).symm

theorem deadLettersDeleted_runFor
    (distinct : ∀ stream ∈ cleaner.streams, stream ∉ cleaner.letterStreams)
    (pipeline : Pipeline) :
    (cleaner.runFor threshold pipeline).1.deadLettersDeleted =
      ((cleaner.requests threshold pipeline).map fun entry =>
        (entry.2.removed cleaner.letterStreams).ncard).sum := by
  refine cleaner.total_runFor CleanupReport.deadLettersDeleted
    (fun attempt => (attempt.removed cleaner.letterStreams).ncard) rfl
    (by rintro _ (_ | _) <;> rfl) (fun _ => rfl) fun part member service => ?_
  have own {stream : String} (concerned : part.stream? = some stream) :=
    cleaner.mem_streams_of_part (List.mem_append_left _ member) concerned
  refine cleaner.removed_errand threshold _ service (fun _ => rfl) ?_ ?_
  · rintro stream rfl number
    exact (if_neg (distinct _ (own rfl))).symm
  · rintro stream rfl number
    exact (if_pos (List.mem_map_of_mem (own rfl))).symm

/-- As many parts of a run fail as requests do, those to copy pending entries left out. -/
theorem failures_runParts (threshold : Instant) (pipeline : Pipeline) :
    (cleaner.runParts threshold cleaner.streamParts ({}, pipeline)).1.failures.length =
      ((cleaner.requests threshold pipeline).map fun entry => entry.1.flaws entry.2).sum := by
  have told (report : CleanupReport) (answer : Except CleanupError CleanupReport) :
      (tell report answer).failures.length =
        report.failures.length + if answer.toOption.isNone then 1 else 0 := by
    cases answer with
    | error error => exact List.length_append
    | ok done => rfl
  have tally := cleaner.told_runParts (fun report => report.failures.length)
    (fun done => if done.isNone then 1 else 0) (fun part turn => (turn.map part.flaws).sum) told
    cleaner.purge_not_mem_streamParts
    (fun part member service => cleaner.flaws_errand threshold pipeline.wall
      (fun purges => cleaner.purge_not_mem_streamParts (purges ▸ member)) service)
    ({}, pipeline) rfl
  exact tally.trans ((Nat.zero_add _).trans (cleaner.sum_turns Part.flaws _ _))

/-- A run is clean exactly if nothing failed but the copying of pending entries. -/
theorem isClean_runFor (threshold : Instant) (pipeline : Pipeline) :
    (cleaner.runFor threshold pipeline).1.isClean = true ↔
      (∀ entry ∈ cleaner.requests threshold pipeline, entry.2.failed = true →
        entry.1.copies entry.2.request = true) ∧
      ∃ number, (pipeline.archive.deleteBefore threshold).1 = .ok number := by
  have streams : (cleaner.runParts threshold cleaner.streamParts ({}, pipeline)).1.failures = [] ↔
      ∀ entry ∈ cleaner.requests threshold pipeline, entry.2.failed = true →
        entry.1.copies entry.2.request = true := by
    rw [← List.length_eq_zero_iff, failures_runParts, List.sum_eq_zero_iff, List.forall_mem_map]
    refine forall₂_congr fun entry _ => ?_
    rw [Part.flaws]
    cases entry.2.failed <;> cases entry.1.copies entry.2.request <;> simp
  rw [(cleaner.runFor_last threshold pipeline).1, ← streams, CleanupReport.isClean,
    List.isEmpty_iff]
  cases (pipeline.archive.deleteBefore threshold).1 with
  | error failure =>
    refine iff_of_false ?_ fun both => by cases both.2.choose_spec
    exact List.append_ne_nil_of_right_ne_nil _ (List.cons_ne_nil _ _)
  | ok number => exact (and_iff_left ⟨number, rfl⟩).symm

/-- The rows told are those that are gone, unless the call of the archive failed. -/
theorem rowsDeleted_runFor {pipeline : Pipeline} (keyed : pipeline.archive.events.Keyed)
    {threshold : Instant} {number : Nat}
    (answered : (pipeline.archive.deleteBefore threshold).1 = .ok number) :
    (cleaner.runFor threshold pipeline).1.rowsDeleted +
        (cleaner.runFor threshold pipeline).2.archive.events.count =
      pipeline.archive.events.count := by
  obtain ⟨archive, told⟩ := cleaner.archive_runFor threshold pipeline
  rw [archive, told]
  rcases pipeline.archive.deleteBefore_cases threshold with ⟨removed, left⟩ | ⟨⟨failure, failed⟩, _⟩
  · rw [removed, left]
    exact keyed.count_removeBefore threshold
  · rw [failed] at answered
    cases answered

/-- Where the call of the archive fails no rows are told, though those it was to remove may be
gone. -/
theorem rowsDeleted_runFor_of_error {pipeline : Pipeline} {threshold : Instant} {failure : Failure}
    (failed : (pipeline.archive.deleteBefore threshold).1 = .error failure) :
    (cleaner.runFor threshold pipeline).1.rowsDeleted = 0 ∧
      ((cleaner.runFor threshold pipeline).2.archive.events = pipeline.archive.events ∨
        (cleaner.runFor threshold pipeline).2.archive.events =
          (pipeline.archive.events.removeBefore threshold).2) := by
  obtain ⟨archive, told⟩ := cleaner.archive_runFor threshold pipeline
  rw [archive, told, failed]
  refine ⟨rfl, ?_⟩
  rcases pipeline.archive.deleteBefore_cases threshold with ⟨removed, _⟩ | ⟨_, left⟩
  · rw [removed] at failed
    cases failed
  · exact left

/-- A run whose threshold the calendar reaches reports what it did, whatever fails in it. Its
requests lead from the streams at its start to those at its end. The pending entries acknowledged
are the ids that were taken off the lists of their groups; the entries and the dead letters deleted
are those taken out of the streams and of the dead-letter streams. The dead letters are those
appended in the turns of the consumer sets whose acknowledgement did not fail, which are all if none
failed. The rows deleted are those that are gone, the keys of rows being different as every call
leaves them, if the call of the archive did not fail; if it did they are none, and then no row is
gone or all are that the call was to remove. The report is clean exactly if nothing failed but the
copying of pending entries. -/
theorem report_tells_effects (cleaner : Cleaner) {now threshold : Instant}
    (representable : cleaner.threshold? now = some threshold)
    (distinct : ∀ stream ∈ cleaner.streams, stream ∉ cleaner.letterStreams) (pipeline : Pipeline)
    (keyed : pipeline.archive.events.Keyed) :
    ∃ report ended, cleaner.run? now pipeline = some (report, ended) ∧
      Attempt.Links pipeline.service.store ((cleaner.requests threshold pipeline).map Prod.snd)
        ended.service.store ∧
      report.pendingAcknowledged =
        ((cleaner.requests threshold pipeline).map fun entry => entry.2.released.ncard).sum ∧
      report.entriesDeleted =
        ((cleaner.requests threshold pipeline).map fun entry =>
          (entry.2.removed cleaner.streams).ncard).sum ∧
      report.deadLettersDeleted =
        ((cleaner.requests threshold pipeline).map fun entry =>
          (entry.2.removed cleaner.letterStreams).ncard).sum ∧
      report.deadLettered =
        ((cleaner.runTurns threshold pipeline).map fun turn =>
          toldLetters cleaner.letterStreams turn.2).sum ∧
      ((∀ entry ∈ cleaner.requests threshold pipeline, entry.2.failed = true →
          entry.2.request.acknowledges = false) →
        report.deadLettered =
          ((cleaner.requests threshold pipeline).map fun entry =>
            entry.2.appended cleaner.letterStreams).sum) ∧
      (∀ number, (pipeline.archive.deleteBefore threshold).1 = .ok number →
        report.rowsDeleted + ended.archive.events.count = pipeline.archive.events.count) ∧
      (∀ failure, (pipeline.archive.deleteBefore threshold).1 = .error failure →
        report.rowsDeleted = 0 ∧ (ended.archive.events = pipeline.archive.events ∨
          ended.archive.events = (pipeline.archive.events.removeBefore threshold).2)) ∧
      (report.isClean = true ↔
        (∀ entry ∈ cleaner.requests threshold pipeline, entry.2.failed = true →
          entry.1.copies entry.2.request = true) ∧
        ∃ number, (pipeline.archive.deleteBefore threshold).1 = .ok number) := by
  refine ⟨(cleaner.runFor threshold pipeline).1, (cleaner.runFor threshold pipeline).2, ?_, ?_,
    cleaner.pendingAcknowledged_runFor pipeline, cleaner.entriesDeleted_runFor distinct pipeline,
    cleaner.deadLettersDeleted_runFor distinct pipeline, cleaner.deadLettered_runFor pipeline,
    fun fine => (cleaner.deadLettered_runFor pipeline).trans (cleaner.sum_toldLetters fine),
    fun _ => cleaner.rowsDeleted_runFor keyed, fun _ => cleaner.rowsDeleted_runFor_of_error,
    cleaner.isClean_runFor threshold pipeline⟩
  · rw [run?, representable, Option.map_some]
  · rw [(cleaner.runFor_last threshold pipeline).2]
    exact cleaner.links_trail threshold cleaner.streamParts ({}, pipeline)

end Cleaner

/-- Where neither copies nor deletions work for one of two streams, the other one's entry is told as
copied, acknowledged and deleted, and the run is not clean. -/
theorem paymentsFail_is_told :
    paired.threshold? ⟨8640000, 0⟩ = some ⟨3456000, 0⟩ ∧
      ((paired.requests ⟨3456000, 0⟩ (aged paymentsFail)).map fun entry =>
        entry.2.released.ncard).sum = 1 ∧
      ((paired.requests ⟨3456000, 0⟩ (aged paymentsFail)).map fun entry =>
        (entry.2.removed paired.streams).ncard).sum = 1 ∧
      ((paired.requests ⟨3456000, 0⟩ (aged paymentsFail)).map fun entry =>
        entry.2.appended paired.letterStreams).sum = 1 ∧
      ((paired.runTurns ⟨3456000, 0⟩ (aged paymentsFail)).map fun turn =>
        toldLetters paired.letterStreams turn.2).sum = 1 ∧
      ¬ ∀ entry ∈ paired.requests ⟨3456000, 0⟩ (aged paymentsFail), entry.2.failed = true →
        entry.1.copies entry.2.request = true := by
  have representable : paired.threshold? ⟨8640000, 0⟩ = some ⟨3456000, 0⟩ := by decide
  have told : (paired.run? ⟨8640000, 0⟩ (aged paymentsFail)).map Prod.fst =
    some ⟨1, 1, 1, 0, 0, [(CleanupError.stream (.timeout "delete")).message]⟩ := by decide
  obtain ⟨report, ended, ran, -, released, removed, -, letters, appended, -, -, clean⟩ :=
    paired.report_tells_effects representable (by decide) (aged paymentsFail)
      Archive.EventRows.keyed_table
  rw [ran] at told
  obtain rfl := Option.some.inj told
  refine ⟨representable, released.symm, removed.symm, (appended (by decide)).symm, letters.symm,
    fun all => ?_⟩
  cases clean.mpr ⟨all, 0, rfl⟩

/-- Only the copies for one of the streams fail. -/
def copiesFail : List (Outage Streams.StoreMethod Streams.StoreError) :=
  [⟨.append, some "payments:dlq", .timeout "append", 0, none⟩]

/-- Only the acknowledgements in one of the streams fail. -/
def acknowledgementsFail : List (Outage Streams.StoreMethod Streams.StoreError) :=
  [⟨.acknowledge, some "payments", .timeout "ack", 0, none⟩]

/-- The two streams with an archive on disk that keeps one row, an old one. Its deletions are not
written out. -/
def unwritten : Pipeline :=
  let kept := ((Archive.empty .disk).create ⟨0, 0⟩ (Archive.accessAt "5-0" .apiPublic 0)).2
  { aged [] with
    archive := { kept with flushes := [⟨.deleteBefore, none, .database "flush", 0, none⟩] } }

/-- A run in which a copy fails is clean, one in which an acknowledgement fails tells of one dead
letter less than it appended, and one whose deletion of a row is not written out does not tell of
it. -/
theorem copies_fail_unreported :
    (∃ report ended, paired.run? ⟨8640000, 0⟩ (aged copiesFail) = some (report, ended) ∧
        report.isClean = true ∧
        ∃ entry ∈ paired.requests ⟨3456000, 0⟩ (aged copiesFail), entry.2.failed = true) ∧
      (∃ report ended, paired.run? ⟨8640000, 0⟩ (aged acknowledgementsFail) =
          some (report, ended) ∧
        report.deadLettered = 1 ∧
        ((paired.requests ⟨3456000, 0⟩ (aged acknowledgementsFail)).map fun entry =>
          entry.2.appended paired.letterStreams).sum = 2) ∧
      ∃ report ended, paired.run? ⟨8640000, 0⟩ unwritten = some (report, ended) ∧
        report.rowsDeleted = 0 ∧ unwritten.archive.events.count = 1 ∧
        ended.archive.events.count = 0 := by
  refine ⟨⟨_, _, rfl, by decide, by decide⟩, ⟨_, _, rfl, by decide, by decide⟩, _, _, rfl, ?_⟩
  decide

end Retention

end AccessFeed
