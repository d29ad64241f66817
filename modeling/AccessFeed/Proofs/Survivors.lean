/-
This file tells whether the first entry of a stream survives a cleanup.

Of the expired entries of a stream the first one is spared, so that the stream
is never emptied. Of a dead-letter stream none is spared. Nothing keeps a stream
that is read from being a dead-letter stream: a consumer set may read the dead
letters of another, and the suffix of dead-letter streams may be empty. The
first entry of such a stream is deleted as soon as it is expired; that of any
other stream stays, whatever calls fail.
-/

import AccessFeed.Proofs.CleanupCalls
import AccessFeed.Proofs.Numberings
import AccessFeed.Settings.Check

namespace AccessFeed

/-! ### What calls keep of a stream -/

namespace Streams

theorem Store.fieldsAt?_eq (store : Store) (stream : String) (id : StreamId) :
    store.fieldsAt? stream id = ((store.content? stream).getD .empty).entries.get? id := by
  rw [fieldsAt?]
  cases store.content? stream <;> rfl

/-- Whether the entries of a stream are in order, and none is behind the last id unless the ids have
started over. -/
structure Orderly (held : Option Content) : Prop where
  ascending : (held.getD .empty).entries.Ascending
  reached : ∀ id ∈ (held.getD .empty).entries.ids,
    id ≤ (held.getD .empty).lastId ∨ StreamId.greatest.successor ≤ (held.getD .empty).lastId

theorem StoreCall.ascending_effect (call : StoreCall) {held : Option Content}
    (ascending : (held.getD .empty).entries.Ascending) :
    ((call.effect held).getD .empty).entries.Ascending := by
  cases call with
  | append now stream fields => exact ascending.insert _ _
  | appendWithId stream id fields =>
    rw [effect]
    split
    · exact ascending
    · exact ascending.insert _ _
  | createGroup stream group =>
    cases held with
    | none => exact ascending
    | some content =>
      rw [effect, Option.map_some]
      split <;> exact ascending
  | readGroup stream group consumer offset count =>
    cases held with
    | none => exact ascending
    | some content => exact (Store.entries_changeGroup content group _).symm ▸ ascending
  | acknowledge stream group ids =>
    cases held with
    | none => exact ascending
    | some content => exact (Store.entries_changeGroup content group _).symm ▸ ascending
  | delete stream ids =>
    cases held with
    | none => exact ascending
    | some content => exact ascending.eraseAll ids
  | hasStream | groupNames | pending | range | cluster | inject | clear | setClusterState =>
    exact ascending

/-- An id that follows another is behind all that the other is, or the ids have started over. -/
theorem Follows.reaches {last id other : StreamId} (follows : Follows last id)
    (reached : other ≤ last ∨ StreamId.greatest.successor ≤ last) :
    other ≤ id ∨ StreamId.greatest.successor ≤ id := by
  rcases follows with behind | ⟨_, rfl⟩
  · exact reached.imp (fun within => StreamId.le_trans within (StreamId.le_of_lt behind))
      fun late => StreamId.le_trans late (StreamId.le_of_lt behind)
  · exact Or.inr (StreamId.le_refl _)

theorem Orderly.effect {held : Option Content} (orderly : Orderly held) (call : StoreCall) :
    Orderly (call.effect held) where
  ascending := call.ascending_effect orderly.ascending
  reached := by
    intro other member
    cases given : call.given? held with
    | some id =>
      obtain ⟨fields, made⟩ := StoreCall.effect_of_given given
      rw [made] at member ⊢
      rcases IdMap.mem_ids_insert.mp member with same | present
      · exact Or.inl (same ▸ StreamId.le_refl _)
      · exact (StoreCall.follows_given given).reaches (orderly.reached other present)
    | none =>
      obtain ⟨last, fewer⟩ := StoreCall.effect_of_not_given given
      rw [last]
      exact orderly.reached other (fewer other member)

/-- Every stream of a store is orderly, whatever ids were given out. -/
theorem orderly_after (calls : List StoreCall) (stream : String) :
    Orderly ((Store.empty.after calls).content? stream) := by
  have start : Orderly (Store.empty.content? stream) :=
    ⟨IdMap.ascending_empty, fun id member => absurd member List.not_mem_nil⟩
  exact Store.content?_after (fun call _ _ held orderly => orderly.effect call) start

/-- Whether nothing in a stream, nor the last id, is before some id. -/
structure Above (floor : StreamId) (held : Option Content) : Prop where
  entries : ∀ id ∈ (held.getD .empty).entries.ids, floor ≤ id
  last : floor ≤ (held.getD .empty).lastId

namespace Above

variable {floor : StreamId} {held : Option Content}

/-- No entry is added before an id, unless it is one of the last millisecond. -/
theorem effect (above : Above floor held) (low : floor ≤ StreamId.greatest.successor)
    (call : StoreCall) : Above floor (call.effect held) := by
  cases given : call.given? held with
  | some id =>
    obtain ⟨fields, made⟩ := StoreCall.effect_of_given given
    have behind : floor ≤ id := by
      rcases StoreCall.follows_given given with behind | ⟨_, rfl⟩
      · exact StreamId.le_trans above.last (StreamId.le_of_lt behind)
      · exact low
    rw [made]
    refine ⟨fun other member => ?_, behind⟩
    rcases IdMap.mem_ids_insert.mp member with same | present
    · exact same ▸ behind
    · exact above.entries other present
  | none =>
    obtain ⟨last, fewer⟩ := StoreCall.effect_of_not_given given
    exact ⟨fun id member => above.entries id (fewer id member), last ▸ above.last⟩

theorem of_least (orderly : Orderly held) (member : floor ∈ (held.getD .empty).entries.ids)
    (least : ∀ id ∈ (held.getD .empty).entries.ids, floor ≤ id)
    (low : floor ≤ StreamId.greatest.successor) : Above floor held :=
  ⟨least, (orderly.reached floor member).elim id (StreamId.le_trans low)⟩

end Above

/-- A deletion succeeds. -/
theorem Service.delete_of_working {service : Service} (working : service.Working) (stream : String)
    (ids : List StreamId) : ∃ count left, service.delete stream ids = (.ok count, left) := by
  rw [delete, call_of_working working, Store.delete, Store.guarded_of_working working.2]
  cases service.store.content? stream <;> exact ⟨_, _, rfl⟩

end Streams

open Streams (Above Content Fields IdMap Orderly PendingEntry Record Store StoreCall StoreError
  StoreMethod StreamId)

/-- The bounds of the calendar in numbers. -/
theorem Calendar.Instant.within_of_ofParts? {seconds : Int} {nanos : Nat}
    {at_ : Calendar.Instant} (made : ofParts? seconds nanos = some at_) :
    at_.seconds < 8210266876800 ∧ at_.nanos < 2000000000 := by
  rw [ofParts?] at made
  split at made
  · rename_i fits
    obtain rfl := Option.some.inj made
    show seconds < 8210266876800 ∧ nanos < 2000000000
    simp only [inRange, nanosFit, Bool.and_eq_true, Bool.or_eq_true, decide_eq_true_eq] at fits
    simp only [lastDayNumber, secondsPerDay, nanosPerSecond] at fits
    omega
  · cases made

/-- Whether an entry is the first one of a stream. -/
structure Pipeline.IsFirst (pipeline : Pipeline) (stream : String) (id : StreamId)
    (fields : Fields) : Prop where
  present : pipeline.fieldsAt? stream id = some fields
  least : ∀ other held, pipeline.fieldsAt? stream other = some held → id ≤ other

namespace Retention

open Calendar (Instant)
open Settings (ConsumerSet)

namespace Cleaner

variable {cleaner : Cleaner}

/-! ### Deletions and the first entry -/

section

variable {pipeline : Pipeline} {stream : String} {id cutoff : StreamId}

theorem ids_listed (store : Store) (stream : String) (start stop : StreamId) (count : Nat) :
    (store.listed stream start stop count).map Record.id =
      (((((store.content? stream).getD .empty).entries.between start stop).take count).map
        Prod.fst) := by
  rw [Store.listed]
  cases store.content? stream with
  | none => exact (congrArg (List.map Prod.fst) List.take_nil).symm
  | some content => exact List.map_map

/-- The ids of the entries that are looked up for a deletion. -/
theorem deletes_listed {spared : Nat}
    (deletes : cleaner.Deletes spared stream cutoff pipeline id) :
    id ∈ ((((((pipeline.service.store.content? stream).getD .empty).entries.between .least
      cutoff).take cleaner.settings.deleteBatch).map Prod.fst).drop spared) := by
  obtain ⟨records, read, count, left, listed, _, member⟩ := deletes
  rcases (pipeline.service.range_cases stream .least cutoff cleaner.settings.deleteBatch).2 with
    ⟨error, failed⟩ | told
  · cases failed.symm.trans (Pipeline.of_ask listed).1
  · obtain rfl := Except.ok.inj (told.symm.trans (Pipeline.of_ask listed).1)
    rwa [List.map_drop, ids_listed] at member

theorem batch_of_deletes {spared : Nat}
    (deletes : cleaner.Deletes spared stream cutoff pipeline id) :
    cleaner.settings.deleteBatch ≠ 0 := by
  intro none
  have member := deletes_listed deletes
  rw [none, List.take_zero, List.map_nil, List.drop_nil] at member
  cases member

/-- The first entry of a stream is the first of those up to a cutoff, and so it is spared. -/
theorem not_deletes_first
    (ascending : ((pipeline.service.store.content? stream).getD .empty).entries.Ascending)
    (least : ∀ other ∈ ((pipeline.service.store.content? stream).getD .empty).entries.ids,
      id ≤ other) : ¬ cleaner.Deletes 1 stream cutoff pipeline id := by
  intro deletes
  have member := deletes_listed deletes
  generalize ((pipeline.service.store.content? stream).getD .empty).entries = entries
    at ascending least member
  cases found : (entries.between .least cutoff).take cleaner.settings.deleteBatch with
  | nil =>
    rw [found] at member
    cases member
  | cons head rest =>
    have among : head ∈ entries.between .least cutoff :=
      List.mem_of_mem_take (found ▸ List.mem_cons_self)
    have ordered : (head :: rest).Pairwise fun first second => first.1 < second.1 :=
      found ▸ (List.Pairwise.filter _ ascending).take
    rw [found] at member
    obtain ⟨entry, later, rfl⟩ := List.mem_map.mp member
    have before := (List.pairwise_cons.mp ordered).1 entry later
    exact StreamId.not_le.mpr before
      (least head.1 (List.mem_map_of_mem (IdMap.mem_between.mp among).1))

/-- Where no call fails, and none is spared, the first entry of a stream is deleted if it is not
behind the cutoff. -/
theorem deletes_first (working : pipeline.service.Working)
    (ascending : ((pipeline.service.store.content? stream).getD .empty).entries.Ascending)
    (least : ∀ other ∈ ((pipeline.service.store.content? stream).getD .empty).entries.ids,
      id ≤ other)
    (present : id ∈ ((pipeline.service.store.content? stream).getD .empty).entries.ids)
    (expired : id ≤ cutoff) (batch : cleaner.settings.deleteBatch ≠ 0) :
    cleaner.Deletes 0 stream cutoff pipeline id := by
  have member : id ∈ (pipeline.service.store.listed stream .least cutoff
      cleaner.settings.deleteBatch).map Record.id := by
    rw [ids_listed]
    generalize ((pipeline.service.store.content? stream).getD .empty).entries = entries
      at ascending least present
    obtain ⟨entry, listed, rfl⟩ := List.mem_map.mp present
    have among : entry ∈ entries.between .least cutoff :=
      IdMap.mem_between.mpr ⟨listed, Nat.zero_le _, expired⟩
    obtain ⟨count, batchEq⟩ := Nat.exists_eq_succ_of_ne_zero batch
    cases found : entries.between .least cutoff with
    | nil =>
      rw [found] at among
      cases among
    | cons head rest =>
      have headListed := (IdMap.mem_between.mp (found ▸ List.mem_cons_self)).1
      have first : entry.1 ≤ head.1 := least head.1 (List.mem_map_of_mem headListed)
      have taken : head ∈ (head :: rest).take cleaner.settings.deleteBatch := by
        rw [batchEq, List.take_succ_cons]
        exact List.mem_cons_self
      have ordered : (head :: rest).Pairwise fun first second => first.1 < second.1 :=
        found ▸ List.Pairwise.filter _ ascending
      exact List.mem_map_of_mem (IdMap.mem_take_of_le ordered (found ▸ among) taken first)
  have read := Streams.Service.range_of_working working stream .least cutoff
    cleaner.settings.deleteBatch
  have asked : pipeline.ask (fun service =>
      service.range stream .least cutoff cleaner.settings.deleteBatch) =
      (.ok (pipeline.service.store.listed stream .least cutoff cleaner.settings.deleteBatch),
        pipeline) := by
    rw [Pipeline.ask, read]
  obtain ⟨count, left, deleted⟩ := Streams.Service.delete_of_working working stream
    ((pipeline.service.store.listed stream .least cutoff
      cleaner.settings.deleteBatch).map Record.id)
  refine ⟨_, pipeline, count, { pipeline with service := left }, asked, ?_, member⟩
  rw [List.drop_zero, Pipeline.ask, deleted]

end

/-! ### Moments of a run -/

theorem mem_insertName {name other : String} {names : List String} :
    other ∈ insertName name names ↔ other = name ∨ other ∈ names := by
  induction names with
  | nil => exact List.mem_singleton.trans (by simp)
  | cons first rest inductionHypothesis =>
    rw [insertName]
    split
    · rename_i same
      rw [same, List.mem_cons, ← or_assoc, or_self]
    · split
      · exact List.mem_cons
      · rw [List.mem_cons, inductionHypothesis, List.mem_cons, or_left_comm]

/-- The streams of a cleanup are those of its consumer sets. -/
theorem mem_streams {name : String} :
    name ∈ cleaner.streams ↔ ∃ set ∈ cleaner.consumers, set.stream = name := by
  rw [streams, ← List.mem_map]
  induction cleaner.consumers.map ConsumerSet.stream with
  | nil => rfl
  | cons first rest inductionHypothesis =>
    rw [List.foldr_cons, mem_insertName, inductionHypothesis, List.mem_cons]

section

variable {calls : List StoreCall} {pipeline moment ended : Pipeline} {now threshold : Instant}
  {report : CleanupReport} {stream : String} {id : StreamId} {fields : Fields}

theorem orderly_at (reached : pipeline.service.store = Store.empty.after calls)
    (leads : Leads cleaner.CleanupCall pipeline moment) (stream : String) :
    Orderly (moment.service.store.content? stream) := by
  refine leads.holds Orderly (fun call _ _ held orderly => orderly.effect call) ?_
  rw [reached]
  exact Streams.orderly_after calls stream

/-- What is there at the end of a run that treats no dead letters. -/
theorem fieldsAt?_run_of_disabled (limit : cleaner.threshold? now = some threshold)
    (disabled : ¬ cleaner.settings.deadLetterEnabled = true)
    (ran : cleaner.run? now pipeline = some (report, ended)) (stream : String) (id : StreamId) :
    ended.fieldsAt? stream id =
      (cleaner.afterStreams threshold pipeline cleaner.streams).fieldsAt? stream id := by
  rw [run?, limit, Option.map_some] at ran
  obtain rfl := congrArg Prod.snd (Option.some.inj ran)
  rw [runFor, if_neg disabled]
  exact (fieldsAt?_settle _ _ _ _ stream id).trans (fieldsAt?_purge threshold _ stream id)

theorem mem_ids_iff_fieldsAt? :
    id ∈ ((pipeline.service.store.content? stream).getD .empty).entries.ids ↔
      ∃ fields, pipeline.fieldsAt? stream id = some fields := by
  rw [IdMap.mem_ids_iff, Pipeline.fieldsAt?, Store.fieldsAt?_eq]

/-- The part for the consumer sets leaves the entries of a stream alone that holds no dead
letters. -/
theorem entries_afterSets
    (apart : cleaner.settings.deadLetterEnabled = true → ∀ source ∈ cleaner.consumers,
      cleaner.settings.deadLetterStream source.stream ≠ stream) (pipeline : Pipeline) :
    (((cleaner.afterSets pipeline cleaner.consumers).service.store.content? stream).getD
      .empty).entries = ((pipeline.service.store.content? stream).getD .empty).entries := by
  refine (cleaner.leads_afterSets pipeline).holds
    (fun held => (held.getD .empty).entries =
      ((pipeline.service.store.content? stream).getD .empty).entries)
    (fun call copies named held same => ?_) rfl
  cases copies with
  | range | pending => cases named
  | acknowledge target group ids =>
    cases held with
    | none => exact same
    | some content => exact (Store.entries_changeGroup content group _).trans same
  | append member enabled now fields =>
    exact absurd (Option.some.inj named) (apart enabled _ member)

/-- The part for the consumer sets removes no entry. -/
theorem mem_ids_afterSets (cleaner : Cleaner)
    (present : id ∈ ((pipeline.service.store.content? stream).getD .empty).entries.ids) :
    id ∈ (((cleaner.afterSets pipeline cleaner.consumers).service.store.content? stream).getD
      .empty).entries.ids := by
  exact (cleaner.leads_afterSets pipeline).holds (fun held => id ∈ (held.getD .empty).entries.ids)
    (fun call copies _ held present => StoreCall.mem_ids_effect copies.gentle present) present

/-- A cutoff on the calendar is before the last millisecond. -/
theorem cutoff_le (limit : cleaner.threshold? now = some threshold)
    (days : cleaner.settings.retentionDays ≠ 0) :
    StreamId.cutoff threshold ≤ StreamId.greatest.successor := by
  have within : threshold.seconds < 8210266876800 ∧ threshold.nanos < 2000000000 := by
    rw [threshold?, Instant.daysEarlier?, if_neg days] at limit
    split at limit <;> exact Instant.within_of_ofParts? limit
  have early : threshold.millis.toNat < StreamId.greatestPart.toNat := by
    rw [StreamId.toNat_greatestPart, Instant.millis]
    omega
  have millis : (StreamId.cutoff threshold).millis.toNat < StreamId.greatestPart.toNat :=
    Nat.lt_of_le_of_lt (Nat.mod_le _ _) early
  have seq := (StreamId.cutoff threshold).seq.toNat_lt
  show (StreamId.cutoff threshold).millis.toNat * 2 ^ 64 + (StreamId.cutoff threshold).seq.toNat ≤
    StreamId.greatestPart.toNat * 2 ^ 64 + 0
  omega

/-- The first entry of a stream stays that as long as none is added before it. -/
theorem above_at (reached : pipeline.service.store = Store.empty.after calls)
    (leads : Leads cleaner.CleanupCall pipeline moment)
    (first : pipeline.IsFirst stream id fields) (low : id ≤ StreamId.greatest.successor) :
    Above id (moment.service.store.content? stream) := by
  refine leads.holds (Above id) (fun call _ _ held above => above.effect low call) ?_
  refine Above.of_least ?_ (mem_ids_iff_fieldsAt?.mpr ⟨fields, first.present⟩) ?_ low
  · rw [reached]
    exact Streams.orderly_after calls stream
  · intro other member
    obtain ⟨held, present⟩ := mem_ids_iff_fieldsAt?.mp member
    exact first.least other held present

/-- The first entry of a stream that holds no dead letters survives a run, whatever calls fail. -/
theorem first_survives (reached : pipeline.service.store = Store.empty.after calls)
    (limit : cleaner.threshold? now = some threshold)
    (ran : cleaner.run? now pipeline = some (report, ended))
    (first : pipeline.IsFirst stream id fields)
    (apart : cleaner.settings.deadLetterEnabled = true → ∀ source ∈ cleaner.consumers,
      cleaner.settings.deadLetterStream source.stream ≠ stream) :
    ended.fieldsAt? stream id = some fields := by
  have same := entries_afterSets apart pipeline
  have start : (cleaner.afterSets pipeline cleaner.consumers).fieldsAt? stream id =
      some fields := by
    rw [Pipeline.fieldsAt?, Store.fieldsAt?_eq, same, ← Store.fieldsAt?_eq]
    exact first.present
  have expired : (cleaner.afterStreams threshold pipeline cleaner.streams).fieldsAt? stream id =
      some fields := by
    refine fieldsAt?_of_spared (afterStreams_concat threshold)
      (fun before name after split own => ?_) [] cleaner.streams rfl start
    have orderly := orderly_at reached (cleaner.leads_afterStreams threshold pipeline before) stream
    refine not_deletes_first orderly.ascending fun other member => ?_
    obtain ⟨held, present⟩ := mem_ids_iff_fieldsAt?.mp member
    have early := mem_ids_iff_fieldsAt?.mpr
      ⟨held, fieldsAt?_of_later (afterStreams_concat threshold) [] before present⟩
    rw [show cleaner.afterStreams threshold pipeline [] =
      cleaner.afterSets pipeline cleaner.consumers from rfl, same] at early
    obtain ⟨old, there⟩ := mem_ids_iff_fieldsAt?.mp early
    exact first.least other old there
  by_cases enabled : cleaner.settings.deadLetterEnabled = true
  · rw [fieldsAt?_run limit enabled ran]
    refine fieldsAt?_of_spared (afterLetters_concat threshold)
      (fun before name after split own => ?_) [] cleaner.streams rfl expired
    have listed : name ∈ cleaner.streams := split ▸ List.mem_append_right _ List.mem_cons_self
    obtain ⟨source, member, rfl⟩ := mem_streams.mp listed
    exact absurd own (apart enabled source member)
  · rw [fieldsAt?_run_of_disabled limit enabled ran]
    exact expired

/-- An entry that was there is gone after a run exactly if the run removes it. -/
theorem gone_iff_removes (limit : cleaner.threshold? now = some threshold)
    (enabled : cleaner.settings.deadLetterEnabled = true)
    (ran : cleaner.run? now pipeline = some (report, ended))
    (present : pipeline.fieldsAt? stream id = some fields) :
    ended.fieldsAt? stream id = none ↔ cleaner.Removes threshold pipeline stream id := by
  constructor
  · intro gone
    by_contra kept
    obtain ⟨held, start⟩ := mem_ids_iff_fieldsAt?.mp
      (cleaner.mem_ids_afterSets (mem_ids_iff_fieldsAt?.mpr ⟨fields, present⟩))
    have final := fieldsAt?_run_of_kept limit enabled ran kept start
    rw [gone] at final
    cases final
  · exact fun removes => Option.eq_none_iff_forall_ne_some.mpr fun held found =>
      (of_fieldsAt?_run limit enabled ran found).2 removes

/-- Whether the run of a cleanup removes the first entry of a stream of dead letters. -/
theorem removes_first_iff (reached : pipeline.service.store = Store.empty.after calls)
    (limit : cleaner.threshold? now = some threshold)
    (days : cleaner.settings.retentionDays ≠ 0)
    (ran : cleaner.run? now pipeline = some (report, ended))
    (enabled : cleaner.settings.deadLetterEnabled = true) (working : pipeline.service.Working)
    {source : ConsumerSet} (member : source ∈ cleaner.consumers)
    (first : pipeline.IsFirst (cleaner.settings.deadLetterStream source.stream) id fields) :
    cleaner.Removes threshold pipeline (cleaner.settings.deadLetterStream source.stream) id ↔
      id ≤ .cutoff threshold ∧ cleaner.settings.deleteBatch ≠ 0 := by
  have early : id ≤ .cutoff threshold → id ≤ StreamId.greatest.successor :=
    fun expired => StreamId.le_trans expired (cutoff_le limit days)
  constructor
  · rintro (⟨before, after, split, deletes⟩ | ⟨before, name, after, split, _, deletes⟩)
    · have leads := cleaner.leads_afterStreams threshold pipeline before
      have above := above_at reached leads first (early (le_of_deletes deletes))
      exact absurd deletes
        (not_deletes_first (orderly_at reached leads _).ascending above.entries)
    · exact ⟨le_of_deletes deletes, batch_of_deletes deletes⟩
  · rintro ⟨expired, batch⟩
    by_contra kept
    obtain ⟨before, after, split⟩ :=
      List.append_of_mem (mem_streams.mpr ⟨source, member, rfl⟩)
    have leads := cleaner.leads_afterLetters threshold pipeline before
    have above := above_at reached leads first (early expired)
    -- if the run does not remove the entry, it is there until its stream has its turn
    obtain ⟨held, final⟩ := Option.ne_none_iff_exists'.mp
      (mt (gone_iff_removes limit enabled ran first.present).mp kept)
    rw [fieldsAt?_run limit enabled ran, split] at final
    have present := fieldsAt?_of_later (afterLetters_concat threshold) before _ final
    exact kept (Or.inr ⟨before, source.stream, after, split, rfl,
      deletes_first (working_of_leads leads working) (orderly_at reached leads _).ascending
        above.entries (mem_ids_iff_fieldsAt?.mpr ⟨held, present⟩) expired batch⟩)

/-- Where no call fails, the first entry of a stream of dead letters is gone after a run if it is
not behind the cutoff. -/
theorem first_gone_iff (reached : pipeline.service.store = Store.empty.after calls)
    (limit : cleaner.threshold? now = some threshold)
    (days : cleaner.settings.retentionDays ≠ 0)
    (ran : cleaner.run? now pipeline = some (report, ended))
    (enabled : cleaner.settings.deadLetterEnabled = true) (working : pipeline.service.Working)
    {source : ConsumerSet} (member : source ∈ cleaner.consumers)
    (first : pipeline.IsFirst (cleaner.settings.deadLetterStream source.stream) id fields) :
    ended.fieldsAt? (cleaner.settings.deadLetterStream source.stream) id = none ↔
      id ≤ .cutoff threshold ∧ cleaner.settings.deleteBatch ≠ 0 :=
  (gone_iff_removes limit enabled ran first.present).trans
    (removes_first_iff reached limit days ran enabled working member first)

end

/-- The cleanup that goes with some settings. -/
def of (settings : Settings) : Cleaner :=
  ⟨settings.reading.consumers, settings.retention⟩

theorem retentionDays_of_check {settings : Settings} {zones : List Calendar.Zone}
    (accepted : settings.check zones = .ok ()) : settings.retention.retentionDays ≠ 0 := by
  intro none
  rw [Settings.check, none] at accepted
  split at accepted
  · cases accepted
  · cases checked : settings.reading.consumers.forM ConsumerSet.check with
    | error failure =>
      rw [checked] at accepted
      cases accepted
    | ok done =>
      rw [checked] at accepted
      dsimp only [bind, Except.bind] at accepted
      split at accepted <;> cases accepted

/-- With settings that pass their check, whatever time zones there are, the first entry of any
stream survives a run whatever calls fail, unless the stream is the dead-letter stream of one that
is read. If it is, whether or not it is read itself, and no call fails, the entry is gone after the
run exactly if it is not behind the cutoff and the batches of deletions are not empty. -/
theorem first_survives_iff {settings : Settings} {zones : List Calendar.Zone}
    (accepted : settings.check zones = .ok ()) {pipeline ended : Pipeline} {calls : List StoreCall}
    (reached : pipeline.service.store = Store.empty.after calls) {now threshold : Instant}
    {report : CleanupReport} (limit : (of settings).threshold? now = some threshold)
    (ran : (of settings).run? now pipeline = some (report, ended)) {stream : String}
    {id : StreamId} {fields : Fields} (first : pipeline.IsFirst stream id fields) :
    ((settings.retention.deadLetterEnabled = true → ∀ source ∈ settings.reading.consumers,
        settings.retention.deadLetterStream source.stream ≠ stream) →
      ended.fieldsAt? stream id = some fields) ∧
    (settings.retention.deadLetterEnabled = true → pipeline.service.Working →
      ∀ source ∈ settings.reading.consumers,
        settings.retention.deadLetterStream source.stream = stream →
        (ended.fieldsAt? stream id = none ↔
          id ≤ .cutoff threshold ∧ settings.retention.deleteBatch ≠ 0)) := by
  refine ⟨first_survives reached limit ran first, fun enabled working source member same => ?_⟩
  rw [← same] at first ⊢
  exact first_gone_iff reached limit (retentionDays_of_check accepted) ran enabled working member
    first

end Cleaner

/-- Settings with a consumer set on the dead-letter stream of another one. -/
def rereading : Settings where
  server := {}
  reading := { consumers :=
    [⟨"orders", "audit", "worker", 1⟩, ⟨"orders:dlq", "review", "worker", 1⟩] }

/-- Two streams with two entries each, none of them pending. -/
def rereadCalls : List StoreCall :=
  [.append 5 "orders" [("type", "first")], .append 6 "orders" [("type", "second")],
    .append 5 "orders:dlq" [("type", "first")], .append 6 "orders:dlq" [("type", "second")],
    .createGroup "orders" "audit", .createGroup "orders:dlq" "review"]

/-- A pipeline a hundred days after the entries of its streams were appended. -/
def reread : Pipeline where
  service := ⟨Store.empty.after rereadCalls, []⟩
  archive := .empty .memory
  wall := ⟨8640000, 0⟩

/-- What the cleanup leaves of the pipeline. -/
def rereadLeft : Pipeline :=
  ((Cleaner.of rereading).runFor ⟨3456000, 0⟩ reread).2

theorem check_rereading : rereading.check = .ok () := by decide

theorem threshold_rereading :
    (Cleaner.of rereading).threshold? ⟨8640000, 0⟩ = some ⟨3456000, 0⟩ := by decide

theorem run_rereading : (Cleaner.of rereading).run? ⟨8640000, 0⟩ reread =
    some (((Cleaner.of rereading).runFor ⟨3456000, 0⟩ reread).1, rereadLeft) :=
  congrArg (Option.map fun threshold => (Cleaner.of rereading).runFor threshold reread)
    threshold_rereading

theorem first_reread {stream : String} (listed : stream = "orders" ∨ stream = "orders:dlq") :
    reread.IsFirst stream ⟨5, 0⟩ (.ofList [("type", "first")]) := by
  have ids : ((reread.service.store.content? stream).getD .empty).entries.ids =
      [⟨5, 0⟩, ⟨6, 0⟩] := by
    rcases listed with rfl | rfl <;> rfl
  refine ⟨by rcases listed with rfl | rfl <;> rfl, fun other held present => ?_⟩
  have member := Cleaner.mem_ids_iff_fieldsAt?.mpr ⟨held, present⟩
  rw [ids, List.mem_pair] at member
  rcases member with rfl | rfl <;> decide

/-- The stream that holds no dead letters keeps its first entry. -/
theorem first_order_survives :
    rereading.check = .ok () ∧
      (Cleaner.of rereading).threshold? ⟨8640000, 0⟩ = some ⟨3456000, 0⟩ ∧
      (Cleaner.of rereading).run? ⟨8640000, 0⟩ reread =
        some (((Cleaner.of rereading).runFor ⟨3456000, 0⟩ reread).1, rereadLeft) ∧
      reread.IsFirst "orders" ⟨5, 0⟩ (.ofList [("type", "first")]) ∧
      rereadLeft.fieldsAt? "orders" ⟨5, 0⟩ = some (.ofList [("type", "first")]) := by
  have first := first_reread (Or.inl rfl)
  have reached : reread.service.store = Store.empty.after rereadCalls := rfl
  have survives := Cleaner.first_survives_iff check_rereading reached threshold_rereading
    run_rereading first
  refine ⟨check_rereading, threshold_rereading, run_rereading, first, survives.1 ?_⟩
  decide

/-- The stream of dead letters that is read itself is emptied, although no call fails. -/
theorem letters_are_emptied :
    rereading.check = .ok () ∧ reread.service.Working ∧
      (⟨"orders:dlq", "review", "worker", 1⟩ : ConsumerSet) ∈ rereading.reading.consumers ∧
      reread.service.store.size "orders:dlq" = 2 ∧
      rereadLeft.service.store.size "orders:dlq" = 0 ∧
      ¬ ∀ (settings : Settings) (pipeline ended : Pipeline) (calls : List StoreCall)
        (now : Instant) (report : CleanupReport), settings.check = .ok () →
        pipeline.service.store = Store.empty.after calls →
        (Cleaner.of settings).run? now pipeline = some (report, ended) →
        ∀ set ∈ settings.reading.consumers, ∀ id fields,
          pipeline.IsFirst set.stream id fields → ended.fieldsAt? set.stream id = some fields := by
  have listed : (⟨"orders:dlq", "review", "worker", 1⟩ : ConsumerSet) ∈
      rereading.reading.consumers := List.mem_cons_of_mem _ List.mem_cons_self
  refine ⟨check_rereading, ⟨rfl, rfl⟩, listed, rfl, rfl, fun survives => ?_⟩
  have kept := survives rereading reread rereadLeft rereadCalls ⟨8640000, 0⟩ _ check_rereading rfl
    run_rereading _ listed ⟨5, 0⟩ _ (first_reread (Or.inr rfl))
  have gone : rereadLeft.fieldsAt? "orders:dlq" ⟨5, 0⟩ = none := rfl
  rw [gone] at kept
  cases kept

end Retention

end AccessFeed
