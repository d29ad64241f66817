/-
This file proves what the turn of a consumer set does, copy by copy.

The turn takes the first pending entries of a group and copies them one after
the other. Whichever of these copies fail, the others are all that leaves the
pending list, and each of them whose entry is still there has one letter behind
the letters that were there, in the order of the entries. A letter has the
fields of its entry, its own five apart: the store keeps fields in the order of
their names, so that writing them once more changes none of them.
-/

import AccessFeed.Proofs.Expiry
import AccessFeed.Proofs.Publications

namespace AccessFeed

/-! ### Fields in order -/

namespace Streams

namespace Fields

/-- Whether the names of fields ascend. -/
def Ordered (fields : Fields) : Prop :=
  fields.entries.Pairwise fun first second => first.1 < second.1

variable {fields : Fields}

theorem mem_insertEntry {name value : String} {entry : String × String}
    {entries : List (String × String)} (member : entry ∈ insertEntry name value entries) :
    entry = (name, value) ∨ entry ∈ entries := by
  induction entries with
  | nil => exact Or.inl (List.mem_singleton.mp member)
  | cons head rest inductionHypothesis =>
    obtain ⟨other, held⟩ := head
    rw [insertEntry] at member
    split at member
    · exact (List.mem_cons.mp member).imp_right (List.mem_cons_of_mem _)
    · split at member
      · exact List.mem_cons.mp member
      · rcases List.mem_cons.mp member with same | later
        · exact Or.inr (same ▸ List.mem_cons_self)
        · exact (inductionHypothesis later).imp_right (List.mem_cons_of_mem _)

theorem Ordered.insert (ordered : fields.Ordered) (name value : String) :
    (fields.insert name value).Ordered := by
  obtain ⟨entries⟩ := fields
  induction entries with
  | nil => exact List.pairwise_singleton _ _
  | cons entry rest inductionHypothesis =>
    obtain ⟨other, held⟩ := entry
    obtain ⟨first, others⟩ := List.pairwise_cons.mp ordered
    show (insertEntry name value ((other, held) :: rest)).Pairwise fun first second =>
      first.1 < second.1
    rw [insertEntry]
    split
    · rename_i same
      exact List.pairwise_cons.mpr ⟨fun entry later => same ▸ first entry later, others⟩
    · rename_i different
      split
      · rename_i less
        refine List.pairwise_cons.mpr ⟨fun entry member => ?_, ordered⟩
        rcases List.mem_cons.mp member with same | later
        · exact same ▸ less
        · exact String.lt_trans less (first entry later)
      · rename_i notLess
        refine List.pairwise_cons.mpr ⟨fun entry member => ?_, inductionHypothesis others⟩
        rcases mem_insertEntry member with same | later
        · rw [same]
          by_contra notMore
          exact different
            (String.le_antisymm (String.not_lt.mp notMore) (String.not_lt.mp notLess))
        · exact first entry later

/-- Fields given by a list are in order. -/
theorem ordered_ofList (entries : List (String × String)) : (ofList entries).Ordered := by
  have start : empty.Ordered := List.Pairwise.nil
  rw [ofList]
  generalize empty = fields at start ⊢
  induction entries generalizing fields with
  | nil => exact start
  | cons entry rest inductionHypothesis =>
    exact inductionHypothesis _ (start.insert entry.1 entry.2)

theorem Ordered.distinct (ordered : fields.Ordered) : (fields.entries.map Prod.fst).Nodup := by
  refine (List.pairwise_map.mpr ordered).imp ?_
  rintro first second less rfl
  exact String.lt_irrefl first less

theorem lookup?_eq_none_iff {name : String} {entries : List (String × String)} :
    lookup? name entries = none ↔ name ∉ entries.map Prod.fst := by
  induction entries with
  | nil => simp [lookup?]
  | cons entry rest inductionHypothesis =>
    obtain ⟨other, present⟩ := entry
    rw [lookup?, List.map_cons, List.mem_cons, not_or, ← inductionHypothesis]
    by_cases same : name = other <;> simp [same]

theorem mem_of_lookup? {name value : String} {entries : List (String × String)}
    (held : lookup? name entries = some value) : (name, value) ∈ entries := by
  induction entries with
  | nil => cases held
  | cons entry rest inductionHypothesis =>
    obtain ⟨other, present⟩ := entry
    rw [lookup?] at held
    split at held
    · rename_i same
      rw [same, Option.some.inj held]
      exact List.mem_cons_self
    · exact List.mem_cons_of_mem _ (inductionHypothesis held)

/-- Fields in order are what their entries give. -/
theorem Ordered.get?_ofList (ordered : fields.Ordered) (name : String) :
    (ofList fields.entries).get? name = fields.get? name := by
  cases held : fields.get? name with
  | some value => exact get?_ofList_of_mem ordered.distinct (mem_of_lookup? held)
  | none => exact get?_foldl_of_absent (lookup?_eq_none_iff.mp held) empty

/-- What is added to fields in order leaves the fields of other names as they are. -/
theorem Ordered.get?_ofList_append (ordered : fields.Ordered) {more : List (String × String)}
    {name : String} (other : name ∉ more.map Prod.fst) :
    (ofList (fields.entries ++ more)).get? name = fields.get? name := by
  rw [ofList, List.foldl_append, get?_foldl_of_absent other]
  exact ordered.get?_ofList name

/-- Of fields given by two lists, those of the second have the values listed there. -/
theorem get?_ofList_append_of_mem {first more : List (String × String)}
    (distinct : (more.map Prod.fst).Nodup) {name value : String}
    (member : (name, value) ∈ more) : (ofList (first ++ more)).get? name = some value := by
  obtain ⟨before, after, rfl⟩ := List.append_of_mem member
  rw [List.map_append, List.map_cons, List.nodup_append, List.nodup_cons] at distinct
  rw [← List.append_assoc, ofList, List.foldl_append, List.foldl_cons,
    get?_foldl_of_absent distinct.2.1.1, get?_insert_self]

end Fields

/-- Whether the fields of all entries of a stream are in order. -/
def Legible (held : Option Content) : Prop :=
  ∀ entry ∈ (held.getD .empty).entries.entries, entry.2.Ordered

theorem Legible.effect {held : Option Content} (legible : Legible held) (call : StoreCall) :
    Legible (call.effect held) := by
  have insert (id : StreamId) (fields : List (String × String)) :
      ∀ entry ∈ ((held.getD .empty).entries.insert id (.ofList fields)).entries,
        entry.2.Ordered := by
    intro entry member
    rcases IdMap.mem_of_mem_insertEntry member with rfl | earlier
    · exact Fields.ordered_ofList fields
    · exact legible entry earlier
  cases call with
  | append now stream fields => exact insert _ fields
  | appendWithId stream id fields =>
    rw [StoreCall.effect]
    split
    · exact legible
    · exact insert id fields
  | createGroup stream group =>
    cases held with
    | none => exact legible
    | some content =>
      rw [StoreCall.effect, Option.map_some]
      split <;> exact legible
  | readGroup stream group consumer offset count =>
    cases held with
    | none => exact legible
    | some content =>
      rw [Legible, StoreCall.effect, Option.map_some, Option.getD_some, Store.entries_changeGroup]
      exact legible
  | acknowledge stream group ids =>
    cases held with
    | none => exact legible
    | some content =>
      rw [Legible, StoreCall.effect, Option.map_some, Option.getD_some, Store.entries_changeGroup]
      exact legible
  | delete stream ids =>
    cases held with
    | none => exact legible
    | some content =>
      intro entry member
      have left : entry ∈ (content.entries.eraseAll ids).2.entries := member
      rw [IdMap.entries_eraseAll] at left
      exact legible entry (List.mem_filter.mp left).1
  | hasStream | groupNames | pending | range | cluster | inject | clear | setClusterState =>
    exact legible

/-- The fields of every entry are in order in whatever store calls lead to. -/
theorem legible_after (calls : List StoreCall) (stream : String) :
    Legible ((Store.empty.after calls).content? stream) :=
  Store.content?_after (fun call _ _ _ legible => legible.effect call)
    (fun _ member => absurd member List.not_mem_nil)

end Streams

/-! ### Calls that no outage concerns -/

namespace Outage

variable {Method Error : Type} [DecidableEq Method] {method other : Method}
  {target aim : Option String}

theorem concerns_spend {outage : Outage Method Error}
    (unconcerned : outage.concerns method target = false) :
    outage.spend.concerns method target = false := by
  obtain ⟨own, place, error, reprieve, remaining⟩ := outage
  cases remaining with
  | none => exact unconcerned
  | some number =>
    simp only [concerns, spend, Option.map_some] at unconcerned ⊢
    cases number with
    | zero => exact unconcerned
    | succ number =>
      rw [show (some (number + 1) != some 0) = true from rfl, Bool.and_true] at unconcerned
      rw [unconcerned, Bool.false_and]

/-- A plan that does not concern a call does not after another one either. -/
theorem unconcerned_meet {plan : List (Outage Method Error)}
    (unconcerned : ∀ outage ∈ plan, outage.concerns other aim = false) :
    ∀ outage ∈ (meet method target plan).2, outage.concerns other aim = false := by
  induction plan with
  | nil => exact unconcerned
  | cons first rest inductionHypothesis =>
    obtain ⟨own, others⟩ := List.forall_mem_cons.mp unconcerned
    rw [meet]
    split
    · split
      · exact List.forall_mem_cons.mpr ⟨concerns_spend own, others⟩
      · exact List.forall_mem_cons.mpr ⟨own, inductionHypothesis others⟩
    · exact List.forall_mem_cons.mpr ⟨own, inductionHypothesis others⟩

end Outage

namespace Streams.Service

/-- Whether no outage of a service concerns a call of some kind on a stream. -/
def Answers (service : Service) (method : StoreMethod) (stream : String) : Prop :=
  ∀ outage ∈ service.outages, outage.concerns method (some stream) = false

variable {service : Service} {method other : StoreMethod} {stream : String}

theorem answers_of_working (working : service.Working) (method : StoreMethod) (stream : String) :
    service.Answers method stream := by
  rw [Answers, working.1]
  exact fun _ never => absurd never List.not_mem_nil

theorem call_of_answers {Value : Type} (answers : service.Answers method stream)
    (operation : Store → Answer Value) :
    service.call method (some stream) operation =
      ((operation service.store).1, ⟨(operation service.store).2, service.outages⟩) := by
  rw [call, Outage.meet_of_unconcerned answers]

theorem Answers.call {Value : Type} (answers : service.Answers method stream)
    (target : Option String) (operation : Store → Answer Value) :
    (service.call other target operation).2.Answers method stream := by
  have unconcerned := @Outage.unconcerned_meet StoreMethod StoreError _ other method target
    (some stream) service.outages answers
  rw [Service.call]
  generalize Outage.meet other target service.outages = met at unconcerned ⊢
  obtain ⟨error, outages⟩ := met
  cases error <;> exact unconcerned

/-- An operation that leaves a store failing or working does so behind a plan of outages. -/
theorem failure_call {Value : Type} (service : Service) (method : StoreMethod)
    (target : Option String) {operation : Store → Answer Value}
    (kept : (operation service.store).2.failure = service.store.failure) :
    (service.call method target operation).2.store.failure = service.store.failure := by
  rcases service.call_cases method target operation with ⟨_, _, store⟩ | ⟨_, store⟩
  · rw [store]
  · rw [store, kept]

end Streams.Service

/-! ### Copies -/

open Streams (Content Fields IdMap Legible PendingEntry Record Store StoreCall StoreError
  StoreMethod StreamId)

namespace Retention

open Calendar (Instant)
open Settings (ConsumerSet)

/-- Whether from one moment to another the time did not change, nor whether the store fails, nor
did an outage come to concern a call. -/
structure Steady (before after : Pipeline) : Prop where
  wall : after.wall = before.wall
  failure : after.service.store.failure = before.service.store.failure
  answers : ∀ method stream, before.service.Answers method stream →
    after.service.Answers method stream

theorem Steady.trans {first second third : Pipeline} (left : Steady first second)
    (right : Steady second third) : Steady first third where
  wall := right.wall.trans left.wall
  failure := right.failure.trans left.failure
  answers := fun method stream answers =>
    right.answers method stream (left.answers method stream answers)

/-- A request that comes to a call on the store by which no failure comes or goes. -/
theorem Steady.ask {Value : Type} {before after : Pipeline} {method : StoreMethod}
    {target : Option String} {operation : Store → Streams.Answer Value}
    {answer : Except StoreError Value} (call : StoreCall)
    (asked : before.ask (fun service => service.call method target operation) = (answer, after))
    (same : ∀ store, (operation store).2 = (call.perform store).2)
    (injects : ∀ error, call ≠ .inject error) (clears : call ≠ .clear) :
    Steady before after := by
  obtain ⟨-, rfl⟩ := Pipeline.of_ask asked
  refine ⟨rfl, before.service.failure_call method target ?_,
    fun _ _ answers => answers.call target operation⟩
  rw [same]
  exact StoreCall.failure_perform _ injects clears

namespace Cleaner

/-- How copying a pending entry may come out: it fails or the entry is gone, and no stream changes,
or a letter with the fields of the entry is appended to the dead letters. -/
inductive Copied (cleaner : Cleaner) (stream group : String) (entry : PendingEntry)
    (before : Pipeline) : Except StoreError Bool × Pipeline → Prop
  | failed {after : Pipeline} (error : StoreError)
    (same : ∀ other, after.service.store.content? other = before.service.store.content? other) :
    Copied cleaner stream group entry before (.error error, after)
  | gone {after : Pipeline} (absent : before.fieldsAt? stream entry.id = none)
    (same : ∀ other, after.service.store.content? other = before.service.store.content? other) :
    Copied cleaner stream group entry before (.ok false, after)
  | made {after : Pipeline} {fields : Fields}
    (present : before.fieldsAt? stream entry.id = some fields)
    (changed : ∀ other, after.service.store.content? other =
      if other = cleaner.settings.deadLetterStream stream then
        some ((cleaner.letters before stream).add (cleaner.nextLetter before stream)
          (.ofList (deadLetterFields ⟨stream, entry.id, fields⟩ group entry before.wall)))
      else before.service.store.content? other) :
    Copied cleaner stream group entry before (.ok true, after)

theorem listed_single {store : Store} {stream : String}
    (ascending : ((store.content? stream).getD .empty).entries.Ascending) (id : StreamId) :
    store.listed stream id id 1 =
      (store.fieldsAt? stream id).toList.map fun fields => ⟨stream, id, fields⟩ := by
  rw [Store.listed, Store.fieldsAt?]
  cases present : store.content? stream with
  | none => rfl
  | some content =>
    rw [present, Option.getD_some] at ascending
    dsimp only [Option.bind_some]
    rw [ascending.between_self]
    cases content.entries.get? id <;> rfl

theorem copied_deadLetter (cleaner : Cleaner) {stream : String} (group : String)
    (entry : PendingEntry) {pipeline : Pipeline}
    (ascending : ((pipeline.service.store.content? stream).getD .empty).entries.Ascending) :
    Steady pipeline (cleaner.deadLetter stream group entry pipeline).2 ∧
      cleaner.Copied stream group entry pipeline
        (cleaner.deadLetter stream group entry pipeline) := by
  rw [deadLetter]
  generalize asked : pipeline.ask (fun service =>
    service.range stream entry.id entry.id 1) = read
  obtain ⟨answer, reached⟩ := read
  have looked : Steady pipeline reached :=
    Steady.ask (.range ..) asked (fun _ => rfl) (fun _ => by simp) (by simp)
  obtain ⟨told, reachedEq⟩ := Pipeline.of_ask asked
  obtain ⟨same, answers⟩ := pipeline.service.range_cases stream entry.id entry.id 1
  have store : reached.service.store = pipeline.service.store := by rw [reachedEq, same]
  rw [told, listed_single ascending] at answers
  cases answer with
  | error error => exact ⟨looked, .failed error fun other => by rw [store]⟩
  | ok records =>
    obtain rfl := Except.ok.inj (answers.resolve_left (by rintro ⟨_, impossible⟩; cases impossible))
    cases found : pipeline.service.store.fieldsAt? stream entry.id with
    | none => exact ⟨looked, .gone found fun other => by rw [store]⟩
    | some fields =>
      rw [Option.toList_some, List.map_singleton]
      dsimp only
      generalize appended : reached.ask (fun service =>
        service.append reached.wallMillis (cleaner.settings.deadLetterStream stream)
          (deadLetterFields ⟨stream, entry.id, fields⟩ group entry reached.wall)) = made
      obtain ⟨answer, after⟩ := made
      have added : Steady reached after :=
        Steady.ask (.append ..) appended (fun _ => rfl) (fun _ => by simp) (by simp)
      obtain ⟨told, afterEq⟩ := Pipeline.of_ask appended
      rcases reached.service.append_cases reached.wallMillis
        (cleaner.settings.deadLetterStream stream)
        (deadLetterFields ⟨stream, entry.id, fields⟩ group entry reached.wall) with
        ⟨error, failed, kept⟩ | ⟨made, changed⟩
      · obtain rfl := failed.symm.trans told
        exact ⟨looked.trans added, .failed error fun other => by rw [afterEq, kept, store]⟩
      · obtain rfl := made.symm.trans told
        rw [store, Pipeline.wallMillis, looked.wall] at changed
        refine ⟨looked.trans added, .made found fun other => ?_⟩
        rw [afterEq]
        dsimp only
        rw [Pipeline.wallMillis, looked.wall]
        exact changed other

/-- The error that copying a pending entry meets: that of its read, or that of the append, which is
only made if the entry is there. -/
def refusal? (cleaner : Cleaner) (stream : String) (entry : PendingEntry) (pipeline : Pipeline) :
    Option StoreError :=
  match Outage.meet .range (some stream) pipeline.service.outages with
  | (some error, _) => some error
  | (none, outages) =>
    if (pipeline.fieldsAt? stream entry.id).isSome then
      (Outage.meet .append (some (cleaner.settings.deadLetterStream stream)) outages).1
    else none

/-- Of a store that is not failing, a copy fails only with the error of a call it made. -/
theorem error_deadLetter_iff (cleaner : Cleaner) {stream : String} (group : String)
    (entry : PendingEntry) {pipeline : Pipeline}
    (working : pipeline.service.store.failure = none)
    (ascending : ((pipeline.service.store.content? stream).getD .empty).entries.Ascending)
    (error : StoreError) :
    (cleaner.deadLetter stream group entry pipeline).1 = .error error ↔
      cleaner.refusal? stream entry pipeline = some error := by
  rw [deadLetter, refusal?, Pipeline.fieldsAt?, Pipeline.ask, Streams.Service.range,
    Streams.Service.call]
  generalize Outage.meet .range (some stream) pipeline.service.outages = read
  obtain ⟨refused, outages⟩ := read
  cases refused with
  | some error => exact ⟨fun told => (by cases told; rfl), fun told => (by cases told; rfl)⟩
  | none =>
    dsimp only
    rw [Store.range_of_working working, listed_single ascending]
    cases pipeline.service.store.fieldsAt? stream entry.id with
    | none => simp
    | some fields =>
      rw [Option.toList_some, List.map_singleton, Option.isSome_some, if_pos rfl]
      dsimp only
      rw [Pipeline.ask, Streams.Service.append, Streams.Service.call]
      generalize Outage.meet .append (some (cleaner.settings.deadLetterStream stream)) outages =
        added
      obtain ⟨refused, outages⟩ := added
      cases refused with
      | some error => exact ⟨fun told => (by cases told; rfl), fun told => (by cases told; rfl)⟩
      | none =>
        dsimp only
        rw [Store.append, Store.guarded_of_working working]
        simp

/-! ### Copies one after the other -/

/-- A pending entry, and what copying it came to. -/
structure Copy where
  entry : PendingEntry
  answer : Except StoreError Bool

/-- Whether copying did not fail, so that the entry is acknowledged. -/
def Copy.succeeded (copy : Copy) : Bool :=
  copy.answer.toBool

/-- Whether a letter was written. -/
def Copy.written (copy : Copy) : Bool :=
  copy.answer.toOption == some true

/-- What copying some pending entries one after the other comes to. -/
def copies (cleaner : Cleaner) (stream group : String) : List PendingEntry → Pipeline → List Copy
  | [], _ => []
  | entry :: rest, pipeline =>
    ⟨entry, (cleaner.deadLetter stream group entry pipeline).1⟩ ::
      copies cleaner stream group rest (cleaner.deadLetterAll stream group [entry] pipeline).2

/-- The names of the fields that a letter has besides those of its entry. -/
def letterNames : List String :=
  [deadLetterNames.sourceId, deadLetterNames.group, deadLetterNames.consumer,
    deadLetterNames.deliveries, deadLetterNames.movedAt]

theorem distinct_letterNames : letterNames.Nodup := by decide

/-- Whether fields are those of the letter of a pending entry: the ones of its entry as they are at
some moment, but for the five of letters, which tell where it comes from. -/
structure LetterOf (pipeline : Pipeline) (stream group : String) (entry : PendingEntry)
    (letter : Fields) : Prop where
  source : ∃ fields, pipeline.fieldsAt? stream entry.id = some fields ∧
    ∀ name, name ∉ letterNames → letter.get? name = fields.get? name
  sourceId : letter.get? deadLetterNames.sourceId = some entry.id.display
  group : letter.get? deadLetterNames.group = some group
  consumer : letter.get? deadLetterNames.consumer = some entry.consumer
  deliveries : letter.get? deadLetterNames.deliveries = some (Text.decimal entry.deliveries)
  movedAt : letter.get? deadLetterNames.movedAt = some (pipeline.wall.stamp 0 .asNeeded)

/-- A letter has its own fields, whatever those of its entry are. -/
theorem get?_deadLetterFields {record : Record} {group : String} {entry : PendingEntry}
    {now : Instant} {name value : String}
    (member : (name, value) ∈ (deadLetterFields record group entry now).drop
      record.fields.entries.length) :
    (Fields.ofList (deadLetterFields record group entry now)).get? name = some value := by
  rw [deadLetterFields, List.drop_left] at member
  refine Fields.get?_ofList_append_of_mem ?_ member
  exact distinct_letterNames

theorem letterOf_deadLetterFields {pipeline : Pipeline} {stream : String} (group : String)
    {entry : PendingEntry} {fields : Fields} (ordered : fields.Ordered)
    (present : pipeline.fieldsAt? stream entry.id = some fields) :
    LetterOf pipeline stream group entry
      (.ofList (deadLetterFields ⟨stream, entry.id, fields⟩ group entry pipeline.wall)) where
  source := ⟨fields, present, fun name other => ordered.get?_ofList_append other⟩
  sourceId := get?_deadLetterFields (by simp [deadLetterFields])
  group := get?_deadLetterFields (by simp [deadLetterFields])
  consumer := get?_deadLetterFields (by simp [deadLetterFields])
  deliveries := get?_deadLetterFields (by simp [deadLetterFields])
  movedAt := get?_deadLetterFields (by simp [deadLetterFields])

/-- A letter that is there stays there. -/
theorem mem_letters_deadLetterAll (cleaner : Cleaner) (stream group : String)
    (entries : List PendingEntry) {pipeline : Pipeline} {id : StreamId}
    (present : id ∈ (cleaner.letters pipeline stream).entries.ids) :
    id ∈ (cleaner.letters (cleaner.deadLetterAll stream group entries pipeline).2
      stream).entries.ids := by
  induction entries generalizing pipeline with
  | nil => exact present
  | cons entry rest inductionHypothesis =>
    rw [← List.singleton_append, deadLetterAll_append]
    refine inductionHypothesis ?_
    obtain ⟨fields, held⟩ := mem_ids_iff_fieldsAt?.mp present
    refine mem_ids_iff_fieldsAt?.mpr ?_
    rw [fieldsAt?_deadLetterAll_singleton]
    rcases cleaner.deadLetter_cases stream group entry pipeline with
      ⟨_, same⟩ | ⟨_, letter, _, told⟩
    · exact ⟨fields, (same _ id).trans held⟩
    · rw [told]
      split
      · exact ⟨letter, rfl⟩
      · exact ⟨fields, held⟩

/-- Whether from one moment to another the letters of some copies were written behind those that
were there, in the order of the copies, and nothing else was. -/
structure Writes (cleaner : Cleaner) (stream group : String) (copies : List Copy)
    (before after : Pipeline) : Prop extends Steady before after where
  letters : ∃ written : List (StreamId × Fields),
    (cleaner.letters after stream).entries.entries =
      (cleaner.letters before stream).entries.entries ++ written ∧
    List.Forall₂ (fun copy letter => LetterOf before stream group copy.entry letter.2)
      (copies.filter Copy.written) written
  sound : (cleaner.letters after stream).Sound
  groups : (cleaner.letters after stream).groups = (cleaner.letters before stream).groups
  others : ∀ other, other ≠ cleaner.settings.deadLetterStream stream →
    after.service.store.content? other = before.service.store.content? other

variable {cleaner : Cleaner} {stream group : String}

theorem letters_eq {before after : Pipeline}
    (same : ∀ other, after.service.store.content? other = before.service.store.content? other) :
    cleaner.letters after stream = cleaner.letters before stream := by
  rw [letters, letters, same]

theorem Writes.of_same {copies : List Copy} {before after : Pipeline}
    (steady : Steady before after) (sound : (cleaner.letters before stream).Sound)
    (none : copies.filter Copy.written = [])
    (same : ∀ other, after.service.store.content? other = before.service.store.content? other) :
    cleaner.Writes stream group copies before after where
  toSteady := steady
  letters := ⟨[], by rw [letters_eq same, List.append_nil], by rw [none]; exact .nil⟩
  sound := letters_eq same ▸ sound
  groups := by rw [letters_eq same]
  others := fun other _ => same other

theorem Writes.trans (apart : stream ≠ cleaner.settings.deadLetterStream stream)
    {copies more : List Copy} {first second third : Pipeline}
    (left : cleaner.Writes stream group copies first second)
    (right : cleaner.Writes stream group more second third) :
    cleaner.Writes stream group (copies ++ more) first third where
  toSteady := left.toSteady.trans right.toSteady
  letters := by
    obtain ⟨written, behind, listed⟩ := left.letters
    obtain ⟨added, further, others⟩ := right.letters
    refine ⟨written ++ added, by rw [further, behind, List.append_assoc], ?_⟩
    rw [List.filter_append]
    refine List.rel_append listed (others.imp fun copy letter letterOf => ?_)
    -- neither the entries of the stream nor the time changed meanwhile
    have same (id : StreamId) : second.fieldsAt? stream id = first.fieldsAt? stream id :=
      Store.fieldsAt?_congr (left.others stream apart) id
    exact { letterOf with
      source := by
        rw [← same]
        exact letterOf.source
      movedAt := by
        rw [← left.wall]
        exact letterOf.movedAt }
  sound := right.sound
  groups := right.groups.trans left.groups
  others := fun other foreign => (right.others other foreign).trans (left.others other foreign)

/-- What becomes of copying a pending entry, the failure being written down. -/
theorem copied_deadLetterAll_singleton (cleaner : Cleaner) (group : String)
    (entry : PendingEntry) {pipeline : Pipeline}
    (ascending : ((pipeline.service.store.content? stream).getD .empty).entries.Ascending) :
    Steady pipeline (cleaner.deadLetterAll stream group [entry] pipeline).2 ∧
      cleaner.Copied stream group entry pipeline
        ((cleaner.deadLetter stream group entry pipeline).1,
          (cleaner.deadLetterAll stream group [entry] pipeline).2) := by
  obtain ⟨steady, copied⟩ := cleaner.copied_deadLetter group entry ascending
  rw [deadLetterAll]
  generalize cleaner.deadLetter stream group entry pipeline = answer at steady copied ⊢
  cases copied with
  | failed error same => exact ⟨⟨steady.wall, steady.failure, steady.answers⟩, .failed error same⟩
  | gone absent same => exact ⟨steady, .gone absent same⟩
  | made present changed => exact ⟨steady, .made present changed⟩

/-- A copy that does not fail writes a letter exactly if the entry is there. -/
theorem writes_deadLetterAll_singleton (cleaner : Cleaner) (group : String) (entry : PendingEntry)
    {pipeline : Pipeline}
    (ascending : ((pipeline.service.store.content? stream).getD .empty).entries.Ascending)
    (legible : Legible (pipeline.service.store.content? stream))
    (sound : (cleaner.letters pipeline stream).Sound)
    (short : .greatest ∉ (cleaner.letters (cleaner.deadLetterAll stream group [entry] pipeline).2
      stream).entries.ids) :
    cleaner.Writes stream group [⟨entry, (cleaner.deadLetter stream group entry pipeline).1⟩]
        pipeline (cleaner.deadLetterAll stream group [entry] pipeline).2 ∧
      ∀ there, (cleaner.deadLetter stream group entry pipeline).1 = .ok there →
        there = (pipeline.fieldsAt? stream entry.id).isSome := by
  obtain ⟨steady, copied⟩ := cleaner.copied_deadLetterAll_singleton group entry ascending
  generalize (cleaner.deadLetter stream group entry pipeline).1 = answer at copied ⊢
  generalize (cleaner.deadLetterAll stream group [entry] pipeline).2 = after
    at steady copied short ⊢
  cases copied with
  | failed error same =>
    exact ⟨.of_same steady sound rfl same, fun there impossible => by cases impossible⟩
  | gone absent same =>
    refine ⟨.of_same steady sound rfl same, fun there told => ?_⟩
    rw [absent, ← Except.ok.inj told]
    rfl
  | @made _ fields present changed =>
    refine ⟨?_, fun there told => by rw [present, ← Except.ok.inj told]; rfl⟩
    have added : cleaner.letters after stream = (cleaner.letters pipeline stream).add
        (cleaner.nextLetter pipeline stream)
        (.ofList (deadLetterFields ⟨stream, entry.id, fields⟩ group entry pipeline.wall)) := by
      rw [letters, changed, if_pos rfl, Option.getD_some]
    have next := Content.lt_nextId sound.unexhausted pipeline.wallMillis
    have below : cleaner.nextLetter pipeline stream ≠ .greatest := by
      intro greatest
      rw [added] at short
      exact short (IdMap.mem_ids_insert.mpr (Or.inl greatest.symm))
    have ordered : fields.Ordered := by
      rw [Pipeline.fieldsAt?, Store.fieldsAt?_eq] at present
      exact legible _ (IdMap.mem_of_get? present)
    exact {
      toSteady := steady
      letters := by
        refine ⟨[(cleaner.nextLetter pipeline stream, _)], ?_,
          .cons (letterOf_deadLetterFields group ordered present) .nil⟩
        rw [added]
        refine IdMap.entries_insert_of_behind (fun other member => ?_) _
        exact StreamId.lt_of_le_of_lt (sound.bounded other member) next
      sound := by
        rw [added]
        exact sound.add next below _
      groups := by
        rw [added]
        rfl
      others := fun other foreign => (changed other).trans (if_neg foreign) }

theorem deadLetterAll_cons (cleaner : Cleaner) (stream group : String) (entry : PendingEntry)
    (rest : List PendingEntry) (pipeline : Pipeline) :
    let copy : Copy := ⟨entry, (cleaner.deadLetter stream group entry pipeline).1⟩
    let others := cleaner.deadLetterAll stream group rest
      (cleaner.deadLetterAll stream group [entry] pipeline).2
    cleaner.deadLetterAll stream group (entry :: rest) pipeline =
      (((if copy.succeeded then [entry.id] else []) ++ others.1.1,
        (if copy.written then 1 else 0) + others.1.2), others.2) := by
  dsimp only
  rw [deadLetterAll, deadLetterAll]
  generalize cleaner.deadLetter stream group entry pipeline = answer
  obtain ⟨answer, after⟩ := answer
  cases answer with
  | error error =>
    simp [Copy.succeeded, Copy.written, Except.toBool, Except.toOption, deadLetterAll]
  | ok copied => cases copied <;> rfl

/-- Copying pending entries writes the letters of those copies that do not fail and whose entries
are there, and answers which entries can be acknowledged. A copy fails only with the error that it
meets itself. -/
theorem writes_deadLetterAll (apart : stream ≠ cleaner.settings.deadLetterStream stream)
    (group : String) (entries : List PendingEntry) {pipeline : Pipeline}
    (working : pipeline.service.store.failure = none)
    (ascending : ((pipeline.service.store.content? stream).getD .empty).entries.Ascending)
    (legible : Legible (pipeline.service.store.content? stream))
    (sound : (cleaner.letters pipeline stream).Sound)
    (short : .greatest ∉ (cleaner.letters (cleaner.deadLetterAll stream group entries pipeline).2
      stream).entries.ids) :
    let copies := cleaner.copies stream group entries pipeline
    let done := cleaner.deadLetterAll stream group entries pipeline
    cleaner.Writes stream group copies pipeline done.2 ∧
      done.1 = ((copies.filter Copy.succeeded).map (·.entry.id),
        (copies.filter Copy.written).length) ∧
      copies.map Copy.entry = entries ∧
      (∀ copy ∈ copies, ∀ there, copy.answer = .ok there →
        there = (pipeline.fieldsAt? stream copy.entry.id).isSome) ∧
      ∀ number copy, copies[number]? = some copy → ∀ error, copy.answer = .error error ↔
        cleaner.refusal? stream copy.entry
          (cleaner.deadLetterAll stream group (entries.take number) pipeline).2 = some error := by
  induction entries generalizing pipeline with
  | nil =>
    exact ⟨.of_same ⟨rfl, rfl, fun _ _ => id⟩ sound rfl fun _ => rfl, rfl, rfl,
      fun _ never => absurd never List.not_mem_nil, fun _ _ impossible => by cases impossible⟩
  | cons entry rest inductionHypothesis =>
    have refused := cleaner.error_deadLetter_iff group entry working ascending
    have further (number : Nat) : (cleaner.deadLetterAll stream group
        ((entry :: rest).take (number + 1)) pipeline).2 =
          (cleaner.deadLetterAll stream group (rest.take number)
            (cleaner.deadLetterAll stream group [entry] pipeline).2).2 := by
      rw [List.take_succ_cons, deadLetterAll_cons]
    rw [deadLetterAll_cons] at short ⊢
    rw [copies]
    obtain ⟨one, told⟩ := cleaner.writes_deadLetterAll_singleton group entry ascending legible
      sound fun early => short (cleaner.mem_letters_deadLetterAll stream group rest early)
    have same := one.others stream apart
    generalize (cleaner.deadLetterAll stream group [entry] pipeline).2 = reached
      at one same short further ⊢
    obtain ⟨more, released, listed, others, failing⟩ := @inductionHypothesis reached
      (one.failure.trans working) (same ▸ ascending) (same ▸ legible) one.sound short
    dsimp only at more released short failing ⊢
    refine ⟨one.trans apart more, ?_, congrArg (List.cons entry) listed, ?_, ?_⟩
    · rw [released, List.filter_cons, List.filter_cons]
      refine congrArg₂ Prod.mk ?_ ?_
      · split <;> rfl
      · split
        · exact Nat.add_comm _ _
        · exact Nat.zero_add _
    · refine List.forall_mem_cons.mpr ⟨told, fun copy member there answered => ?_⟩
      rw [others copy member there answered]
      exact congrArg Option.isSome (Store.fieldsAt?_congr same copy.entry.id)
    · intro number copy present
      cases number with
      | zero =>
        obtain rfl := Option.some.inj present
        exact refused
      | succ number =>
        rw [further]
        exact failing number copy present

/-! ### The turn of a consumer set -/

/-- Whether from one moment to another some ids were taken off the pending list of a group, and
nothing else was. -/
structure Releases (stream group : String) (ids : List StreamId) (before after : Pipeline) :
    Prop where
  entries : (after.service.store.content? stream).map (fun content =>
      (content.entries, content.lastId)) =
    (before.service.store.content? stream).map fun content => (content.entries, content.lastId)
  released : after.service.store.group? stream group =
    (before.service.store.group? stream group).map fun held =>
      { held with pending := ⟨held.pending.entries.filter fun entry => entry.1 ∉ ids⟩ }
  groups : ∀ name, name ≠ group →
    after.service.store.group? stream name = before.service.store.group? stream name
  others : ∀ other, other ≠ stream →
    after.service.store.content? other = before.service.store.content? other

theorem Releases.none (stream group : String) (pipeline : Pipeline) :
    Releases stream group [] pipeline pipeline where
  entries := rfl
  released := by simp
  groups := fun _ _ => rfl
  others := fun _ _ => rfl

theorem ids_listed_group (held : Streams.Group) (count : Nat) :
    (held.listed count).map PendingEntry.id = held.pending.ids.take count := by
  rw [Streams.Group.listed, List.map_map, IdMap.ids, ← List.map_take]
  rfl

/-- Where no outage concerns it, a look at the pending entries of a group lists the first ones. -/
theorem ask_pending_of_answers {pipeline : Pipeline}
    (working : pipeline.service.store.failure = none)
    (answers : pipeline.service.Answers .pending stream) {held : Streams.Group}
    (member : pipeline.service.store.group? stream group = some held) (count : Nat) :
    pipeline.ask (fun service => service.pending stream group count) =
      (.ok (held.listed count), pipeline) := by
  rw [Pipeline.ask, Streams.Service.pending, Streams.Service.call_of_answers answers,
    Store.pending, Store.guarded_of_working working, member]
  rfl

/-- What is acknowledged of the first entries of a group is pending there. -/
theorem sublist_succeeded {held : Streams.Group} {count : Nat} {copies : List Copy}
    (taken : copies.map Copy.entry = held.listed count) :
    ((copies.filter Copy.succeeded).map (·.entry.id)).Sublist held.pending.ids := by
  have all : copies.map (·.entry.id) = held.pending.ids.take count := by
    rw [← ids_listed_group, ← taken, List.map_map]
    rfl
  exact (List.filter_sublist.map _).trans (all ▸ List.take_sublist _ _)

/-- Where no outage concerns it, an acknowledgement takes the ids it names off the pending list,
and answers how many of them were there. -/
theorem releases_forceAcknowledge {pipeline : Pipeline}
    (working : pipeline.service.store.failure = none)
    (answers : pipeline.service.Answers .acknowledge stream) {held : Streams.Group}
    (member : pipeline.service.store.group? stream group = some held) (ids : List StreamId) :
    (forceAcknowledge stream group ids pipeline).1 = .ok (held.pending.eraseAll ids).1 ∧
      Releases stream group ids pipeline (forceAcknowledge stream group ids pipeline).2 := by
  cases ids with
  | nil => exact ⟨rfl, .none stream group pipeline⟩
  | cons id rest =>
    obtain ⟨content, present, own⟩ := Option.bind_eq_some_iff.mp member
    rw [forceAcknowledge, List.isEmpty_cons, if_neg Bool.false_ne_true, Pipeline.ask,
      Streams.Service.acknowledge, Streams.Service.call_of_answers answers,
      Store.acknowledge_of_group working member]
    have changed (other : String) := Store.content?_setGroup present group other
      { held with pending := (held.pending.eraseAll (id :: rest)).2 }
    have left := (changed stream).trans (if_pos rfl)
    refine ⟨rfl, ?_, ?_, fun name different => ?_, fun other foreign => ?_⟩
    · dsimp only
      rw [left, present]
      rfl
    · rw [member, Option.map_some, ← IdMap.entries_eraseAll]
      exact (Store.group?_eq left group).trans (Table.get?_set_self _ _ _)
    · rw [Store.group?_eq present]
      exact (Store.group?_eq left name).trans (Table.get?_set_of_ne _ different _)
    · exact (changed other).trans (if_neg foreign)

theorem Releases.of_service {ids : List StreamId} {before after other : Pipeline}
    (releases : Releases stream group ids before after) (same : other.service = after.service) :
    Releases stream group ids before other where
  entries := by rw [same, releases.entries]
  released := by rw [same, releases.released]
  groups := by
    rw [same]
    exact releases.groups
  others := by
    rw [same]
    exact releases.others

theorem sound_letters {pipeline : Pipeline} (sound : pipeline.service.store.Sound)
    (stream : String) : (cleaner.letters pipeline stream).Sound := by
  rw [letters]
  cases present : pipeline.service.store.content? _ with
  | none => exact Content.sound_empty
  | some content => exact sound _ content present

/-- An acknowledgement takes away no letter. -/
theorem mem_letters_of_freed {pipeline after : Pipeline} {ids : List StreamId} {id : StreamId}
    (freed : after.service = (forceAcknowledge stream group ids pipeline).2.service)
    (there : id ∈ (cleaner.letters pipeline stream).entries.ids) :
    id ∈ (cleaner.letters after stream).entries.ids := by
  obtain ⟨fields, present⟩ := mem_ids_iff_fieldsAt?.mp there
  refine mem_ids_iff_fieldsAt?.mpr ⟨fields, ?_⟩
  rw [Pipeline.fieldsAt?, freed]
  exact (fieldsAt?_forceAcknowledge _ _ _ _ _ _).trans present

/-- A turn copies what is listed, and acknowledges what the copies answer. -/
theorem acknowledgePending_of_listed {set : ConsumerSet} {pipeline reached : Pipeline}
    {entries : List PendingEntry} (forced : cleaner.settings.ackStalePending = true)
    (enabled : cleaner.settings.deadLetterEnabled = true)
    (asked : pipeline.ask (fun service =>
      service.pending set.stream set.group cleaner.settings.pendingBatch) =
        (.ok entries, reached)) :
    let done := cleaner.deadLetterAll set.stream set.group entries reached
    let freed := forceAcknowledge set.stream set.group done.1.1 done.2
    (∀ number, freed.1 = .ok number → (cleaner.acknowledgePending set pipeline).1 =
        .ok { acknowledged := number, deadLettered := done.1.2 }) ∧
      (cleaner.acknowledgePending set pipeline).2.service = freed.2.service := by
  rw [acknowledgePending, if_pos forced]
  dsimp only
  rw [asked]
  cases entries with
  | nil =>
    refine ⟨fun number answered => ?_, rfl⟩
    rw [← Except.ok.inj answered]
    rfl
  | cons entry rest =>
    dsimp only
    rw [release, if_pos enabled]
    generalize cleaner.deadLetterAll set.stream set.group (entry :: rest) reached = done
    obtain ⟨⟨ids, copies⟩, after⟩ := done
    dsimp only
    generalize forceAcknowledge set.stream set.group ids after = freed
    obtain ⟨answer, ended⟩ := freed
    cases answer with
    | error error => exact ⟨fun number impossible => (by cases impossible), rfl⟩
    | ok count => exact ⟨fun number answered => (by rw [← Except.ok.inj answered]), rfl⟩

/-- What the turn of a consumer set comes to, some pending entries having been copied: the ids that
did not fail to be copied are off the pending list of the group, the letters of those whose entries
are there stand behind the earlier ones, in the order of the entries, and nothing else changed. -/
structure Treated (cleaner : Cleaner) (set : ConsumerSet) (copies : List Copy)
    (before after : Pipeline) : Prop where
  released : after.service.store.group? set.stream set.group =
    (before.service.store.group? set.stream set.group).map fun held =>
      { held with pending := ⟨held.pending.entries.filter fun entry =>
          entry.1 ∉ (copies.filter Copy.succeeded).map (·.entry.id)⟩ }
  groups : ∀ name, name ≠ set.group →
    after.service.store.group? set.stream name = before.service.store.group? set.stream name
  entries : (after.service.store.content? set.stream).map (fun content =>
      (content.entries, content.lastId)) =
    (before.service.store.content? set.stream).map fun content =>
      (content.entries, content.lastId)
  letters : ∃ written : List (StreamId × Fields),
    (cleaner.letters after set.stream).entries.entries =
      (cleaner.letters before set.stream).entries.entries ++ written ∧
    List.Forall₂ (fun copy letter => LetterOf before set.stream set.group copy.entry letter.2)
      (copies.filter Copy.written) written
  ascending : (cleaner.letters after set.stream).entries.Ascending
  letterGroups : (cleaner.letters after set.stream).groups =
    (cleaner.letters before set.stream).groups
  others : ∀ other, other ≠ set.stream → other ≠ cleaner.settings.deadLetterStream set.stream →
    after.service.store.content? other = before.service.store.content? other

theorem Treated.of_writes {set : ConsumerSet} {copies : List Copy}
    {before reached after : Pipeline}
    (apart : set.stream ≠ cleaner.settings.deadLetterStream set.stream)
    (writes : cleaner.Writes set.stream set.group copies before reached)
    (releases : Releases set.stream set.group ((copies.filter Copy.succeeded).map (·.entry.id))
      reached after) : cleaner.Treated set copies before after := by
  have same := writes.others set.stream apart
  have group (name : String) : reached.service.store.group? set.stream name =
      before.service.store.group? set.stream name := by
    rw [Store.group?, same, Store.group?]
  have letters : cleaner.letters after set.stream = cleaner.letters reached set.stream := by
    rw [Cleaner.letters, Cleaner.letters, releases.others _ apart.symm]
  exact {
    released := by rw [releases.released, group]
    groups := fun name different => (releases.groups name different).trans (group name)
    entries := by rw [releases.entries, same]
    letters := letters ▸ writes.letters
    ascending := letters ▸ writes.sound.ascending
    letterGroups := letters ▸ writes.groups
    others := fun other foreign aside =>
      (releases.others other foreign).trans (writes.others other aside) }

/-- Where no id is the greatest and no call fails but copies, the turn of a consumer set takes the
first pending entries of its group, as many as a batch holds. Exactly those whose copy did not fail
leave the pending list and are counted; those of them whose entries are there, and no others, have
one letter each behind the earlier ones, in ascending order of their ids, with the fields of the
entry, its id, the group, and the consumer and the number of deliveries of the pending entry.
Nothing else changes. A copy fails exactly if its own read or its own append meets an outage, with
the error of that outage. -/
theorem treated_acknowledgePending {cleaner : Cleaner} {set : ConsumerSet} {pipeline : Pipeline}
    {calls : List StoreCall} {held : Streams.Group}
    (forced : cleaner.settings.ackStalePending = true)
    (enabled : cleaner.settings.deadLetterEnabled = true)
    (apart : set.stream ≠ cleaner.settings.deadLetterStream set.stream)
    (reached : pipeline.service.store = Store.empty.after calls)
    (below : ∀ turn ∈ Store.empty.turns calls, turn.answer ≠ .ok (.id .greatest))
    (short : .greatest ∉ (cleaner.letters (cleaner.acknowledgePending set pipeline).2
      set.stream).entries.ids)
    (working : pipeline.service.store.failure = none)
    (lists : pipeline.service.Answers .pending set.stream)
    (acknowledges : pipeline.service.Answers .acknowledge set.stream)
    (member : pipeline.service.store.group? set.stream set.group = some held) :
    let taken := held.listed cleaner.settings.pendingBatch
    let copies := cleaner.copies set.stream set.group taken pipeline
    let (answer, after) := cleaner.acknowledgePending set pipeline
    answer = .ok {
        acknowledged := (copies.filter Copy.succeeded).length
        deadLettered := (copies.filter Copy.written).length } ∧
      held.pending.Ascending ∧ copies.map Copy.entry = taken ∧
      (∀ copy ∈ copies, ∀ there, copy.answer = .ok there →
        there = (pipeline.fieldsAt? set.stream copy.entry.id).isSome) ∧
      (∀ number copy, copies[number]? = some copy → ∀ error, copy.answer = .error error ↔
        cleaner.refusal? set.stream copy.entry
          (cleaner.deadLetterAll set.stream set.group (taken.take number) pipeline).2 =
            some error) ∧
      cleaner.Treated set copies pipeline after := by
  have sound : pipeline.service.store.Sound := reached ▸ Store.sound_empty.after calls below
  have legible : Legible (pipeline.service.store.content? set.stream) :=
    reached ▸ Streams.legible_after calls set.stream
  obtain ⟨content, present, own⟩ := Option.bind_eq_some_iff.mp member
  have source := sound set.stream content present
  have pending := (source.groups set.group held own).ascending
  have ascending :
      ((pipeline.service.store.content? set.stream).getD .empty).entries.Ascending := by
    rw [present]
    exact source.ascending
  obtain ⟨answered, left⟩ := acknowledgePending_of_listed forced enabled
    (ask_pending_of_answers working lists member cleaner.settings.pendingBatch)
  obtain ⟨written, released, together, each, failing⟩ :=
    writes_deadLetterAll apart set.group (held.listed cleaner.settings.pendingBatch) working
      ascending legible (sound_letters sound set.stream)
      fun early => short (mem_letters_of_freed left early)
  have among := sublist_succeeded together
  have still : (cleaner.deadLetterAll set.stream set.group
      (held.listed cleaner.settings.pendingBatch) pipeline).2.service.store.group? set.stream
        set.group = some held := by
    rw [Store.group?, written.others set.stream apart]
    exact member
  obtain ⟨counted, releases⟩ := releases_forceAcknowledge (written.failure.trans working)
    (written.answers .acknowledge set.stream acknowledges) still _
  rw [released] at answered left
  refine ⟨(answered _ counted).trans ?_, pending, together, each, failing,
    .of_writes apart written (releases.of_service left)⟩
  rw [IdMap.eraseAll_count_of_mem ((pending.ids.imp StreamId.ne_of_lt).sublist among)
    fun _ listed => among.subset listed, List.length_map]

end Cleaner

/-- A stream with three pending entries, of which the second is deleted and the first has a field
of the name of one of a letter. -/
def staleCalls : List StoreCall :=
  [.append 5 "orders" [("type", "first")], .createGroup "orders" "audit",
    .append 6 "orders" [("type", "second"), ("dlq_group", "forged")],
    .append 7 "orders" [("type", "third")], .append 8 "orders" [("type", "fourth")],
    .readGroup "orders" "audit" "worker" .lastConsumed 5, .delete "orders" [⟨7, 0⟩]]

/-- A pipeline whose second letter is lost to an outage. -/
def stale : Pipeline where
  service := ⟨Store.empty.after staleCalls,
    [⟨.append, some "orders:dlq", .connection "refused", 1, some 1⟩]⟩
  archive := .empty .memory
  wall := ⟨8640000, 0⟩

/-- A cleanup of the group. -/
def tidy : Cleaner where
  consumers := [⟨"orders", "audit", "worker", 1⟩]
  settings := { pendingBatch := 10 }

/-- The first pending entry is copied and the second is gone; the copy of the third fails, so that
it alone stays pending. -/
theorem treated_stale :
    let set : ConsumerSet := ⟨"orders", "audit", "worker", 1⟩
    let copies := tidy.copies "orders" "audit"
      [⟨⟨6, 0⟩, "worker", 1⟩, ⟨⟨7, 0⟩, "worker", 1⟩, ⟨⟨8, 0⟩, "worker", 1⟩] stale
    tidy.settings.ackStalePending = true ∧ tidy.settings.deadLetterEnabled = true ∧
      set.stream ≠ tidy.settings.deadLetterStream set.stream ∧
      stale.service.store = Store.empty.after staleCalls ∧
      (∀ turn ∈ Store.empty.turns staleCalls, turn.answer ≠ .ok (.id .greatest)) ∧
      .greatest ∉ (tidy.letters (tidy.acknowledgePending set stale).2 set.stream).entries.ids ∧
      stale.service.store.failure = none ∧ stale.service.Answers .pending set.stream ∧
      stale.service.Answers .acknowledge set.stream ∧
      (copies.filter Cleaner.Copy.succeeded).map (·.entry.id) = [⟨6, 0⟩, ⟨7, 0⟩] ∧
      (copies.filter Cleaner.Copy.written).map (·.entry.id) = [⟨6, 0⟩] ∧
      (tidy.acknowledgePending set stale).1 = .ok { acknowledged := 2, deadLettered := 1 } ∧
      tidy.Treated set copies stale (tidy.acknowledgePending set stale).2 := by
  intro set copies
  have below : ∀ turn ∈ Store.empty.turns staleCalls, turn.answer ≠ .ok (.id .greatest) := by
    decide
  have places : (tidy.letters (tidy.acknowledgePending set stale).2 set.stream).entries.ids =
      [⟨8640000000, 0⟩] := rfl
  have short : .greatest ∉
      (tidy.letters (tidy.acknowledgePending set stale).2 set.stream).entries.ids := by
    rw [places]
    decide
  have lists : stale.service.Answers .pending set.stream := List.forall_mem_singleton.mpr rfl
  have acknowledges : stale.service.Answers .acknowledge set.stream :=
    List.forall_mem_singleton.mpr rfl
  obtain ⟨answered, -, -, -, -, treated⟩ := Cleaner.treated_acknowledgePending rfl rfl
    (by decide : set.stream ≠ tidy.settings.deadLetterStream set.stream) rfl below short rfl lists
    acknowledges rfl
  exact ⟨rfl, rfl, by decide, rfl, below, short, rfl, lists, acknowledges, rfl, rfl, answered,
    treated⟩

end Retention

end AccessFeed
