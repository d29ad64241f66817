/-
This file says what the calls of a stream service come to.

A call that meets an outage fails and leaves the store alone; any other call is
the same call on the store. A failure that is injected into the store is met
there. Callers do not care which of the two made a call fail, so that each call
is told by two cases: it fails and no stream changes, or it does what it does on
a store that works.
-/

import AccessFeed.Proofs.Stores
import AccessFeed.Streams.Service

namespace AccessFeed.Streams

/-- The fields of an entry of a stream. -/
def Store.fieldsAt? (store : Store) (stream : String) (id : StreamId) : Option Fields :=
  (store.content? stream).bind fun content => content.entries.get? id

/-- The entries of a stream between two ids, up to a number of them. -/
def Store.listed (store : Store) (stream : String) (start stop : StreamId) (count : Nat) :
    List Record :=
  match store.content? stream with
  | none => []
  | some content => ((content.entries.between start stop).take count).map fun entry =>
    ⟨stream, entry.1, entry.2⟩

/-- The first pending entries of a group, up to a number of them. -/
def Group.listed (held : Group) (count : Nat) : List PendingEntry :=
  (held.pending.entries.take count).map fun entry => ⟨entry.1, entry.2.consumer, entry.2.count⟩

theorem Store.range_of_working {store : Store} (working : store.failure = none)
    (stream : String) (start stop : StreamId) (count : Nat) :
    store.range stream start stop count = (.ok (store.listed stream start stop count), store) := by
  rw [range, guarded_of_working working, listed]
  cases store.content? stream <;> rfl

theorem Store.fieldsAt?_congr {first second : Store} {stream : String}
    (same : first.content? stream = second.content? stream) (id : StreamId) :
    first.fieldsAt? stream id = second.fieldsAt? stream id := by
  rw [fieldsAt?, fieldsAt?, same]

/-! ### Entries after a change -/

namespace Store

variable {before after : Store} {stream : String}

theorem fieldsAt?_of_added {id : StreamId} {fields : Fields}
    (told : ∀ other, after.content? other =
      if other = stream then some (((before.content? stream).getD .empty).add id fields)
      else before.content? other) (other : String) (place : StreamId) :
    after.fieldsAt? other place =
      if other = stream ∧ place = id then some fields else before.fieldsAt? other place := by
  rw [fieldsAt?, told]
  by_cases own : other = stream
  · subst own
    rw [if_pos rfl, Option.bind_some, Content.add, IdMap.get?_insert]
    by_cases same : place = id
    · rw [if_pos same, if_pos ⟨rfl, same⟩]
    · rw [if_neg same, if_neg fun both => same both.2, fieldsAt?]
      cases before.content? other <;> rfl
  · rw [if_neg own, if_neg fun both => own both.1, fieldsAt?]

theorem fieldsAt?_of_deleted {ids : List StreamId}
    (told : ∀ other, after.content? other =
      if other = stream then
        (before.content? stream).map fun content =>
          { content with entries := (content.entries.eraseAll ids).2 }
      else before.content? other) (other : String) (place : StreamId) :
    after.fieldsAt? other place =
      if other = stream ∧ place ∈ ids then none else before.fieldsAt? other place := by
  rw [fieldsAt?, told]
  by_cases own : other = stream
  · subst own
    rw [if_pos rfl, fieldsAt?]
    cases before.content? other with
    | none => exact (ite_self none).symm
    | some content =>
      rw [Option.map_some, Option.bind_some, Option.bind_some, IdMap.get?_eraseAll]
      by_cases listed : place ∈ ids
      · rw [if_pos listed, if_pos ⟨rfl, listed⟩]
      · rw [if_neg listed, if_neg fun both => listed both.2]
  · rw [if_neg own, if_neg fun both => own both.1, fieldsAt?]

theorem entries_changeGroup (content : Content) (group : String) (change : Group → Group) :
    (content.changeGroup group change).entries = content.entries := by
  rw [Content.changeGroup]
  cases content.groups.get? group <;> rfl

theorem fieldsAt?_of_changed {group : String} {change : Content → Group → Group}
    (told : ∀ other, after.content? other =
      if other = stream then
        (before.content? stream).map fun content => content.changeGroup group (change content)
      else before.content? other) (other : String) (place : StreamId) :
    after.fieldsAt? other place = before.fieldsAt? other place := by
  rw [fieldsAt?, told]
  by_cases own : other = stream
  · subst own
    rw [if_pos rfl, fieldsAt?]
    cases before.content? other with
    | none => rfl
    | some content =>
      rw [Option.map_some, Option.bind_some, Option.bind_some, entries_changeGroup]
  · rw [if_neg own, fieldsAt?]

end Store

/-! ### Calls of a service -/

namespace Service

/-- Whether no call fails. -/
def Working (service : Service) : Prop :=
  service.outages = [] ∧ service.store.failure = none

/-- A call fails without reaching the store, or it is made there. -/
theorem call_cases {Value : Type} (service : Service) (method : StoreMethod)
    (stream : Option String) (operation : Store → Answer Value) :
    (∃ error, (service.call method stream operation).1 = .error error ∧
      (service.call method stream operation).2.store = service.store) ∨
    ((service.call method stream operation).1 = (operation service.store).1 ∧
      (service.call method stream operation).2.store = (operation service.store).2) := by
  rw [call]
  cases Outage.meet method stream service.outages with
  | mk error outages =>
    cases error with
    | some error => exact Or.inl ⟨error, rfl, rfl⟩
    | none => exact Or.inr ⟨rfl, rfl⟩

/-- A call whose operation is guarded fails and changes nothing, or is made on a store that
works. -/
theorem guarded_cases {Value : Type} (service : Service) (method : StoreMethod)
    (stream : Option String) {operation : Store → Answer Value} {inner : Store → Answer Value}
    (guarded : ∀ store, operation store = store.guarded (inner store)) :
    (∃ error, (service.call method stream operation).1 = .error error ∧
      (service.call method stream operation).2.store = service.store) ∨
    (service.store.failure = none ∧
      (service.call method stream operation).1 = (operation service.store).1 ∧
      (service.call method stream operation).2.store = (operation service.store).2) := by
  rcases service.call_cases method stream operation with failed | ⟨answer, store⟩
  · exact Or.inl failed
  · cases failing : service.store.failure with
    | none => exact Or.inr ⟨rfl, answer, store⟩
    | some error =>
      rw [guarded, Store.guarded_of_failing failing] at answer store
      exact Or.inl ⟨error, answer, store⟩

/-- Where no call fails, a call is made on the store, and no call fails afterwards. -/
theorem call_of_working {Value : Type} {service : Service} (working : service.Working)
    (method : StoreMethod) (stream : Option String) (operation : Store → Answer Value) :
    service.call method stream operation =
      ((operation service.store).1, ⟨(operation service.store).2, []⟩) := by
  rw [call, working.1, Outage.meet_nil]

/-- An append fails and changes nothing, or adds an entry with the next id. -/
theorem append_cases (service : Service) (now : UInt64) (stream : String)
    (fields : List (String × String)) :
    (∃ error, (service.append now stream fields).1 = .error error ∧
      (service.append now stream fields).2.store = service.store) ∨
    ((service.append now stream fields).1 =
        .ok (((service.store.content? stream).getD .empty).nextId now) ∧
      ∀ other, (service.append now stream fields).2.store.content? other =
        if other = stream then
          some (((service.store.content? stream).getD .empty).add
            (((service.store.content? stream).getD .empty).nextId now) (.ofList fields))
        else service.store.content? other) := by
  rcases guarded_cases service .append (some stream)
    (fun store => show store.append now stream fields = store.guarded _ from rfl) with
    failed | ⟨working, answer, store⟩
  · exact Or.inl failed
  · refine Or.inr ⟨answer.trans ?_, fun other => ?_⟩
    · rw [Store.append, Store.guarded_of_working working]
    · exact (congrArg (Store.content? · other) store).trans
        (StoreCall.content?_append working now stream other fields)

/-- A read of a range changes nothing. -/
theorem range_cases (service : Service) (stream : String) (start stop : StreamId)
    (count : Nat) :
    (service.range stream start stop count).2.store = service.store ∧
    ((∃ error, (service.range stream start stop count).1 = .error error) ∨
      (service.range stream start stop count).1 =
        .ok (service.store.listed stream start stop count)) := by
  rcases guarded_cases service .range (some stream)
    (fun store => show store.range stream start stop count = store.guarded _ from rfl) with
    ⟨error, answer, store⟩ | ⟨working, answer, store⟩
  · exact ⟨store, Or.inl ⟨error, answer⟩⟩
  · rw [Store.range_of_working working] at answer store
    exact ⟨store, Or.inr answer⟩

/-- A look at the pending entries changes nothing. -/
theorem pending_cases (service : Service) (stream group : String) (count : Nat) :
    (service.pending stream group count).2.store = service.store ∧
    ((∃ error, (service.pending stream group count).1 = .error error) ∨
      ∃ held, service.store.group? stream group = some held ∧
        (service.pending stream group count).1 = .ok (held.listed count)) := by
  rcases guarded_cases service .pending (some stream)
    (fun store => show store.pending stream group count = store.guarded _ from rfl) with
    ⟨error, answer, store⟩ | ⟨working, answer, store⟩
  · exact ⟨store, Or.inl ⟨error, answer⟩⟩
  · cases member : service.store.group? stream group with
    | none =>
      rw [Store.pending, Store.guarded_of_working working, member] at answer store
      exact ⟨store, Or.inl ⟨_, answer⟩⟩
    | some held =>
      rw [Store.pending, Store.guarded_of_working working, member] at answer store
      exact ⟨store, Or.inr ⟨held, rfl, answer⟩⟩

/-- A read of a group fails and changes nothing, or it delivers what the group has to deliver. -/
theorem readGroup_cases (service : Service) (stream group consumer : String)
    (offset : ReadOffset) (count : Nat) :
    (∃ error, (service.readGroup stream group consumer offset count).1 = .error error ∧
      (service.readGroup stream group consumer offset count).2.store = service.store) ∨
    ∃ content held, service.store.failure = none ∧
      service.store.content? stream = some content ∧ content.groups.get? group = some held ∧
      (service.readGroup stream group consumer offset count).1 =
        .ok (content.readRecords stream consumer offset count held) ∧
      (service.readGroup stream group consumer offset count).2.store =
        (service.store.readGroup stream group consumer offset count).2 := by
  rcases guarded_cases service .readGroup (some stream)
    (fun store => show store.readGroup stream group consumer offset count = store.guarded _
      from rfl) with failed | ⟨working, answer, store⟩
  · exact Or.inl failed
  · cases member : service.store.group? stream group with
    | none =>
      rw [Store.readGroup_of_noGroup working member] at answer store
      exact Or.inl ⟨_, answer, store⟩
    | some held =>
      obtain ⟨content, present, own⟩ := Option.bind_eq_some_iff.mp member
      refine Or.inr ⟨content, held, working, present, own, ?_, store⟩
      exact answer.trans (congrArg Prod.fst
        (Store.readGroup_of_group working present own consumer offset count))

/-- An acknowledgement fails and changes nothing, or it is made on a store that works. -/
theorem acknowledge_made (service : Service) (stream group : String) (ids : List StreamId) :
    (∃ error, (service.acknowledge stream group ids).1 = .error error ∧
      (service.acknowledge stream group ids).2.store = service.store) ∨
    (service.store.failure = none ∧
      (∃ count, (service.acknowledge stream group ids).1 = .ok count) ∧
      (service.acknowledge stream group ids).2.store =
        (service.store.acknowledge stream group ids).2) := by
  rcases guarded_cases service .acknowledge (some stream)
    (fun store => show store.acknowledge stream group ids = store.guarded _ from rfl) with
    failed | ⟨working, answer, store⟩
  · exact Or.inl failed
  · refine Or.inr ⟨working, ?_, store⟩
    cases member : service.store.group? stream group with
    | none => exact ⟨_, answer.trans (congrArg Prod.fst
        (Store.acknowledge_of_noGroup working member ids))⟩
    | some held => exact ⟨_, answer.trans (congrArg Prod.fst
        (Store.acknowledge_of_group working member ids))⟩

/-- An acknowledgement fails and changes nothing, or removes pending entries of its group. -/
theorem acknowledge_cases (service : Service) (stream group : String) (ids : List StreamId) :
    (∃ error, (service.acknowledge stream group ids).1 = .error error ∧
      (service.acknowledge stream group ids).2.store = service.store) ∨
    ((∃ count, (service.acknowledge stream group ids).1 = .ok count) ∧
      ∀ other, (service.acknowledge stream group ids).2.store.content? other =
        if other = stream then
          (service.store.content? stream).map fun content =>
            content.changeGroup group fun held =>
              { held with pending := (held.pending.eraseAll ids).2 }
        else service.store.content? other) := by
  rcases service.acknowledge_made stream group ids with failed | ⟨working, answered, store⟩
  · exact Or.inl failed
  · exact Or.inr ⟨answered, fun other => (congrArg (Store.content? · other) store).trans
      (StoreCall.content?_acknowledge working stream group other ids)⟩

/-- A deletion fails and changes nothing, or removes entries of its stream. -/
theorem delete_cases (service : Service) (stream : String) (ids : List StreamId) :
    (∃ error, (service.delete stream ids).1 = .error error ∧
      (service.delete stream ids).2.store = service.store) ∨
    ((∃ count, (service.delete stream ids).1 = .ok count) ∧
      ∀ other, (service.delete stream ids).2.store.content? other =
        if other = stream then
          (service.store.content? stream).map fun content =>
            { content with entries := (content.entries.eraseAll ids).2 }
        else service.store.content? other) := by
  rcases guarded_cases service .delete (some stream)
    (fun store => show store.delete stream ids = store.guarded _ from rfl) with
    failed | ⟨working, answer, store⟩
  · exact Or.inl failed
  · refine Or.inr ⟨?_, fun other => ?_⟩
    · rw [Store.delete, Store.guarded_of_working working] at answer
      cases present : service.store.content? stream with
      | none =>
        rw [present] at answer
        exact ⟨_, answer⟩
      | some content =>
        rw [present] at answer
        exact ⟨_, answer⟩
    · exact (congrArg (Store.content? · other) store).trans
        (StoreCall.content?_delete working stream other ids)

/-! ### Where no call fails -/

variable {service : Service}

theorem of_store_eq (working : service.Working) {store : Store} (same : store = service.store) :
    (⟨store, []⟩ : Service) = service := by
  obtain ⟨held, outages⟩ := service
  rw [same, show outages = [] from working.1]

theorem range_of_working (working : service.Working) (stream : String) (start stop : StreamId)
    (count : Nat) :
    service.range stream start stop count =
      (.ok (service.store.listed stream start stop count), service) := by
  rw [range, call_of_working working, Store.range_of_working working.2, of_store_eq working rfl]

/-- An append succeeds and changes no group. -/
theorem append_of_working (working : service.Working) (now : UInt64) (stream : String)
    (fields : List (String × String)) :
    (∃ id, (service.append now stream fields).1 = .ok id) ∧
      (service.append now stream fields).2.Working ∧
      ∀ other group, (service.append now stream fields).2.store.group? other group =
        service.store.group? other group := by
  rw [append, call_of_working working, Store.append, Store.guarded_of_working working.2]
  refine ⟨⟨_, rfl⟩, ⟨rfl, working.2⟩, fun other group => ?_⟩
  rw [Store.group?, Store.content?_setContent, Store.group?]
  by_cases own : other = stream
  · subst own
    rw [if_pos rfl]
    cases service.store.content? other <;> rfl
  · rw [if_neg own]

end Service

end AccessFeed.Streams
