/-
This file tells what a failing call leaves behind.

A call looks for an injected failure, for its stream and for its group before it
changes anything, so that a call that fails leaves the store as it was. There is
one exception: an append with an id of its own makes a missing stream before it
looks at the id. Behind the last id of a new stream are all ids but the least
one, and whoever asks for that one is refused and leaves an empty stream.
-/

import AccessFeed.Proofs.Stores

namespace AccessFeed

/-- Setting a key to the value it has changes nothing. -/
theorem Table.set_of_get? {Key Value : Type} [DecidableEq Key] {table : Table Key Value}
    {key : Key} {value : Value} (present : table.get? key = some value) :
    table.set key value = table := by
  obtain ⟨rows⟩ := table
  refine congrArg Table.mk ?_
  have found : lookup? key rows = some value := present
  induction rows with
  | nil => cases found
  | cons row rest inductionHypothesis =>
    obtain ⟨other, held⟩ := row
    rw [lookup?] at found
    rw [setRow]
    by_cases same : other = key
    · rw [if_pos same] at found ⊢
      rw [same, Option.some.inj found]
    · rw [if_neg same] at found ⊢
      rw [inductionHypothesis found found]

namespace Streams

theorem Store.setContent_of_content? {store : Store} {stream : String} {content : Content}
    (present : store.content? stream = some content) : store.setContent stream content = store := by
  rw [setContent, Table.set_of_get? present]

theorem StreamId.le_least_iff {id : StreamId} : id ≤ least ↔ id = least := by
  refine ⟨fun below => rank_injective (Nat.le_antisymm below (Nat.zero_le id.rank)), ?_⟩
  rintro rfl
  exact Nat.le_refl _

theorem Answer.of_as_error {Value : Type} {reply : Value → StoreReply} {answer : Answer Value}
    {error : StoreError} (failed : (answer.as reply).1 = .error error) :
    answer.1 = .error error := by
  obtain ⟨answer, store⟩ := answer
  cases answer with
  | error other => exact congrArg Except.error (Except.error.inj failed)
  | ok value => cases failed

/-! ### Single calls -/

namespace Store

variable {store : Store} {error : StoreError}

/-- An operation that leaves the store alone when it fails still does so behind a guard. -/
theorem guarded_unchanged {Value : Type} {operation : Answer Value}
    (kept : operation.1 = .error error → operation.2 = store)
    (failed : (store.guarded operation).1 = .error error) :
    (store.guarded operation).2 = store := by
  cases failing : store.failure with
  | some injected => rw [guarded_of_failing failing]
  | none =>
    rw [guarded_of_working failing] at failed ⊢
    exact kept failed

theorem groupNames_unchanged {stream : String}
    (failed : (store.groupNames stream).1 = .error error) :
    (store.groupNames stream).2 = store := by
  refine guarded_unchanged (fun _ => ?_) failed
  cases store.content? stream <;> rfl

theorem createGroup_unchanged {stream group : String}
    (failed : (store.createGroup stream group).1 = .error error) :
    (store.createGroup stream group).2 = store := by
  refine guarded_unchanged (fun failed => ?_) failed
  cases present : store.content? stream with
  | none => rfl
  | some content =>
    rw [present] at failed
    dsimp only at failed ⊢
    by_cases taken : content.groups.contains group = true
    · rw [if_pos taken]
    · rw [if_neg taken] at failed
      cases failed

theorem readGroup_unchanged {stream group consumer : String} {offset : ReadOffset} {count : Nat}
    (failed : (store.readGroup stream group consumer offset count).1 = .error error) :
    (store.readGroup stream group consumer offset count).2 = store := by
  refine guarded_unchanged (fun failed => ?_) failed
  cases present : store.content? stream with
  | none => rfl
  | some content =>
    rw [present] at failed
    dsimp only at failed ⊢
    cases member : content.groups.get? group with
    | none => rfl
    | some held =>
      rw [member] at failed
      cases offset <;> cases failed

theorem pending_unchanged {stream group : String} {count : Nat} :
    (store.pending stream group count).1 = .error error →
      (store.pending stream group count).2 = store := by
  refine guarded_unchanged fun _ => ?_
  cases store.group? stream group <;> rfl

/-- A call that only fails where a failure was injected. -/
theorem guarded_unchanged_of_ok {Value : Type} {operation : Answer Value} {value : Value}
    (answered : operation.1 = .ok value) (failed : (store.guarded operation).1 = .error error) :
    (store.guarded operation).2 = store :=
  guarded_unchanged (fun failed => by rw [answered] at failed; cases failed) failed

end Store

/-! ### All calls -/

namespace StoreCall

/-- Whether a call asks for the least id in a stream that is not there yet. -/
def Founds (store : Store) : StoreCall → Prop
  | .appendWithId stream id _ =>
    store.failure = none ∧ store.content? stream = none ∧ id = .least
  | _ => False

/-- An append with an id of its own that is refused leaves the store as it was where the stream is
there. -/
theorem appendWithId_unchanged {store : Store} {error : StoreError} {stream : String}
    {id : StreamId} {fields : List (String × String)}
    (failed : (store.appendWithId stream id fields).1 = .error error)
    (kept : ¬ (appendWithId stream id fields).Founds store) :
    (store.appendWithId stream id fields).2 = store := by
  cases failing : store.failure with
  | some injected => rw [Store.appendWithId, Store.guarded_of_failing failing]
  | none =>
    by_cases behind : id ≤ ((store.content? stream).getD .empty).lastId
    · rw [Store.appendWithId_of_le failing behind]
      cases present : store.content? stream with
      | some content => exact Store.setContent_of_content? present
      | none =>
        rw [present] at behind
        exact absurd ⟨failing, present, StreamId.le_least_iff.mp behind⟩ kept
    · rw [Store.appendWithId_of_lt failing behind] at failed
      cases failed

/-- A call that fails leaves the store as it was, unless it asks for the least id in a stream that
is not there yet. -/
theorem unchanged_of_failed {store : Store} {call : StoreCall} {error : StoreError}
    (failed : (call.perform store).1 = .error error) (kept : ¬ call.Founds store) :
    (call.perform store).2 = store := by
  cases call with
  | append now stream fields =>
    exact Store.guarded_unchanged_of_ok rfl (Answer.of_as_error failed)
  | appendWithId stream id fields =>
    exact appendWithId_unchanged (Answer.of_as_error failed) kept
  | hasStream stream => exact Store.guarded_unchanged_of_ok rfl (Answer.of_as_error failed)
  | groupNames stream => exact Store.groupNames_unchanged (Answer.of_as_error failed)
  | createGroup stream group => exact Store.createGroup_unchanged (Answer.of_as_error failed)
  | readGroup stream group consumer offset count =>
    exact Store.readGroup_unchanged (Answer.of_as_error failed)
  | acknowledge stream group ids =>
    refine Store.guarded_unchanged (fun failed => ?_) (Answer.of_as_error failed)
    cases member : store.group? stream group with
    | none => rfl
    | some held =>
      rw [member] at failed
      cases failed
  | pending stream group count => exact Store.pending_unchanged (Answer.of_as_error failed)
  | range stream start stop count =>
    refine Store.guarded_unchanged (fun _ => ?_) (Answer.of_as_error failed)
    cases store.content? stream <;> rfl
  | delete stream ids =>
    refine Store.guarded_unchanged (fun failed => ?_) (Answer.of_as_error failed)
    cases present : store.content? stream with
    | none => rfl
    | some content =>
      rw [present] at failed
      cases failed
  | cluster => exact Store.guarded_unchanged_of_ok rfl (Answer.of_as_error failed)
  | inject | clear | setClusterState => cases failed

/-- A call for the least id in a stream that is not there yet is refused, and leaves the stream
behind without entries. -/
theorem perform_of_founds {store : Store} {call : StoreCall} (founds : call.Founds store) :
    ∃ stream, call.target? = some stream ∧ store.content? stream = none ∧
      call.perform store = (.error (Store.notBehind .least), store.setContent stream .empty) := by
  cases call with
  | appendWithId stream id fields =>
    obtain ⟨working, missing, rfl⟩ := founds
    refine ⟨stream, rfl, missing, ?_⟩
    have refused := @Store.appendWithId_of_le store working stream .least
      (by rw [missing]; exact StreamId.le_least_iff.mpr rfl) fields
    rw [missing] at refused
    show (store.appendWithId stream .least fields).as .id = _
    rw [refused]
    rfl
  | append | hasStream | groupNames | createGroup | readGroup | acknowledge | pending | range
  | delete | cluster | inject | clear | setClusterState => exact founds.elim

/-- Whatever the store holds, a call that fails leaves all of it as it was, with one exception: a
call for the least id in a stream that is not there yet. That one is refused, and adds the stream
without an entry or a group. -/
theorem failed_changes_nothing_iff (store : Store) (call : StoreCall) :
    (∀ error, (call.perform store).1 = .error error →
      ((call.perform store).2 = store ↔ ¬ call.Founds store)) ∧
    (call.Founds store → ∃ stream, call.target? = some stream ∧ store.content? stream = none ∧
      call.perform store = (.error (Store.notBehind .least), store.setContent stream .empty)) := by
  refine ⟨fun error failed => ⟨fun same founds => ?_, unchanged_of_failed failed⟩,
    perform_of_founds⟩
  obtain ⟨stream, _, missing, made⟩ := perform_of_founds founds
  have present : (store.setContent stream .empty).content? stream = some .empty :=
    Table.get?_set_self _ _ _
  rw [made] at same
  rw [show store.setContent stream .empty = store from same, missing] at present
  cases present

/-- A store with one stream, of which a group was created. -/
def grouped : Store :=
  Store.empty.after [.append 5 "orders" [("type", "first")], .createGroup "orders" "audit"]

/-- A read for a group that is not there leaves the others alone. -/
theorem strange_read_changes_nothing :
    ((readGroup "orders" "billing" "worker" .lastConsumed 5).perform grouped).1 =
        .error (Store.noGroup "orders" "billing") ∧
      ((readGroup "orders" "billing" "worker" .lastConsumed 5).perform grouped).2 = grouped :=
  have failed : ((readGroup "orders" "billing" "worker" .lastConsumed 5).perform grouped).1 =
      .error (Store.noGroup "orders" "billing") := rfl
  ⟨failed, ((failed_changes_nothing_iff grouped _).1 _ failed).mpr id⟩

/-- The least id is refused in a store without streams, and the stream is there afterwards. -/
theorem refused_append_founds_stream :
    ((appendWithId "orders" .least [("type", "first")]).perform .empty).1 =
        .error (Store.notBehind .least) ∧
      (Store.empty.hasStream "orders").1 = .ok false ∧
      (((appendWithId "orders" .least [("type", "first")]).perform .empty).2.hasStream
        "orders").1 = .ok true ∧
      ¬ ∀ (store : Store) (call : StoreCall) (error : StoreError),
        (call.perform store).1 = .error error → (call.perform store).2 = store :=
  ⟨rfl, rfl, rfl, fun unchanged => absurd
    (unchanged .empty (appendWithId "orders" .least [("type", "first")]) _ rfl) (by decide)⟩

end StoreCall

end Streams

end AccessFeed
