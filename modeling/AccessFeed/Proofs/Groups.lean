/-
This file says what no call takes away from a group.

A group never delivers less far than before, a pending entry leaves it by an
acknowledgement and in no other way, and neither a pending entry that was
acknowledged nor an entry that was deleted comes back. All of this holds as long
as the streams are sound: behind the greatest id entries are delivered anew.
-/

import AccessFeed.Proofs.Services
import AccessFeed.Proofs.Sound

namespace AccessFeed.Streams

/-! ### What is kept -/

/-- What is kept of a group some of whose pending entries may have been acknowledged. -/
structure Group.Kept (acked : StreamId → Prop) (before after : Group) : Prop where
  reached : before.lastDelivered ≤ after.lastDelivered
  absent : ∀ id ≤ before.lastDelivered, before.pending.get? id = none →
    after.pending.get? id = none
  pending : ∀ id delivery, before.pending.get? id = some delivery → ¬ acked id →
    ∃ count, after.pending.get? id = some ⟨delivery.consumer, count⟩

/-- What is kept of a stream and its groups. -/
structure Content.Kept (acked : String → StreamId → Prop) (before after : Content) : Prop where
  reached : before.lastId ≤ after.lastId
  deleted : ∀ id ≤ before.lastId, before.entries.get? id = none → after.entries.get? id = none
  groups : ∀ group held, before.groups.get? group = some held →
    ∃ kept, after.groups.get? group = some kept ∧ held.Kept (acked group) kept

/-- What is kept of the streams of a store. -/
def Store.Kept (acked : String → String → StreamId → Prop) (before after : Store) : Prop :=
  ∀ stream content, before.content? stream = some content →
    ∃ left, after.content? stream = some left ∧ content.Kept (acked stream) left

/-- Whether a call acknowledges a pending entry. -/
def StoreCall.Acks (call : StoreCall) (stream group : String) (id : StreamId) : Prop :=
  ∃ ids, call = .acknowledge stream group ids ∧ id ∈ ids

theorem Group.kept_refl (acked : StreamId → Prop) (held : Group) : held.Kept acked held where
  reached := StreamId.le_refl _
  absent := fun _ _ none => none
  pending := fun _ delivery present _ => ⟨delivery.count, present⟩

theorem Content.kept_refl (acked : String → StreamId → Prop) (content : Content) :
    content.Kept acked content where
  reached := StreamId.le_refl _
  deleted := fun _ _ none => none
  groups := fun _ held member => ⟨held, member, held.kept_refl _⟩

theorem Store.kept_of_same (acked : String → String → StreamId → Prop) {before after : Store}
    (same : ∀ stream, after.content? stream = before.content? stream) :
    before.Kept acked after :=
  fun stream content present => ⟨content, (same stream).trans present, content.kept_refl _⟩

/-- What is kept when more may have been acknowledged. -/
theorem Store.Kept.weaken {acked wider : String → String → StreamId → Prop}
    {before after : Store} (kept : before.Kept acked after)
    (told : ∀ stream group id, acked stream group id → wider stream group id) :
    before.Kept wider after := by
  intro stream content present
  obtain ⟨left, still, contentKept⟩ := kept stream content present
  refine ⟨left, still, contentKept.reached, contentKept.deleted, fun group held member => ?_⟩
  obtain ⟨value, found, groupKept⟩ := contentKept.groups group held member
  exact ⟨value, found, groupKept.reached, groupKept.absent, fun id delivery pending unacked =>
    groupKept.pending id delivery pending fun acknowledged =>
      unacked (told stream group id acknowledged)⟩

/-! ### Changes of a group -/

namespace Group

/-- A delivery of new entries keeps a group. -/
theorem kept_deliver {content : Content} (sound : content.Sound) {held : Group}
    (groupSound : held.Sound content.lastId) (acked : StreamId → Prop) (consumer : String)
    (count : Nat) : held.Kept acked (Store.deliver consumer held (held.fresh content count)) := by
  have behind : ∀ entry ∈ held.fresh content count, held.lastDelivered < entry.1 :=
    fun entry member => Content.lt_of_mem_fresh sound groupSound member
  have old : ∀ id ≤ held.lastDelivered,
      (Store.deliver consumer held (held.fresh content count)).pending.get? id =
        held.pending.get? id := by
    intro id atMost
    rw [Store.get?_deliver, if_neg]
    intro fresh
    obtain ⟨entry, member, rfl⟩ := List.mem_map.mp fresh
    exact StreamId.not_le.mpr (behind entry member) atMost
  refine ⟨(Store.le_lastDelivered_deliver consumer (fresh_ascending sound.ascending held count)
    behind).1, fun id atMost none => (old id atMost).trans none, fun id delivery present _ => ?_⟩
  have atMost := groupSound.delivered id (IdMap.mem_ids_iff.mpr ⟨delivery, present⟩)
  exact ⟨delivery.count, (old id atMost).trans present⟩

/-- A redelivery of pending entries keeps a group. -/
theorem kept_redeliver {held : Group} (ascending : held.pending.Ascending)
    (acked : StreamId → Prop) (consumer : String) (id : StreamId) (count : Nat) :
    held.Kept acked (Store.redeliver held (held.own consumer id count)) := by
  have order := own_ascending ascending consumer id count
  have listed : ∀ other delivery,
      IdMap.lookup? other (held.own consumer id count) = some delivery →
        held.pending.get? other = some delivery := fun other delivery found =>
    ascending.get?_of_mem (own_subset (IdMap.mem_of_lookup? found)).1
  refine ⟨?_, fun other _ none => ?_, fun other delivery present _ => ?_⟩
  · rw [Store.lastDelivered_redeliver]
    exact StreamId.le_refl _
  · rw [Store.get?_redeliver held order]
    cases found : IdMap.lookup? other (held.own consumer id count) with
    | none => exact none
    | some delivery => exact absurd (none.symm.trans (listed other delivery found)) (by simp)
  · rw [Store.get?_redeliver held order]
    cases found : IdMap.lookup? other (held.own consumer id count) with
    | none => exact ⟨delivery.count, present⟩
    | some again =>
      obtain rfl := Option.some.inj (present.symm.trans (listed other again found))
      exact ⟨delivery.count + 1, rfl⟩

/-- An acknowledgement keeps a group but for what it acknowledges. -/
theorem kept_acknowledge (held : Group) (ids : List StreamId) {acked : StreamId → Prop}
    (told : ∀ id ∈ ids, acked id) :
    held.Kept acked { held with pending := (held.pending.eraseAll ids).2 } := by
  refine ⟨StreamId.le_refl _, fun id _ none => ?_, fun id delivery present unacked => ?_⟩
  · rw [IdMap.get?_eraseAll, none]
    exact ite_self _
  · refine ⟨delivery.count, ?_⟩
    rw [IdMap.get?_eraseAll, if_neg fun member => unacked (told id member)]
    exact present

end Group

/-! ### Changes of a stream -/

namespace Content

theorem kept_changeGroup (content : Content) (group : String) {change : Group → Group}
    {acked : String → StreamId → Prop}
    (kept : ∀ held, content.groups.get? group = some held →
      held.Kept (acked group) (change held)) :
    content.Kept acked (content.changeGroup group change) := by
  cases member : content.groups.get? group with
  | none =>
    rw [StoreCall.changeGroup_of_none member]
    exact content.kept_refl acked
  | some held =>
    rw [StoreCall.changeGroup_of_some member]
    refine ⟨StreamId.le_refl _, fun _ _ none => none, fun other value otherMember => ?_⟩
    by_cases own : other = group
    · subst own
      obtain rfl := Option.some.inj (member.symm.trans otherMember)
      exact ⟨change held, Table.get?_set_self _ _ _, kept held member⟩
    · exact ⟨value, (Table.get?_set_of_ne _ own _).trans otherMember, value.kept_refl _⟩

/-- An entry added behind all others keeps a stream. -/
theorem kept_add (content : Content) (acked : String → StreamId → Prop) {id : StreamId}
    (behind : content.lastId < id) (fields : Fields) :
    content.Kept acked (content.add id fields) where
  reached := StreamId.le_of_lt behind
  deleted := by
    intro other atMost none
    rw [add, IdMap.get?_insert, if_neg]
    · exact none
    · rintro rfl
      exact StreamId.not_le.mpr behind atMost
  groups := fun group held member => ⟨held, member, held.kept_refl _⟩

end Content

namespace StoreCall

/-- What a working call keeps of the stream it names. -/
theorem kept_effect (call : StoreCall) {content : Content} (sound : content.Sound)
    {stream : String} (named : call.target? = some stream) :
    ∃ left, call.effect (some content) = some left ∧ content.Kept (call.Acks stream) left := by
  cases call with
  | append now target fields =>
    exact ⟨_, rfl, content.kept_add _ (Content.lt_nextId sound.unexhausted now) _⟩
  | appendWithId target id fields =>
    by_cases behind : id ≤ content.lastId
    · exact ⟨content, congrArg some (if_pos behind), content.kept_refl _⟩
    · exact ⟨content.add id (.ofList fields), congrArg some (if_neg behind),
        content.kept_add _ (StreamId.not_le.mp behind) _⟩
  | createGroup target group =>
    by_cases taken : content.groups.contains group = true
    · exact ⟨content, congrArg some (if_pos taken), content.kept_refl _⟩
    · refine ⟨_, congrArg some (if_neg taken), StreamId.le_refl _, fun _ _ none => none,
        fun other held member => ⟨held, ?_, held.kept_refl _⟩⟩
      refine (Table.get?_set_of_ne _ ?_ _).trans member
      rintro rfl
      rw [Table.contains, member] at taken
      exact taken rfl
  | readGroup target group consumer offset count =>
    refine ⟨_, rfl, content.kept_changeGroup group fun held member => ?_⟩
    have groupSound := sound.groups group held member
    cases offset with
    | lastConsumed => exact Group.kept_deliver sound groupSound _ consumer count
    | pendingAfter id => exact Group.kept_redeliver groupSound.ascending _ consumer id count
  | acknowledge target group ids =>
    obtain rfl := Option.some.inj named
    exact ⟨_, rfl, content.kept_changeGroup group fun held _ =>
      held.kept_acknowledge ids fun id member => ⟨ids, rfl, member⟩⟩
  | delete target ids =>
    refine ⟨_, rfl, StreamId.le_refl _, fun id _ none => ?_,
      fun group held member => ⟨held, member, held.kept_refl _⟩⟩
    show (content.entries.eraseAll ids).2.get? id = _
    rw [IdMap.get?_eraseAll, none]
    exact ite_self _
  | hasStream | groupNames | pending | range | cluster | inject | clear | setClusterState =>
    exact absurd named (by simp [target?])

/-- What a call keeps of the streams of a store. -/
theorem kept_perform (call : StoreCall) {store : Store} (sound : store.Sound) :
    store.Kept call.Acks (call.perform store).2 := by
  intro stream content present
  rcases call.content?_perform store stream with same | ⟨_, named, told⟩
  · exact ⟨content, same.trans present, content.kept_refl _⟩
  · obtain ⟨left, made, kept⟩ := call.kept_effect (sound stream content present) named
    exact ⟨left, by rw [told, present, made], kept⟩

end StoreCall

/-! ### Entries with fields -/

/-- Whether every entry of a stream has a field. -/
def Content.Filled (content : Content) : Prop :=
  ∀ id fields, content.entries.get? id = some fields → fields.isEmpty = false

/-- Whether every entry of a store has a field. -/
def Store.Filled (store : Store) : Prop :=
  ∀ stream content, store.content? stream = some content → content.Filled

/-- Whether a call appends no entry without fields. -/
def StoreCall.Fills : StoreCall → Prop
  | .append _ _ fields => fields ≠ []
  | .appendWithId _ _ fields => fields ≠ []
  | _ => True

theorem Fields.isEmpty_insert (fields : Fields) (name value : String) :
    (fields.insert name value).isEmpty = false := by
  obtain ⟨entries⟩ := fields
  cases entries with
  | nil => rfl
  | cons entry rest =>
    obtain ⟨other, held⟩ := entry
    show (insertEntry name value ((other, held) :: rest)).isEmpty = false
    rw [insertEntry]
    split
    · rfl
    · split <;> rfl

theorem Fields.isEmpty_ofList {fields : List (String × String)} (some_ : fields ≠ []) :
    (Fields.ofList fields).isEmpty = false := by
  obtain ⟨first, last, rfl⟩ : ∃ first last, fields = first ++ [last] :=
    ⟨fields.dropLast, fields.getLast some_, (List.dropLast_concat_getLast some_).symm⟩
  rw [ofList, List.foldl_append]
  exact isEmpty_insert _ _ _

theorem Content.filled_add {content : Content} (filled : content.Filled) (id : StreamId)
    {fields : List (String × String)} (some_ : fields ≠ []) :
    (content.add id (.ofList fields)).Filled := by
  intro other held present
  rw [add, IdMap.get?_insert] at present
  split at present
  · exact Option.some.inj present ▸ Fields.isEmpty_ofList some_
  · exact filled other held present

theorem StoreCall.filled_effect (call : StoreCall) {held : Option Content}
    (filled : ∀ content, held = some content → content.Filled) (fills : call.Fills)
    {left : Content} (made : call.effect held = some left) : left.Filled := by
  have start : (held.getD .empty).Filled := by
    cases held with
    | none => exact fun _ _ impossible => by cases impossible
    | some content => exact filled content rfl
  cases call with
  | append now target fields =>
    obtain rfl := Option.some.inj made
    exact Content.filled_add start _ fills
  | appendWithId target id fields =>
    obtain rfl := Option.some.inj made
    split
    · exact start
    · exact Content.filled_add start id fills
  | createGroup target group =>
    obtain ⟨content, rfl, rfl⟩ := Option.map_eq_some_iff.mp made
    split <;> exact start
  | readGroup target group consumer offset count =>
    obtain ⟨content, rfl, rfl⟩ := Option.map_eq_some_iff.mp made
    intro id fields present
    rw [Store.entries_changeGroup] at present
    exact start id fields present
  | acknowledge target group ids =>
    obtain ⟨content, rfl, rfl⟩ := Option.map_eq_some_iff.mp made
    intro id fields present
    rw [Store.entries_changeGroup] at present
    exact start id fields present
  | delete target ids =>
    obtain ⟨content, rfl, rfl⟩ := Option.map_eq_some_iff.mp made
    intro id fields present
    rw [IdMap.get?_eraseAll] at present
    split at present
    · cases present
    · exact start id fields present
  | hasStream | groupNames | pending | range | cluster | inject | clear | setClusterState =>
    exact filled left made

/-- A call that appends no entry without fields leaves a store filled. -/
theorem Store.Filled.perform {store : Store} (filled : store.Filled) {call : StoreCall}
    (fills : call.Fills) : (call.perform store).2.Filled := by
  intro stream content present
  rcases call.content?_perform store stream with same | ⟨_, _, told⟩
  · exact filled stream content (same ▸ present)
  · exact call.filled_effect (filled stream) fills (told ▸ present)

theorem Store.filled_empty : empty.Filled :=
  fun _ _ present => absurd present (by simp [empty, content?])

/-- A run of calls that append no entry without fields leaves a store filled. -/
theorem Store.Filled.after {store : Store} (filled : store.Filled) {calls : List StoreCall}
    (fills : ∀ call ∈ calls, call.Fills) : (store.after calls).Filled := by
  induction calls generalizing store with
  | nil => exact filled
  | cons call rest inductionHypothesis =>
    exact inductionHypothesis (filled.perform (fills call List.mem_cons_self))
      fun other member => fills other (List.mem_cons_of_mem _ member)

/-! ### Single entries -/

namespace Store

/-- The delivery of an entry that is pending in a group. -/
def delivery? (store : Store) (stream group : String) (id : StreamId) : Option Delivery :=
  (store.group? stream group).bind fun held => held.pending.get? id

/-- Whether an entry was deleted from a stream. -/
def Deleted (store : Store) (stream : String) (id : StreamId) : Prop :=
  ∃ content, store.content? stream = some content ∧ id ≤ content.lastId ∧
    content.entries.get? id = none

/-- Whether an entry that was delivered by a group is no longer pending in it. -/
def Done (store : Store) (stream group : String) (id : StreamId) : Prop :=
  ∃ held, store.group? stream group = some held ∧ id ≤ held.lastDelivered ∧
    held.pending.get? id = none

variable {before after : Store} {acked : String → String → StreamId → Prop}
  {stream group : String} {id : StreamId}

theorem Deleted.fieldsAt? (deleted : before.Deleted stream id) :
    before.fieldsAt? stream id = none := by
  obtain ⟨content, present, _, absent⟩ := deleted
  rw [Store.fieldsAt?, present]
  exact absent

theorem Done.delivery? (done : before.Done stream group id) :
    before.delivery? stream group id = none := by
  obtain ⟨held, member, _, absent⟩ := done
  rw [Store.delivery?, member]
  exact absent

/-- What is kept of the groups of a store. -/
theorem Kept.group? (kept : before.Kept acked after) {held : Group}
    (member : before.group? stream group = some held) :
    ∃ left, after.group? stream group = some left ∧ held.Kept (acked stream group) left := by
  obtain ⟨content, present, own⟩ := Option.bind_eq_some_iff.mp member
  obtain ⟨left, still, contentKept⟩ := kept stream content present
  obtain ⟨value, found, groupKept⟩ := contentKept.groups group held own
  exact ⟨value, (group?_eq still group).trans found, groupKept⟩

theorem Deleted.kept (kept : before.Kept acked after) (deleted : before.Deleted stream id) :
    after.Deleted stream id := by
  obtain ⟨content, present, atMost, absent⟩ := deleted
  obtain ⟨left, still, contentKept⟩ := kept stream content present
  exact ⟨left, still, StreamId.le_trans atMost contentKept.reached,
    contentKept.deleted id atMost absent⟩

theorem Done.kept (kept : before.Kept acked after) (done : before.Done stream group id) :
    after.Done stream group id := by
  obtain ⟨held, member, atMost, absent⟩ := done
  obtain ⟨left, still, groupKept⟩ := kept.group? member
  exact ⟨left, still, StreamId.le_trans atMost groupKept.reached,
    groupKept.absent id atMost absent⟩

/-- A pending entry stays pending with its consumer unless it is acknowledged. -/
theorem Kept.delivery? (kept : before.Kept acked after) {delivery : Delivery}
    (pending : before.delivery? stream group id = some delivery)
    (unacked : ¬ acked stream group id) :
    ∃ count, after.delivery? stream group id = some ⟨delivery.consumer, count⟩ := by
  obtain ⟨held, member, present⟩ := Option.bind_eq_some_iff.mp pending
  obtain ⟨left, still, groupKept⟩ := kept.group? member
  obtain ⟨count, found⟩ := groupKept.pending id delivery present unacked
  refine ⟨count, ?_⟩
  rw [Store.delivery?, still]
  exact found

/-- A group after a call that changes it alone. -/
theorem group?_of_changed {change : Content → Group → Group}
    (told : ∀ other, after.content? other =
      if other = stream then
        (before.content? stream).map fun content => content.changeGroup group (change content)
      else before.content? other) {content : Content}
    (present : before.content? stream = some content) {held : Group}
    (member : content.groups.get? group = some held) :
    after.group? stream group = some (change content held) := by
  have changed : after.content? stream = some (content.changeGroup group (change content)) := by
    rw [told, if_pos rfl, present, Option.map_some]
  rw [group?_eq changed, StoreCall.changeGroup_of_some member]
  exact Table.get?_set_self _ _ _

/-- An entry that was acknowledged is done with, if it was pending at all. -/
theorem done_of_acknowledged (working : before.failure = none) (sound : before.Sound)
    {ids : List StreamId} (listed : id ∈ ids)
    (delivered : before.Done stream group id ∨
      ∃ delivery, before.delivery? stream group id = some delivery) :
    (before.acknowledge stream group ids).2.Done stream group id := by
  rcases delivered with done | ⟨delivery, pending⟩
  · exact done.kept ((StoreCall.acknowledge stream group ids).kept_perform sound)
  · obtain ⟨held, member, present⟩ := Option.bind_eq_some_iff.mp pending
    obtain ⟨content, stored, own⟩ := Option.bind_eq_some_iff.mp member
    have atMost := ((sound stream content stored).groups group held own).delivered id
      (IdMap.mem_ids_iff.mpr ⟨delivery, present⟩)
    refine ⟨_, group?_of_changed
      (fun other => StoreCall.content?_acknowledge working stream group other ids) stored own,
      atMost, ?_⟩
    rw [IdMap.get?_eraseAll, if_pos listed]

/-- What a read delivers is pending with its consumer afterwards. -/
theorem delivery?_of_read (working : before.failure = none) (sound : before.Sound)
    {content : Content} (present : before.content? stream = some content) {held : Group}
    (member : content.groups.get? group = some held) {consumer : String} {offset : ReadOffset}
    {count : Nat} {record : Record}
    (delivered : record ∈ content.readRecords stream consumer offset count held) :
    ∃ times, (before.readGroup stream group consumer offset count).2.delivery? stream group
      record.id = some ⟨consumer, times⟩ := by
  rw [delivery?, group?_of_changed
    (fun other => StoreCall.content?_readGroup working stream group consumer other offset count)
    present member, Option.bind_some]
  cases offset with
  | lastConsumed =>
    obtain ⟨entry, fresh, rfl⟩ := List.mem_map.mp delivered
    refine ⟨1, ?_⟩
    rw [Content.readChange, get?_deliver, if_pos (List.mem_map.mpr ⟨entry, fresh, rfl⟩)]
  | pendingAfter start =>
    obtain ⟨entry, own, rfl⟩ := List.mem_map.mp delivered
    have order := Group.own_ascending
      ((sound stream content present).groups group held member).ascending consumer start count
    have found : IdMap.lookup? entry.1 (held.own consumer start count) = some entry.2 :=
      @IdMap.Ascending.get?_of_mem _ ⟨held.own consumer start count⟩ order _ _ own
    refine ⟨entry.2.count + 1, ?_⟩
    rw [Content.readChange, get?_redeliver held order, found, ← (Group.own_subset own).2.2]

/-- A tombstone is delivered by a replay, and its entry was deleted. -/
theorem deleted_of_read (sound : before.Sound) (filled : before.Filled) {content : Content}
    (present : before.content? stream = some content) {held : Group}
    (member : content.groups.get? group = some held) {consumer : String} {offset : ReadOffset}
    {count : Nat} {record : Record}
    (delivered : record ∈ content.readRecords stream consumer offset count held)
    (tombstone : record.isTombstone = true) :
    (∃ start, offset = .pendingAfter start) ∧ before.Deleted stream record.id := by
  have contentSound := sound stream content present
  have groupSound := contentSound.groups group held member
  cases offset with
  | lastConsumed =>
    obtain ⟨entry, fresh, rfl⟩ := List.mem_map.mp delivered
    have found := contentSound.ascending.get?_of_mem (Group.fresh_subset fresh).1
    exact absurd tombstone
      (Bool.eq_false_iff.mp (filled stream content present entry.1 entry.2 found))
  | pendingAfter start =>
    obtain ⟨entry, own, rfl⟩ := List.mem_map.mp delivered
    refine ⟨⟨start, rfl⟩, content, present, ?_, ?_⟩
    · exact StreamId.le_trans (groupSound.delivered entry.1
        (List.mem_map.mpr ⟨entry, (Group.own_subset own).1, rfl⟩)) groupSound.reached
    · cases found : content.entries.get? entry.1 with
      | none => rfl
      | some fields =>
        rw [Record.isTombstone, found] at tombstone
        exact absurd tombstone
          (Bool.eq_false_iff.mp (filled stream content present entry.1 fields found))

theorem stream_of_read {content : Content} {held : Group} {consumer : String}
    {offset : ReadOffset} {count : Nat} {record : Record}
    (delivered : record ∈ content.readRecords stream consumer offset count held) :
    record.stream = stream := by
  cases offset with
  | lastConsumed | pendingAfter =>
    obtain ⟨entry, _, rfl⟩ := List.mem_map.mp delivered
    rfl

end Store

end AccessFeed.Streams
