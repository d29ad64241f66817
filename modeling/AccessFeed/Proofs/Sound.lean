/-
This file proves that the streams of a store stay sound.

A stream is sound when its entries and the pending entries of its groups are in
order, no entry is behind the id given out last, no group has delivered further
than that id, and nothing is pending that was not delivered. A call keeps a
stream sound unless it gives out the greatest id: behind that one ids start
over, and every bound on them is lost.
-/

import AccessFeed.Proofs.Stores

namespace AccessFeed.Streams

/-! ### Deliveries -/

namespace Store

theorem get?_deliver (consumer : String) (held : Group) (fresh : List (StreamId × Fields))
    (id : StreamId) :
    (deliver consumer held fresh).pending.get? id =
      if id ∈ fresh.map Prod.fst then some ⟨consumer, 1⟩ else held.pending.get? id := by
  induction fresh generalizing held with
  | nil => simp [deliver]
  | cons entry rest inductionHypothesis =>
    obtain ⟨first, fields⟩ := entry
    rw [deliver, inductionHypothesis, IdMap.get?_insert]
    by_cases later : id ∈ rest.map Prod.fst
    · simp [later]
    · by_cases same : id = first <;> simp [later, same]

theorem ascending_deliver (consumer : String) {held : Group} (fresh : List (StreamId × Fields))
    (ascending : held.pending.Ascending) :
    (deliver consumer held fresh).pending.Ascending := by
  induction fresh generalizing held with
  | nil => exact ascending
  | cons entry rest inductionHypothesis => exact inductionHypothesis (ascending.insert _ _)

/-- A group has delivered as far as before, or up to one of the entries delivered now. -/
theorem lastDelivered_deliver (consumer : String) (held : Group)
    (fresh : List (StreamId × Fields)) :
    (deliver consumer held fresh).lastDelivered = held.lastDelivered ∨
      ∃ entry ∈ fresh, (deliver consumer held fresh).lastDelivered = entry.1 := by
  induction fresh generalizing held with
  | nil => exact Or.inl rfl
  | cons entry rest inductionHypothesis =>
    obtain ⟨first, fields⟩ := entry
    rw [deliver]
    rcases inductionHypothesis ⟨first, held.pending.insert first ⟨consumer, 1⟩⟩ with
      same | ⟨later, member, same⟩
    · exact Or.inr ⟨(first, fields), List.mem_cons_self, same⟩
    · exact Or.inr ⟨later, List.mem_cons_of_mem _ member, same⟩

/-- Entries delivered in order, all behind what was delivered before, are reached by the group. -/
theorem le_lastDelivered_deliver (consumer : String) {held : Group}
    {fresh : List (StreamId × Fields)}
    (ascending : fresh.Pairwise fun first second => first.1 < second.1)
    (behind : ∀ entry ∈ fresh, held.lastDelivered < entry.1) :
    held.lastDelivered ≤ (deliver consumer held fresh).lastDelivered ∧
      ∀ entry ∈ fresh, entry.1 ≤ (deliver consumer held fresh).lastDelivered := by
  induction fresh generalizing held with
  | nil => exact ⟨StreamId.le_refl _, fun entry member => absurd member List.not_mem_nil⟩
  | cons entry rest inductionHypothesis =>
    obtain ⟨first, fields⟩ := entry
    obtain ⟨least, others⟩ := List.pairwise_cons.mp ascending
    rw [deliver]
    obtain ⟨reached, each⟩ :=
      @inductionHypothesis ⟨first, held.pending.insert first ⟨consumer, 1⟩⟩ others least
    refine ⟨StreamId.le_trans (StreamId.le_of_lt (behind _ List.mem_cons_self)) reached, ?_⟩
    intro other member
    rcases List.mem_cons.mp member with same | later
    · exact same ▸ reached
    · exact each other later

@[simp] theorem lastDelivered_redeliver (held : Group) (own : List (StreamId × Delivery)) :
    (redeliver held own).lastDelivered = held.lastDelivered := by
  induction own generalizing held with
  | nil => rfl
  | cons entry rest inductionHypothesis => exact inductionHypothesis _

theorem ascending_redeliver {held : Group} (own : List (StreamId × Delivery))
    (ascending : held.pending.Ascending) : (redeliver held own).pending.Ascending := by
  induction own generalizing held with
  | nil => exact ascending
  | cons entry rest inductionHypothesis => exact inductionHypothesis (ascending.insert _ _)

/-- Redelivering counts one more delivery of each entry and changes nothing else. -/
theorem get?_redeliver (held : Group) {own : List (StreamId × Delivery)}
    (ascending : own.Pairwise fun first second => first.1 < second.1) (id : StreamId) :
    (redeliver held own).pending.get? id =
      match IdMap.lookup? id own with
      | some delivery => some { delivery with count := delivery.count + 1 }
      | none => held.pending.get? id := by
  induction own generalizing held with
  | nil => rfl
  | cons entry rest inductionHypothesis =>
    obtain ⟨first, delivery⟩ := entry
    obtain ⟨least, others⟩ := List.pairwise_cons.mp ascending
    rw [redeliver, inductionHypothesis _ others, IdMap.get?_insert, IdMap.lookup?]
    by_cases same : id = first
    · have absent : IdMap.lookup? id rest = none :=
        IdMap.lookup?_eq_none_iff.mpr fun other member repeated =>
          StreamId.ne_of_lt (least other member) (same.symm.trans repeated.symm)
      rw [absent, if_pos same.symm, if_pos same]
    · rw [if_neg same, if_neg (Ne.symm same)]

end Store

theorem Group.own_subset {held : Group} {consumer : String} {id : StreamId} {count : Nat}
    {entry : StreamId × Delivery} (member : entry ∈ held.own consumer id count) :
    entry ∈ held.pending.entries ∧ id.successor ≤ entry.1 ∧ entry.2.consumer = consumer := by
  have filtered := List.mem_filter.mp (List.mem_of_mem_take member)
  obtain ⟨listed, behind⟩ := IdMap.mem_startingAt.mp filtered.1
  exact ⟨listed, behind, beq_iff_eq.mp filtered.2⟩

theorem Group.own_ascending {held : Group} (ascending : held.pending.Ascending)
    (consumer : String) (id : StreamId) (count : Nat) :
    (held.own consumer id count).Pairwise fun first second => first.1 < second.1 :=
  ((ascending.startingAt id.successor).filter _).take

theorem Group.fresh_subset {held : Group} {content : Content} {count : Nat}
    {entry : StreamId × Fields} (member : entry ∈ held.fresh content count) :
    entry ∈ content.entries.entries ∧ held.lastDelivered.successor ≤ entry.1 :=
  IdMap.mem_startingAt.mp (List.mem_of_mem_take member)

theorem Group.fresh_ascending {content : Content} (ascending : content.entries.Ascending)
    (held : Group) (count : Nat) :
    (held.fresh content count).Pairwise fun first second => first.1 < second.1 :=
  (ascending.startingAt held.lastDelivered.successor).take

/-! ### Sound streams -/

/-- Whether a group of a stream is sound, whose stream gave out an id last. -/
structure Group.Sound (held : Group) (lastId : StreamId) : Prop where
  reached : held.lastDelivered ≤ lastId
  ascending : held.pending.Ascending
  delivered : ∀ id ∈ held.pending.ids, id ≤ held.lastDelivered

/-- Whether a stream is sound. -/
structure Content.Sound (content : Content) : Prop where
  ascending : content.entries.Ascending
  bounded : ∀ id ∈ content.entries.ids, id ≤ content.lastId
  unexhausted : content.lastId ≠ .greatest
  groups : ∀ group held, content.groups.get? group = some held → held.Sound content.lastId

namespace Content

theorem sound_empty : empty.Sound where
  ascending := IdMap.ascending_empty
  bounded := fun _ member => absurd member List.not_mem_nil
  unexhausted := by decide
  groups := fun _ _ member => absurd member (by simp [empty])

/-- An append gives out an id behind all earlier ones. -/
theorem lt_nextId {content : Content} (unexhausted : content.lastId ≠ .greatest) (now : UInt64) :
    content.lastId < content.nextId now := by
  rw [nextId]
  split
  · rename_i later
    have less : content.lastId.millis.toNat < now.toNat := UInt64.lt_iff_toNat_lt.mp later
    have bound := content.lastId.seq.toNat_lt
    show content.lastId.millis.toNat * 2 ^ 64 + content.lastId.seq.toNat < now.toNat * 2 ^ 64 + 0
    omega
  · exact StreamId.lt_successor unexhausted

/-- Adding an entry behind all others keeps a stream sound. -/
theorem Sound.add {content : Content} (sound : content.Sound) {id : StreamId}
    (behind : content.lastId < id) (below : id ≠ .greatest) (fields : Fields) :
    (content.add id fields).Sound where
  ascending := sound.ascending.insert id fields
  bounded := by
    intro other member
    rcases IdMap.mem_ids_insert.mp member with same | present
    · exact same ▸ StreamId.le_refl _
    · exact StreamId.le_trans (sound.bounded other present) (StreamId.le_of_lt behind)
  unexhausted := below
  groups := fun group held member =>
    have groupSound := sound.groups group held member
    { groupSound with
      reached := StreamId.le_trans groupSound.reached (StreamId.le_of_lt behind) }

/-- Setting a group that is sound keeps a stream sound. -/
theorem Sound.setGroup {content : Content} (sound : content.Sound) (group : String)
    {held : Group} (groupSound : held.Sound content.lastId) :
    { content with groups := content.groups.set group held }.Sound where
  ascending := sound.ascending
  bounded := sound.bounded
  unexhausted := sound.unexhausted
  groups := by
    intro other value member
    rw [Table.get?_set] at member
    split at member
    · exact Option.some.inj member ▸ groupSound
    · exact sound.groups other value member

theorem Sound.changeGroup {content : Content} (sound : content.Sound) (group : String)
    {change : Group → Group}
    (kept : ∀ held, content.groups.get? group = some held → held.Sound content.lastId →
      (change held).Sound content.lastId) :
    (content.changeGroup group change).Sound := by
  rw [Content.changeGroup]
  cases member : content.groups.get? group with
  | none => exact sound
  | some held => exact sound.setGroup group (kept held member (sound.groups group held member))

theorem lastDelivered_ne_greatest {content : Content} (sound : content.Sound) {held : Group}
    (groupSound : held.Sound content.lastId) : held.lastDelivered ≠ .greatest := by
  intro greatest
  have reached := groupSound.reached
  rw [greatest] at reached
  exact sound.unexhausted
    (StreamId.rank_injective (Nat.le_antisymm content.lastId.le_greatest reached))

/-- The entries delivered as new are behind everything the group delivered before. -/
theorem lt_of_mem_fresh {content : Content} (sound : content.Sound) {held : Group}
    (groupSound : held.Sound content.lastId) {count : Nat} {entry : StreamId × Fields}
    (member : entry ∈ held.fresh content count) : held.lastDelivered < entry.1 :=
  (StreamId.successor_le_iff (lastDelivered_ne_greatest sound groupSound)).mp
    (Group.fresh_subset member).2

theorem Sound.deliver {content : Content} (sound : content.Sound) {held : Group}
    (groupSound : held.Sound content.lastId) (consumer : String) (count : Nat) :
    (Store.deliver consumer held (held.fresh content count)).Sound content.lastId where
  reached := by
    rcases Store.lastDelivered_deliver consumer held (held.fresh content count) with
      same | ⟨entry, member, same⟩
    · exact same ▸ groupSound.reached
    · rw [same]
      exact sound.bounded entry.1
        (List.mem_map.mpr ⟨entry, (Group.fresh_subset member).1, rfl⟩)
  ascending := Store.ascending_deliver consumer _ groupSound.ascending
  delivered := by
    obtain ⟨further, each⟩ := Store.le_lastDelivered_deliver consumer
      (Group.fresh_ascending sound.ascending held count)
      fun entry member => lt_of_mem_fresh sound groupSound member
    intro id member
    obtain ⟨delivery, present⟩ := IdMap.mem_ids_iff.mp member
    rw [Store.get?_deliver] at present
    split at present
    · rename_i fresh
      obtain ⟨entry, freshMember, same⟩ := List.mem_map.mp fresh
      exact same ▸ each entry freshMember
    · exact StreamId.le_trans
        (groupSound.delivered id (IdMap.mem_ids_iff.mpr ⟨delivery, present⟩)) further

end Content

/-- What is pending after entries of the pending list were redelivered was pending before. -/
theorem Group.mem_ids_redeliver {held : Group} {own : List (StreamId × Delivery)}
    (ascending : own.Pairwise fun first second => first.1 < second.1)
    (subset : ∀ entry ∈ own, entry ∈ held.pending.entries) {id : StreamId} :
    id ∈ (Store.redeliver held own).pending.ids ↔ id ∈ held.pending.ids := by
  rw [IdMap.mem_ids_iff, Store.get?_redeliver held ascending]
  cases found : IdMap.lookup? id own with
  | none => rw [IdMap.mem_ids_iff]
  | some delivery =>
    have member : id ∈ held.pending.ids :=
      List.mem_map.mpr ⟨_, subset _ (IdMap.mem_of_lookup? found), rfl⟩
    exact ⟨fun _ => member, fun _ => ⟨_, rfl⟩⟩

theorem Group.Sound.redeliver {held : Group} {lastId : StreamId} (sound : held.Sound lastId)
    (consumer : String) (id : StreamId) (count : Nat) :
    (Store.redeliver held (held.own consumer id count)).Sound lastId where
  reached := by
    rw [Store.lastDelivered_redeliver]
    exact sound.reached
  ascending := Store.ascending_redeliver _ sound.ascending
  delivered := by
    intro other member
    rw [Store.lastDelivered_redeliver]
    exact sound.delivered other
      ((Group.mem_ids_redeliver (Group.own_ascending sound.ascending consumer id count)
        fun entry own => (Group.own_subset own).1).mp member)

theorem Group.Sound.acknowledge {held : Group} {lastId : StreamId} (sound : held.Sound lastId)
    (ids : List StreamId) :
    { held with pending := (held.pending.eraseAll ids).2 }.Sound lastId where
  reached := sound.reached
  ascending := sound.ascending.eraseAll ids
  delivered := fun id member => sound.delivered id (IdMap.mem_ids_eraseAll.mp member).1

/-! ### Calls keep streams sound -/

namespace StoreCall

/-- The id that a working call gives out for the stream it names. -/
def given? (held : Option Content) : StoreCall → Option StreamId
  | .append now _ _ => some ((held.getD .empty).nextId now)
  | .appendWithId _ id _ => if id ≤ (held.getD .empty).lastId then none else some id
  | _ => none

theorem sound_effect (call : StoreCall) {held : Option Content}
    (sound : ∀ content, held = some content → content.Sound)
    (below : call.given? held ≠ some .greatest) {content : Content}
    (made : call.effect held = some content) : content.Sound := by
  have start : (held.getD .empty).Sound := by
    cases held with
    | none => exact Content.sound_empty
    | some present => exact sound present rfl
  cases call with
  | append now stream fields =>
    rw [← Option.some.inj made]
    exact start.add (Content.lt_nextId start.unexhausted now)
      (fun greatest => below (congrArg some greatest)) _
  | appendWithId stream id fields =>
    rw [← Option.some.inj made]
    rw [given?] at below
    split
    · exact start
    · rename_i ahead
      rw [if_neg ahead] at below
      exact start.add (StreamId.not_le.mp ahead) (fun greatest => below (congrArg some greatest)) _
  | createGroup stream group =>
    obtain ⟨present, rfl, rfl⟩ := Option.map_eq_some_iff.mp made
    split
    · exact start
    · exact start.setGroup group ⟨StreamId.le_refl _, IdMap.ascending_empty,
        fun _ member => absurd member List.not_mem_nil⟩
  | readGroup stream group consumer offset count =>
    obtain ⟨present, rfl, rfl⟩ := Option.map_eq_some_iff.mp made
    refine start.changeGroup group fun value _ groupSound => ?_
    cases offset with
    | lastConsumed => exact start.deliver groupSound consumer count
    | pendingAfter id => exact groupSound.redeliver consumer id count
  | acknowledge stream group ids =>
    obtain ⟨present, rfl, rfl⟩ := Option.map_eq_some_iff.mp made
    exact start.changeGroup group fun value _ groupSound => groupSound.acknowledge ids
  | delete stream ids =>
    obtain ⟨present, rfl, rfl⟩ := Option.map_eq_some_iff.mp made
    exact {
      ascending := start.ascending.eraseAll ids
      bounded := fun id member => start.bounded id (IdMap.mem_ids_eraseAll.mp member).1
      unexhausted := start.unexhausted
      groups := start.groups }
  | hasStream | groupNames | pending | range | cluster | inject | clear | setClusterState =>
    exact sound content made

/-- An answer that is no id is not the greatest one. -/
theorem answer_ne_greatest {Value : Type} {reply : Value → StoreReply}
    (other : ∀ value, reply value ≠ .id .greatest) (answer : Answer Value) :
    (answer.as reply).1 ≠ .ok (.id .greatest) := by
  obtain ⟨result, store⟩ := answer
  cases result with
  | error error => exact fun impossible => by cases impossible
  | ok value => exact fun same => other value (Except.ok.inj same)

/-- A working call answers the id it gives out. -/
theorem answer_of_given {call : StoreCall} {store : Store} (working : store.failure = none)
    {stream : String} (named : call.target? = some stream) {id : StreamId}
    (given : call.given? (store.content? stream) = some id) :
    (call.perform store).1 = .ok (.id id) := by
  cases call with
  | append now target fields =>
    obtain rfl := Option.some.inj named
    show ((store.append now target fields).as StoreReply.id).1 = _
    rw [Store.append, Store.guarded_of_working working]
    exact congrArg (fun id => Except.ok (StoreReply.id id)) (Option.some.inj given)
  | appendWithId target asked fields =>
    obtain rfl := Option.some.inj named
    rw [given?] at given
    split at given
    · exact absurd given (by simp)
    · rename_i ahead
      show ((store.appendWithId target asked fields).as StoreReply.id).1 = _
      rw [Store.appendWithId_of_lt working ahead]
      exact congrArg (fun id => Except.ok (StoreReply.id id)) (Option.some.inj given)
  | hasStream | groupNames | createGroup | readGroup | acknowledge | pending | range | delete
  | cluster | inject | clear | setClusterState => exact absurd given (by simp [given?])

end StoreCall

/-- Whether all streams of a store are sound. -/
def Store.Sound (store : Store) : Prop :=
  ∀ stream content, store.content? stream = some content → content.Sound

namespace Store

theorem sound_empty : empty.Sound :=
  fun _ _ present => absurd present (by simp [empty, content?])

/-- A call that does not give out the greatest id keeps a store sound. -/
theorem Sound.perform {store : Store} (sound : store.Sound) {call : StoreCall}
    (below : (call.perform store).1 ≠ .ok (.id .greatest)) : (call.perform store).2.Sound := by
  intro stream content present
  rcases call.content?_perform store stream with same | ⟨working, named, told⟩
  · exact sound stream content (same ▸ present)
  · refine call.sound_effect (sound stream) (fun given => ?_) (told ▸ present)
    exact below (StoreCall.answer_of_given working named given)

/-- A run of calls that never gives out the greatest id keeps a store sound. -/
theorem Sound.after {store : Store} (sound : store.Sound) (calls : List StoreCall)
    (below : ∀ turn ∈ store.turns calls, turn.answer ≠ .ok (.id .greatest)) :
    (store.after calls).Sound := by
  induction calls generalizing store with
  | nil => exact sound
  | cons call rest inductionHypothesis =>
    refine inductionHypothesis (sound.perform (below _ List.mem_cons_self)) ?_
    exact fun turn member => below turn (List.mem_cons_of_mem _ member)

end Store

end AccessFeed.Streams
