/-
This file says what is pending with a consumer.

The pending ids of a consumer ascend. A replay reads them from behind an id on,
and leaves them as they are; an acknowledgement takes the named ones away. All of
them are behind the least id, so that a replay from there on meets each. An entry
stays what it is as long as it is there: nothing but its deletion changes it.
-/

import AccessFeed.Proofs.Groups

namespace AccessFeed.Streams

/-! ### Ids in order -/

/-- Ascending ids are determined by which ones there are. -/
theorem StreamId.eq_of_ascending {first second : List StreamId} (left : first.Pairwise (· < ·))
    (right : second.Pairwise (· < ·)) (same : ∀ id, id ∈ first ↔ id ∈ second) :
    first = second := by
  have different : ∀ {first second : StreamId}, first < second → first ≠ second := ne_of_lt
  refine List.Perm.eq_of_pairwise (fun one other _ _ less more => ?_) left right
    ((List.perm_ext_iff_of_nodup (left.imp different) (right.imp different)).mpr same)
  exact absurd (lt_trans less more) (lt_irrefl one)

/-! ### The pending ids of a consumer -/

/-- The ids that are pending with a consumer. -/
def Group.idsOf (held : Group) (consumer : String) : List StreamId :=
  (held.pending.entries.filter fun entry => entry.2.consumer == consumer).map Prod.fst

/-- The ids that are pending with a consumer of a group. -/
def Store.pendingOf (store : Store) (stream group consumer : String) : List StreamId :=
  ((store.group? stream group).map fun held => held.idsOf consumer).getD []

namespace Group

variable {held : Group} {consumer : String}

theorem ascending_idsOf (ascending : held.pending.Ascending) (consumer : String) :
    (held.idsOf consumer).Pairwise (· < ·) :=
  List.pairwise_map.mpr (List.Pairwise.filter _ ascending)

theorem mem_idsOf (ascending : held.pending.Ascending) {id : StreamId} :
    id ∈ held.idsOf consumer ↔ ∃ count, held.pending.get? id = some ⟨consumer, count⟩ := by
  constructor
  · intro member
    obtain ⟨⟨_, delivery⟩, listed, rfl⟩ := List.mem_map.mp member
    obtain ⟨present, own⟩ := List.mem_filter.mp listed
    obtain rfl := beq_iff_eq.mp own
    exact ⟨delivery.count, ascending.get?_of_mem present⟩
  · rintro ⟨count, present⟩
    exact List.mem_map.mpr ⟨(id, ⟨consumer, count⟩),
      List.mem_filter.mpr ⟨IdMap.mem_of_get? present, beq_self_eq_true consumer⟩, rfl⟩

/-- What a replay reads are the first of the consumer's pending ids behind an id. -/
theorem map_own (held : Group) (consumer : String) (id : StreamId) (count : Nat) :
    (held.own consumer id count).map Prod.fst =
      ((held.idsOf consumer).filter fun other => id.successor ≤ other).take count := by
  rw [own, idsOf]
  generalize id.successor = start
  rw [IdMap.startingAt, List.map_take, List.filter_map, List.filter_filter, List.filter_filter]
  refine congrArg (fun entries => (entries.map Prod.fst).take count)
    (List.filter_congr fun (entry : StreamId × Delivery) _ => ?_)
  rw [Function.comp_apply]
  exact Bool.and_comm _ _

/-- A redelivery leaves what is pending with a consumer. -/
theorem idsOf_redeliver (ascending : held.pending.Ascending) (id : StreamId) (count : Nat) :
    (Store.redeliver held (held.own consumer id count)).idsOf consumer = held.idsOf consumer := by
  have after := Store.ascending_redeliver (held.own consumer id count) ascending
  refine StreamId.eq_of_ascending (ascending_idsOf after consumer)
    (ascending_idsOf ascending consumer) fun other => ?_
  rw [mem_idsOf after, mem_idsOf ascending,
    Store.get?_redeliver held (own_ascending ascending consumer id count)]
  cases found : IdMap.lookup? other (held.own consumer id count) with
  | none => exact Iff.rfl
  | some delivery =>
    obtain ⟨listed, _, rfl⟩ := own_subset (IdMap.mem_of_lookup? found)
    exact ⟨fun _ => ⟨delivery.count, ascending.get?_of_mem listed⟩, fun _ => ⟨_, rfl⟩⟩

/-- An acknowledgement takes ids from those that are pending with a consumer. -/
theorem idsOf_acknowledge (ascending : held.pending.Ascending) (ids : List StreamId) :
    idsOf { held with pending := (held.pending.eraseAll ids).2 } consumer =
      (held.idsOf consumer).filter fun id => id ∉ ids := by
  have after : (held.pending.eraseAll ids).2.Ascending := ascending.eraseAll ids
  refine StreamId.eq_of_ascending (ascending_idsOf after consumer)
    ((ascending_idsOf ascending consumer).filter _) fun id => ?_
  rw [mem_idsOf after, List.mem_filter, mem_idsOf ascending, IdMap.get?_eraseAll]
  by_cases listed : id ∈ ids
  · simp [listed]
  · simp [listed]

end Group

/-! ### Ids behind the least one -/

/-- Whether all entries and all pending ids of a stream are behind the least id. -/
structure Content.Rooted (content : Content) : Prop where
  entries : ∀ id ∈ content.entries.ids, .least < id
  pending : ∀ group held, content.groups.get? group = some held →
    ∀ id ∈ held.pending.ids, .least < id

namespace Content

variable {content : Content}

theorem rooted_empty : empty.Rooted where
  entries := fun _ never => absurd never List.not_mem_nil
  pending := fun _ _ never => absurd never (by simp [empty])

theorem Rooted.add (rooted : content.Rooted) {id : StreamId} (behind : content.lastId < id)
    (fields : Fields) : (content.add id fields).Rooted where
  entries := by
    intro other member
    rcases IdMap.mem_ids_insert.mp member with rfl | present
    · exact StreamId.lt_of_le_of_lt content.lastId.least_le behind
    · exact rooted.entries other present
  pending := rooted.pending

theorem Rooted.setGroup (rooted : content.Rooted) (group : String) {held : Group}
    (behind : ∀ id ∈ held.pending.ids, .least < id) :
    Rooted { content with groups := content.groups.set group held } where
  entries := rooted.entries
  pending := by
    intro other value member
    rw [Table.get?_set] at member
    split at member
    · exact Option.some.inj member ▸ behind
    · exact rooted.pending other value member

theorem Rooted.changeGroup (rooted : content.Rooted) (group : String) {change : Group → Group}
    (behind : ∀ held, content.groups.get? group = some held →
      ∀ id ∈ (change held).pending.ids, .least < id) :
    (content.changeGroup group change).Rooted := by
  rw [Content.changeGroup]
  cases member : content.groups.get? group with
  | none => exact rooted
  | some held => exact rooted.setGroup group (behind held member)

end Content

/-- A call that works gives out no id that is not behind the least one. -/
theorem StoreCall.rooted_effect (call : StoreCall) {held : Option Content}
    (sound : ∀ content, held = some content → content.Sound)
    (rooted : ∀ content, held = some content → content.Rooted) {left : Content}
    (made : call.effect held = some left) : left.Rooted := by
  have start : (held.getD .empty).Sound ∧ (held.getD .empty).Rooted := by
    cases held with
    | none => exact ⟨Content.sound_empty, Content.rooted_empty⟩
    | some content => exact ⟨sound content rfl, rooted content rfl⟩
  obtain ⟨whole, start⟩ := start
  cases call with
  | append now stream fields =>
    obtain rfl := Option.some.inj made
    exact start.add (Content.lt_nextId whole.unexhausted now) _
  | appendWithId stream id fields =>
    obtain rfl := Option.some.inj made
    split
    · exact start
    · rename_i ahead
      exact start.add (StreamId.not_le.mp ahead) _
  | createGroup stream group =>
    obtain ⟨content, rfl, rfl⟩ := Option.map_eq_some_iff.mp made
    split
    · exact start
    · exact start.setGroup group fun _ never => absurd never List.not_mem_nil
  | readGroup stream group consumer offset count =>
    obtain ⟨content, rfl, rfl⟩ := Option.map_eq_some_iff.mp made
    refine start.changeGroup group fun value member id listed => ?_
    cases offset with
    | lastConsumed =>
      obtain ⟨delivery, present⟩ := IdMap.mem_ids_iff.mp listed
      rw [Content.readChange, Store.get?_deliver] at present
      split at present
      · rename_i fresh
        obtain ⟨entry, among, rfl⟩ := List.mem_map.mp fresh
        exact start.entries entry.1 (List.mem_map.mpr ⟨entry, (Group.fresh_subset among).1, rfl⟩)
      · exact start.pending group value member id (IdMap.mem_ids_iff.mpr ⟨delivery, present⟩)
    | pendingAfter after =>
      have order := Group.own_ascending (whole.groups group value member).ascending consumer after
        count
      exact start.pending group value member id ((Group.mem_ids_redeliver order
        fun entry own => (Group.own_subset own).1).mp listed)
  | acknowledge stream group ids =>
    obtain ⟨content, rfl, rfl⟩ := Option.map_eq_some_iff.mp made
    exact start.changeGroup group fun value member id listed =>
      start.pending group value member id (IdMap.mem_ids_eraseAll.mp listed).1
  | delete stream ids =>
    obtain ⟨content, rfl, rfl⟩ := Option.map_eq_some_iff.mp made
    exact ⟨fun id listed => start.entries id (IdMap.mem_ids_eraseAll.mp listed).1, start.pending⟩
  | hasStream | groupNames | pending | range | cluster | inject | clear | setClusterState =>
    exact rooted left made

/-! ### Entries that stay -/

/-- What a working call leaves of an entry: the entry as it was, or nothing. -/
theorem StoreCall.entry_effect (call : StoreCall) {content : Content} (sound : content.Sound)
    {id : StreamId} {fields : Fields} (present : content.entries.get? id = some fields)
    {left : Content} (made : call.effect (some content) = some left) :
    left.entries.get? id = some fields ∨ left.entries.get? id = none := by
  have atMost := sound.bounded id (IdMap.mem_ids_iff.mpr ⟨fields, present⟩)
  have added : ∀ {other : StreamId}, content.lastId < other → ∀ given : Fields,
      (content.add other given).entries.get? id = some fields := by
    intro other behind given
    rw [Content.add, IdMap.get?_insert, if_neg]
    · exact present
    · rintro rfl
      exact StreamId.not_le.mpr behind atMost
  cases call with
  | append now stream given =>
    obtain rfl := Option.some.inj made
    exact Or.inl (added (Content.lt_nextId sound.unexhausted now) _)
  | appendWithId stream other given =>
    obtain rfl := Option.some.inj made
    split
    · exact Or.inl present
    · rename_i ahead
      exact Or.inl (added (StreamId.not_le.mp ahead) _)
  | createGroup stream group =>
    obtain rfl := Option.some.inj made
    dsimp only
    split <;> exact Or.inl present
  | readGroup | acknowledge =>
    obtain rfl := Option.some.inj made
    rw [Store.entries_changeGroup]
    exact Or.inl present
  | delete stream ids =>
    obtain rfl := Option.some.inj made
    rw [IdMap.get?_eraseAll]
    split
    · exact Or.inr rfl
    · exact Or.inl present
  | hasStream | groupNames | pending | range | cluster | inject | clear | setClusterState =>
    cases made
    exact Or.inl present

/-! ### Stores -/

/-- Whether the streams of a store are sound, with all their ids behind the least one. -/
structure Store.Whole (store : Store) : Prop where
  sound : store.Sound
  rooted : ∀ stream content, store.content? stream = some content → content.Rooted

namespace Store

variable {store : Store}

theorem whole_empty : empty.Whole where
  sound := sound_empty
  rooted := fun _ _ present => absurd present (by simp [empty, content?])

theorem Whole.perform (whole : store.Whole) {call : StoreCall}
    (below : (call.perform store).1 ≠ .ok (.id .greatest)) : (call.perform store).2.Whole where
  sound := whole.sound.perform below
  rooted := by
    intro stream content present
    rcases call.content?_perform store stream with same | ⟨_, _, told⟩
    · exact whole.rooted stream content (same ▸ present)
    · exact call.rooted_effect (whole.sound stream) (whole.rooted stream) (told ▸ present)

theorem Whole.after (whole : store.Whole) {calls : List StoreCall}
    (below : ∀ turn ∈ store.turns calls, turn.answer ≠ .ok (.id .greatest)) :
    (store.after calls).Whole := by
  induction calls generalizing store with
  | nil => exact whole
  | cons call rest inductionHypothesis =>
    exact inductionHypothesis (whole.perform (below _ List.mem_cons_self))
      fun turn member => below turn (List.mem_cons_of_mem _ member)

variable {stream group consumer : String} {content : Content} {held : Group}

/-- Where all entries have fields, an entry is missing exactly if it has none. -/
theorem isEmpty_fieldsAt? (filled : store.Filled) (stream : String) (id : StreamId) :
    ((store.fieldsAt? stream id).getD .empty).isEmpty = !(store.fieldsAt? stream id).isSome := by
  cases found : store.fieldsAt? stream id with
  | none => rfl
  | some fields =>
    obtain ⟨content, present, listed⟩ := Option.bind_eq_some_iff.mp found
    exact filled stream content present id fields listed

/-! ### Entries along calls -/

/-- Whether the entry of an id that was given out is as told, or gone. -/
def Recorded (store : Store) (stream : String) (id : StreamId) (fields : Option Fields) : Prop :=
  ∃ content, store.content? stream = some content ∧ id ≤ content.lastId ∧
    (content.entries.get? id = fields ∨ content.entries.get? id = none)

theorem Recorded.fieldsAt? {id : StreamId} {fields : Option Fields}
    (recorded : store.Recorded stream id fields) :
    store.fieldsAt? stream id = fields ∨ store.fieldsAt? stream id = none := by
  obtain ⟨content, present, _, found⟩ := recorded
  rw [Store.fieldsAt?, present]
  exact found

theorem Recorded.perform {id : StreamId} {fields : Option Fields}
    (recorded : store.Recorded stream id fields) (sound : store.Sound) (call : StoreCall) :
    (call.perform store).2.Recorded stream id fields := by
  obtain ⟨content, present, atMost, found⟩ := recorded
  rcases call.content?_perform store stream with same | ⟨_, named, told⟩
  · exact ⟨content, same.trans present, atMost, found⟩
  · have whole := sound stream content present
    obtain ⟨left, made, kept⟩ := call.kept_effect whole named
    have lost := kept.deleted id atMost
    refine ⟨left, by rw [told, present, made], StreamId.le_trans atMost kept.reached, ?_⟩
    rcases found with rfl | none
    · cases listed : content.entries.get? id with
      | none => exact Or.inl (lost listed)
      | some fields => exact call.entry_effect whole listed made
    · exact Or.inr (lost none)

theorem Recorded.after {id : StreamId} {fields : Option Fields}
    (recorded : store.Recorded stream id fields) (sound : store.Sound) {calls : List StoreCall}
    (below : ∀ turn ∈ store.turns calls, turn.answer ≠ .ok (.id .greatest)) :
    (store.after calls).Recorded stream id fields := by
  induction calls generalizing store with
  | nil => exact recorded
  | cons call rest inductionHypothesis =>
    exact inductionHypothesis (recorded.perform sound call)
      (sound.perform (below _ List.mem_cons_self))
      fun turn member => below turn (List.mem_cons_of_mem _ member)

/-! ### Pending ids of a store -/

theorem pendingOf_eq (member : store.group? stream group = some held) (consumer : String) :
    store.pendingOf stream group consumer = held.idsOf consumer := by
  rw [pendingOf, member]
  rfl

theorem Sound.of_group? {store : Store} (sound : store.Sound)
    (member : store.group? stream group = some held) :
    ∃ content, store.content? stream = some content ∧ content.Sound ∧
      held.Sound content.lastId := by
  obtain ⟨content, present, own⟩ := Option.bind_eq_some_iff.mp member
  exact ⟨content, present, sound stream content present,
    (sound stream content present).groups group held own⟩

theorem ascending_pendingOf (sound : store.Sound) (stream group consumer : String) :
    (store.pendingOf stream group consumer).Pairwise (· < ·) := by
  cases member : store.group? stream group with
  | none =>
    rw [pendingOf, member]
    exact List.Pairwise.nil
  | some held =>
    obtain ⟨_, _, _, whole⟩ := sound.of_group? member
    rw [pendingOf_eq member]
    exact Group.ascending_idsOf whole.ascending consumer

/-- What is pending was given out. -/
theorem recorded_of_pending (sound : store.Sound) {id : StreamId}
    (pending : id ∈ store.pendingOf stream group consumer) :
    store.Recorded stream id (store.fieldsAt? stream id) := by
  cases member : store.group? stream group with
  | none =>
    rw [pendingOf, member] at pending
    exact absurd pending List.not_mem_nil
  | some held =>
    obtain ⟨content, present, _, whole⟩ := sound.of_group? member
    rw [pendingOf_eq member] at pending
    obtain ⟨count, found⟩ := (Group.mem_idsOf whole.ascending).mp pending
    refine ⟨content, present, StreamId.le_trans (whole.delivered id
      (IdMap.mem_ids_iff.mpr ⟨_, found⟩)) whole.reached, Or.inl ?_⟩
    rw [fieldsAt?, present]
    rfl

/-- What is pending is behind the least id. -/
theorem lt_of_pending (whole : store.Whole) {id : StreamId}
    (pending : id ∈ store.pendingOf stream group consumer) : .least < id := by
  cases member : store.group? stream group with
  | none =>
    rw [pendingOf, member] at pending
    exact absurd pending List.not_mem_nil
  | some held =>
    obtain ⟨content, present, own⟩ := Option.bind_eq_some_iff.mp member
    rw [pendingOf_eq member] at pending
    obtain ⟨entry, listed, rfl⟩ := List.mem_map.mp pending
    exact (whole.rooted stream content present).pending group held own entry.1
      (List.mem_map.mpr ⟨entry, (List.mem_filter.mp listed).1, rfl⟩)

/-- What is pending is not the greatest id, behind which nothing could be read. -/
theorem ne_greatest_of_pending (sound : store.Sound) {id : StreamId}
    (pending : id ∈ store.pendingOf stream group consumer) : id ≠ .greatest := by
  obtain ⟨content, present, atMost, _⟩ := recorded_of_pending sound pending
  rintro rfl
  exact (sound stream content present).unexhausted
    (StreamId.rank_injective (Nat.le_antisymm content.lastId.le_greatest atMost))

/-- A read of pending entries leaves the pending ids and the entries. -/
theorem readGroup_pending (working : store.failure = none) (sound : store.Sound)
    (present : store.content? stream = some content)
    (member : content.groups.get? group = some held) (consumer : String) (id : StreamId)
    (count : Nat) :
    (store.readGroup stream group consumer (.pendingAfter id) count).2.pendingOf stream group
        consumer = store.pendingOf stream group consumer ∧
      ∀ other, (store.readGroup stream group consumer (.pendingAfter id) count).2.fieldsAt? stream
        other = store.fieldsAt? stream other := by
  have told := fun other => StoreCall.content?_readGroup working stream group consumer other
    (.pendingAfter id) count
  refine ⟨?_, fieldsAt?_of_changed told stream⟩
  rw [pendingOf_eq (group?_of_changed told present member),
    pendingOf_eq ((group?_eq present group).trans member)]
  exact Group.idsOf_redeliver ((sound stream content present).groups group held member).ascending
    id count

/-- An acknowledgement takes ids from the pending ones, and leaves the entries. -/
theorem acknowledge_pending (working : store.failure = none) (sound : store.Sound)
    (stream group consumer : String) (ids : List StreamId) :
    (store.acknowledge stream group ids).2.pendingOf stream group consumer =
        (store.pendingOf stream group consumer).filter (fun id => id ∉ ids) ∧
      ∀ other, (store.acknowledge stream group ids).2.fieldsAt? stream other =
        store.fieldsAt? stream other := by
  have told := fun other => StoreCall.content?_acknowledge working stream group other ids
  refine ⟨?_, fieldsAt?_of_changed told stream⟩
  cases member : store.group? stream group with
  | none =>
    rw [acknowledge_of_noGroup working member, pendingOf, member]
    rfl
  | some held =>
    obtain ⟨content, present, own⟩ := Option.bind_eq_some_iff.mp member
    rw [pendingOf_eq (group?_of_changed told present own), pendingOf_eq member]
    exact Group.idsOf_acknowledge
      ((sound stream content present).groups group held own).ascending ids

end Store

/-- What a replay reads of the pending ids of its consumer. -/
theorem Content.map_readRecords (content : Content) (stream consumer : String) (id : StreamId)
    (count : Nat) (held : Group) :
    (content.readRecords stream consumer (.pendingAfter id) count held).map Record.id =
      ((held.idsOf consumer).filter fun other => id.successor ≤ other).take count := by
  rw [← Group.map_own, readRecords, List.map_map]
  rfl

/-- A replay delivers the entries that are there and tombstones for the others. -/
theorem Content.of_mem_readRecords {content : Content} {stream consumer : String} {id : StreamId}
    {count : Nat} {held : Group} {record : Record}
    (member : record ∈ content.readRecords stream consumer (.pendingAfter id) count held) :
    record.stream = stream ∧
      record.fields = (content.entries.get? record.id).getD .empty := by
  obtain ⟨entry, _, rfl⟩ := List.mem_map.mp member
  exact ⟨rfl, rfl⟩

end AccessFeed.Streams
