/-
This file proves that a group delivers every entry once.

The entries a group delivers as new are followed along a run of calls, from the
call that creates the group on. What carries the proof is that everything
delivered lies behind the id that was the last one when the group was created
and not behind the id up to which the group has delivered, and that every entry
left between the two was delivered: a read takes up where this ends, and every
other call leaves it so, or adds entries behind it, or removes some.
-/

import AccessFeed.Proofs.Sound

namespace AccessFeed.Streams

/-! ### What is delivered as new -/

namespace StoreTurn

/-- The ids that a turn delivers to a group as new. -/
def delivered (stream group : String) (turn : StoreTurn) : List StreamId :=
  match turn.call, turn.answer with
  | .readGroup target asked _ .lastConsumed _, .ok (.records records) =>
    if target = stream ∧ asked = group then records.map Record.id else []
  | _, _ => []

/-- The last id of the stream when a turn creates a group. -/
def founded? (stream group : String) (turn : StoreTurn) : Option StreamId :=
  match turn.call, turn.answer with
  | .createGroup target asked, .ok _ =>
    if target = stream ∧ asked = group then (turn.before.content? target).map Content.lastId
    else none
  | _, _ => none

end StoreTurn

/-- The ids that some turns deliver to a group as new, over all consumers and in order. -/
def delivered (stream group : String) (turns : List StoreTurn) : List StreamId :=
  turns.flatMap (·.delivered stream group)

/-- The last id of the stream when some turns created a group, if they did. -/
def founded? (stream group : String) (turns : List StoreTurn) : Option StreamId :=
  turns.findSome? (·.founded? stream group)

theorem delivered_cons (stream group : String) (turn : StoreTurn) (rest : List StoreTurn) :
    delivered stream group (turn :: rest) =
      turn.delivered stream group ++ delivered stream group rest :=
  List.flatMap_cons

theorem founded?_cons (stream group : String) (turn : StoreTurn) (rest : List StoreTurn) :
    founded? stream group (turn :: rest) =
      (turn.founded? stream group).or (founded? stream group rest) := by
  rw [founded?, List.findSome?_cons]
  cases turn.founded? stream group <;> rfl

/-! ### Entries covered by deliveries -/

/-- Whether deliveries cover the entries of a stream from an id up to where a group has delivered,
each of them once. -/
structure Covers (content : Content) (held : Group) (start : StreamId)
    (delivered : List StreamId) : Prop where
  ascending : delivered.Pairwise (· < ·)
  founded : start ≤ held.lastDelivered
  within : ∀ id ∈ delivered, start < id ∧ id ≤ held.lastDelivered
  complete : ∀ id ∈ content.entries.ids, start < id → id ≤ held.lastDelivered → id ∈ delivered

namespace Covers

variable {content : Content} {held : Group} {start : StreamId} {delivered : List StreamId}

/-- A group that was created behind all entries covers none. -/
theorem of_new (sound : content.Sound) :
    Covers content ⟨content.lastId, .empty⟩ content.lastId [] where
  ascending := List.Pairwise.nil
  founded := StreamId.le_refl _
  within := fun _ member => absurd member List.not_mem_nil
  complete := fun id member behind _ =>
    absurd behind (StreamId.not_lt.mpr (sound.bounded id member))

/-- Entries may be removed, and the group may change as long as it has delivered no further. -/
theorem narrow (covers : Covers content held start delivered) {left : Content} {kept : Group}
    (fewer : ∀ id ∈ left.entries.ids, id ∈ content.entries.ids)
    (same : kept.lastDelivered = held.lastDelivered) : Covers left kept start delivered where
  ascending := covers.ascending
  founded := same ▸ covers.founded
  within := same ▸ covers.within
  complete := fun id member => same ▸ covers.complete id (fewer id member)

/-- An entry may be added behind all others. -/
theorem add (covers : Covers content held start delivered)
    (reached : held.lastDelivered ≤ content.lastId) {id : StreamId}
    (behind : content.lastId < id) (fields : Fields) :
    Covers (content.add id fields) held start delivered where
  ascending := covers.ascending
  founded := covers.founded
  within := covers.within
  complete := by
    intro other member after atMost
    rcases IdMap.mem_ids_insert.mp member with same | present
    · have ahead := StreamId.lt_of_le_of_lt reached behind
      exact absurd atMost (StreamId.not_le.mpr (same ▸ ahead))
    · exact covers.complete other present after atMost

/-- A read of new entries covers them as well. -/
theorem read (covers : Covers content held start delivered) (sound : content.Sound)
    (groupSound : held.Sound content.lastId) (consumer : String) (count : Nat) :
    Covers content (Store.deliver consumer held (held.fresh content count)) start
      (delivered ++ (held.fresh content count).map Prod.fst) := by
  have order := Group.fresh_ascending sound.ascending held count
  have behind : ∀ entry ∈ held.fresh content count, held.lastDelivered < entry.1 :=
    fun entry member => Content.lt_of_mem_fresh sound groupSound member
  obtain ⟨further, each⟩ := Store.le_lastDelivered_deliver consumer order behind
  refine ⟨?_, StreamId.le_trans covers.founded further, ?_, ?_⟩
  · refine List.pairwise_append.mpr ⟨covers.ascending, List.pairwise_map.mpr order, ?_⟩
    intro early earlyMember late lateMember
    obtain ⟨entry, member, same⟩ := List.mem_map.mp lateMember
    exact same ▸ StreamId.lt_of_le_of_lt (covers.within early earlyMember).2 (behind entry member)
  · intro id member
    rcases List.mem_append.mp member with early | late
    · exact ⟨(covers.within id early).1, StreamId.le_trans (covers.within id early).2 further⟩
    · obtain ⟨entry, fresh, rfl⟩ := List.mem_map.mp late
      exact ⟨StreamId.lt_of_le_of_lt covers.founded (behind entry fresh), each entry fresh⟩
  · intro id member after atMost
    by_cases early : id ≤ held.lastDelivered
    · exact List.mem_append_left _ (covers.complete id member after early)
    -- an entry behind the old deliveries and not behind the last new one is among the new ones
    · have ahead := StreamId.not_le.mp early
      rcases Store.lastDelivered_deliver consumer held (held.fresh content count) with
        same | ⟨last, lastMember, same⟩
      · exact absurd (same ▸ atMost) early
      · obtain ⟨entry, listed, rfl⟩ := List.mem_map.mp member
        have beyond : entry ∈ content.entries.startingAt held.lastDelivered.successor :=
          IdMap.mem_startingAt.mpr ⟨listed, (StreamId.successor_le_iff
            (Content.lastDelivered_ne_greatest sound groupSound)).mpr ahead⟩
        have fresh := IdMap.mem_take_of_le (sound.ascending.startingAt _) beyond lastMember
          (same ▸ atMost)
        exact List.mem_append_right _ (List.mem_map.mpr ⟨entry, fresh, rfl⟩)

end Covers

/-- How a group was followed: it is not there yet, or its deliveries cover what they should. -/
inductive Followed (group : String) (held : Option Content) :
    Option StreamId → List StreamId → Prop
  | before (absent : ∀ content, held = some content → content.groups.get? group = none) :
    Followed group held none []
  | since {content : Content} {value : Group} {start : StreamId} {delivered : List StreamId}
    (present : held = some content) (member : content.groups.get? group = some value)
    (covers : Covers content value start delivered) :
    Followed group held (some start) delivered

/-! ### One turn -/

namespace Followed

variable {group : String} {held : Option Content} {start? : Option StreamId}
  {delivered : List StreamId}

/-- What becomes of a followed group when its stream changes and the group delivers nothing new. -/
theorem of_effect (followed : Followed group held start? delivered) {after : Option Content}
    (absent : (∀ content, held = some content → content.groups.get? group = none) →
      ∀ content, after = some content → content.groups.get? group = none)
    (kept : ∀ content value, held = some content → content.groups.get? group = some value →
      ∃ left kept, after = some left ∧ left.groups.get? group = some kept ∧
        ∀ start, Covers content value start delivered → Covers left kept start delivered) :
    Followed group after start? delivered := by
  cases followed with
  | before missing => exact Followed.before (absent missing)
  | since present member covers =>
    obtain ⟨left, value, afterEq, leftMember, narrower⟩ := kept _ _ present member
    exact Followed.since afterEq leftMember (narrower _ covers)

/-- A change of another group, or one of the group that delivers nothing. -/
theorem changeGroup (followed : Followed group held start? delivered) (changed : String)
    {change : Content → Group → Group}
    (same : ∀ content value, held = some content → changed = group →
      content.groups.get? group = some value →
      (change content value).lastDelivered = value.lastDelivered) :
    Followed group (held.map fun content => content.changeGroup changed (change content)) start?
      delivered := by
  refine followed.of_effect ?_ ?_
  · intro missing content made
    obtain ⟨present, heldEq, rfl⟩ := Option.map_eq_some_iff.mp made
    have absent := missing present heldEq
    rw [Content.changeGroup]
    cases member : present.groups.get? changed with
    | none => exact absent
    | some value =>
      have different : group ≠ changed := by
        rintro rfl
        exact absurd (member.symm.trans absent) (by simp)
      exact (Table.get?_set_of_ne present.groups different _).trans absent
  · intro content value heldEq member
    refine ⟨content.changeGroup changed (change content), ?_⟩
    by_cases own : changed = group
    · refine ⟨change content value, by rw [heldEq, Option.map_some], ?_, fun start covers => ?_⟩
      · rw [own, StoreCall.changeGroup_of_some member]
        exact Table.get?_set_self _ _ _
      · refine covers.narrow ?_ (same content value heldEq own member)
        rw [own, StoreCall.changeGroup_of_some member]
        exact fun id listed => listed
    · refine ⟨value, by rw [heldEq, Option.map_some], ?_, fun start covers => ?_⟩
      · rw [Content.changeGroup]
        cases content.groups.get? changed with
        | none => exact member
        | some other => exact (Table.get?_set_of_ne _ (Ne.symm own) _).trans member
      · refine covers.narrow ?_ rfl
        rw [Content.changeGroup]
        cases content.groups.get? changed <;> exact fun id listed => listed

/-- A stream that is made because it was missing has no groups. -/
theorem found (followed : Followed group held start? delivered) :
    Followed group (some (held.getD .empty)) start? delivered := by
  refine followed.of_effect ?_ ?_
  · intro missing content made
    rw [← Option.some.inj made]
    cases heldEq : held with
    | none => rfl
    | some present => exact missing present heldEq
  · intro content value heldEq member
    subst heldEq
    exact ⟨content, value, rfl, member, fun _ covers => covers⟩

/-- An entry added behind all others. -/
theorem add (followed : Followed group held start? delivered)
    (sound : (held.getD .empty).Sound) {id : StreamId}
    (behind : (held.getD .empty).lastId < id) (fields : Fields) :
    Followed group (some ((held.getD .empty).add id fields)) start? delivered := by
  refine followed.found.of_effect ?_ ?_
  · intro missing content made
    rw [← Option.some.inj made]
    exact missing (held.getD .empty) rfl
  · intro content value made member
    obtain rfl := Option.some.inj made
    exact ⟨(held.getD .empty).add id fields, value, rfl, member, fun start covers =>
      covers.add (sound.groups group value member).reached behind fields⟩

end Followed

namespace StoreTurn

theorem delivered_of_error (stream group : String) {turn : StoreTurn} {error : StoreError}
    (failed : turn.answer = .error error) : turn.delivered stream group = [] := by
  rw [delivered, failed]
  split
  · rename_i impossible
    cases impossible
  · rfl

theorem founded?_of_error (stream group : String) {turn : StoreTurn} {error : StoreError}
    (failed : turn.answer = .error error) : turn.founded? stream group = none := by
  rw [founded?, failed]
  split
  · rename_i impossible
    cases impossible
  · rfl

/-- A turn concerns the groups of the stream that its call names. -/
theorem delivered_of_ne (group : String) {stream : String} {turn : StoreTurn}
    (other : turn.call.target? ≠ some stream) : turn.delivered stream group = [] := by
  rw [delivered]
  split
  · rename_i target asked consumer count records called answered
    rw [called] at other
    rw [if_neg fun same => other (congrArg some same.1)]
  · rfl

theorem founded?_of_ne (group : String) {stream : String} {turn : StoreTurn}
    (other : turn.call.target? ≠ some stream) : turn.founded? stream group = none := by
  rw [founded?]
  split
  · rename_i target asked reply called answered
    rw [called] at other
    rw [if_neg fun same => other (congrArg some same.1)]
  · rfl

end StoreTurn

theorem StoreCall.answer_of_failing {call : StoreCall} {store : Store} {error : StoreError}
    (failing : store.failure = some error) {stream : String}
    (named : call.target? = some stream) : (call.perform store).1 = .error error := by
  cases call with
  | append | createGroup | readGroup | acknowledge | delete | appendWithId =>
    show ((store.guarded _).as _).1 = _
    rw [Store.guarded_of_failing failing]
    rfl
  | hasStream | groupNames | pending | range | cluster | inject | clear | setClusterState =>
    exact absurd named (by simp [target?])

namespace Followed

variable {group : String} {start? : Option StreamId} {delivered : List StreamId}

/-- A turn that delivers nothing to the group and does not create it. -/
theorem of_quiet {after : Option Content} (followed : Followed group after start? delivered)
    {stream : String} {turn : StoreTurn} (nothing : turn.delivered stream group = [])
    (unfounded : turn.founded? stream group = none) :
    Followed group after (start?.or (turn.founded? stream group))
      (delivered ++ turn.delivered stream group) := by
  rw [nothing, unfounded, List.append_nil, Option.or_none]
  exact followed

/-- A read that works. -/
theorem readGroup {store : Store} (sound : store.Sound) (working : store.failure = none)
    {stream : String} (followed : Followed group (store.content? stream) start? delivered)
    (asked consumer : String) (offset : ReadOffset) (count : Nat) :
    let call := StoreCall.readGroup stream asked consumer offset count
    let turn : StoreTurn := ⟨store, call, (call.perform store).1⟩
    Followed group (call.effect (store.content? stream))
      (start?.or (turn.founded? stream group)) (delivered ++ turn.delivered stream group) := by
  intro call turn
  have founded : turn.founded? stream group = none := rfl
  by_cases fresh : asked = group ∧ offset = .lastConsumed
  · obtain ⟨rfl, rfl⟩ := fresh
    cases followed with
    | before missing =>
      have absent : store.group? stream asked = none := by
        cases present : store.content? stream with
        | none => exact Store.group?_eq_none present asked
        | some content => exact (Store.group?_eq present asked).trans (missing content present)
      have failed : turn.answer = .error (Store.noGroup stream asked) := by
        show ((store.readGroup stream asked consumer .lastConsumed count).as
          StoreReply.records).1 = _
        rw [Store.readGroup_of_noGroup working absent]
        rfl
      refine of_quiet ?_ (StoreTurn.delivered_of_error _ _ failed) founded
      exact (Followed.before missing).changeGroup asked
        fun content value present _ member =>
          absurd (member.symm.trans (missing content present)) (by simp)
    | @since content value start _ present member covers =>
      have answered : turn.answer = .ok (.records
          (content.readRecords stream consumer .lastConsumed count value)) := by
        show ((store.readGroup stream asked consumer .lastConsumed count).as
          StoreReply.records).1 = _
        rw [Store.readGroup_of_group working present member]
        rfl
      have delivers : turn.delivered stream asked =
          (value.fresh content count).map Prod.fst := by
        rw [StoreTurn.delivered, answered]
        simp [turn, call, Content.readRecords, Function.comp_def]
      rw [founded, Option.or_none, delivers]
      have contentSound := sound stream content present
      have effect : call.effect (store.content? stream) = some { content with
          groups := content.groups.set asked
            (Store.deliver consumer value (value.fresh content count)) } := by
        rw [present]
        exact congrArg some (StoreCall.changeGroup_of_some member _)
      rw [effect]
      refine Followed.since rfl (Table.get?_set_self _ _ _) ?_
      exact (covers.read contentSound (contentSound.groups asked value member) consumer
        count).narrow (fun _ listed => listed) rfl
  · have nothing : turn.delivered stream group = [] := by
      rw [StoreTurn.delivered]
      split
      · rename_i target name reader number records called answered
        obtain ⟨rfl, rfl, rfl, rfl, rfl⟩ := StoreCall.readGroup.inj called
        exact if_neg fun same => fresh ⟨same.2, rfl⟩
      · rfl
    refine of_quiet ?_ nothing founded
    refine followed.changeGroup asked fun content value _ own _ => ?_
    cases offset with
    | lastConsumed => exact absurd ⟨own, rfl⟩ fresh
    | pendingAfter id => exact Store.lastDelivered_redeliver _ _

/-- The creation of a group that works. -/
theorem createGroup {store : Store} (sound : store.Sound) (working : store.failure = none)
    {stream : String} (followed : Followed group (store.content? stream) start? delivered)
    (asked : String) :
    let call := StoreCall.createGroup stream asked
    let turn : StoreTurn := ⟨store, call, (call.perform store).1⟩
    Followed group (call.effect (store.content? stream))
      (start?.or (turn.founded? stream group)) (delivered ++ turn.delivered stream group) := by
  intro call turn
  have nothing : turn.delivered stream group = [] := rfl
  cases present : store.content? stream with
  | none =>
    have failed : turn.answer = .error
        (.commandExecution "ERR The XGROUP subcommand requires the key to exist") := by
      show ((store.createGroup stream asked).as fun _ => StoreReply.done).1 = _
      rw [Store.createGroup, Store.guarded_of_working working, present]
      rfl
    rw [present] at followed
    exact followed.of_quiet nothing (StoreTurn.founded?_of_error _ _ failed)
  | some content =>
    have contentSound := sound stream content present
    by_cases taken : content.groups.contains asked = true
    · have effect : call.effect (some content) = some content := congrArg some (if_pos taken)
      have failed : ∃ error, turn.answer = .error error := by
        show ∃ error, ((store.createGroup stream asked).as fun _ => StoreReply.done).1 =
          .error error
        rw [Store.createGroup, Store.guarded_of_working working, present]
        simp only [taken, if_true]
        exact ⟨_, rfl⟩
      obtain ⟨error, failed⟩ := failed
      rw [effect]
      rw [present] at followed
      exact followed.of_quiet nothing (StoreTurn.founded?_of_error _ _ failed)
    · have effect : call.effect (some content) = some { content with
          groups := content.groups.set asked ⟨content.lastId, .empty⟩ } :=
        congrArg some (if_neg taken)
      have answered : turn.answer = .ok .done := by
        show ((store.createGroup stream asked).as fun _ => StoreReply.done).1 = _
        rw [Store.createGroup, Store.guarded_of_working working, present]
        simp only [taken]
        rfl
      have founded : turn.founded? stream group =
          if asked = group then some content.lastId else none := by
        rw [StoreTurn.founded?, answered]
        simp [turn, call, present]
      have untaken : content.groups.get? asked = none := by
        simpa [Table.contains] using taken
      rw [effect, nothing, List.append_nil, founded]
      by_cases own : asked = group
      · subst own
        cases followed with
        | before missing =>
          rw [if_pos rfl]
          refine Followed.since rfl (Table.get?_set_self _ _ _) ?_
          exact (Covers.of_new contentSound).narrow (fun _ listed => listed) rfl
        | since held member covers =>
          rw [present] at held
          obtain rfl := Option.some.inj held
          exact absurd (untaken.symm.trans member) (by simp)
      · rw [if_neg own, Option.or_none]
        refine followed.of_effect ?_ ?_
        · intro missing other made
          rw [← Option.some.inj made]
          exact (Table.get?_set_of_ne _ (Ne.symm own) _).trans (missing content present)
        · intro other value held member
          obtain rfl := Option.some.inj (present.symm.trans held)
          exact ⟨_, value, rfl, (Table.get?_set_of_ne _ (Ne.symm own) _).trans member,
            fun start covers => covers.narrow (fun _ listed => listed) rfl⟩

/-- A turn keeps a group followed, with what the turn delivers to it. -/
theorem turn {store : Store} (sound : store.Sound) {call : StoreCall}
    (below : (call.perform store).1 ≠ .ok (.id .greatest)) {stream : String}
    (followed : Followed group (store.content? stream) start? delivered) :
    let turn : StoreTurn := ⟨store, call, (call.perform store).1⟩
    Followed group ((call.perform store).2.content? stream)
      (start?.or (turn.founded? stream group)) (delivered ++ turn.delivered stream group) := by
  intro turn
  by_cases named : call.target? = some stream
  · cases failing : store.failure with
    | some error =>
      have failed : turn.answer = .error error := StoreCall.answer_of_failing failing named
      rw [call.content?_perform_failing failing]
      exact followed.of_quiet (StoreTurn.delivered_of_error _ _ failed)
        (StoreTurn.founded?_of_error _ _ failed)
    | none =>
      rw [call.content?_perform_working failing, if_pos named]
      have start : ((store.content? stream).getD .empty).Sound := by
        cases present : store.content? stream with
        | none => exact Content.sound_empty
        | some content => exact sound stream content present
      cases call with
      | append now target fields =>
        exact (followed.add start (Content.lt_nextId start.unexhausted now) _).of_quiet
          rfl rfl
      | appendWithId target id fields =>
        refine of_quiet ?_ rfl rfl
        by_cases behind : id ≤ ((store.content? stream).getD .empty).lastId
        · rw [show (StoreCall.appendWithId target id fields).effect (store.content? stream) =
            some ((store.content? stream).getD .empty) from congrArg some (if_pos behind)]
          exact followed.found
        · rw [show (StoreCall.appendWithId target id fields).effect (store.content? stream) =
            some (((store.content? stream).getD .empty).add id (.ofList fields)) from
            congrArg some (if_neg behind)]
          exact followed.add start (StreamId.not_le.mp behind) _
      | createGroup target asked =>
        obtain rfl := Option.some.inj named
        exact followed.createGroup sound failing asked
      | readGroup target asked consumer offset count =>
        obtain rfl := Option.some.inj named
        exact followed.readGroup sound failing asked consumer offset count
      | acknowledge target asked ids =>
        refine of_quiet ?_ rfl rfl
        exact followed.changeGroup asked fun _ _ _ _ _ => rfl
      | delete target ids =>
        refine of_quiet (followed.of_effect ?_ ?_) rfl rfl
        · intro missing content made
          obtain ⟨present, held, rfl⟩ := Option.map_eq_some_iff.mp made
          exact missing present held
        · intro content value held member
          refine ⟨{ content with entries := (content.entries.eraseAll ids).2 }, value, ?_, member,
            fun _ covers => covers.narrow (fun id listed => ?_) rfl⟩
          · rw [held]
            rfl
          · exact (IdMap.mem_ids_eraseAll.mp listed).1
      | hasStream | groupNames | pending | range | cluster | inject | clear | setClusterState =>
        exact absurd named (by simp [StoreCall.target?])
  · have same : (call.perform store).2.content? stream = store.content? stream := by
      rcases call.content?_perform store stream with same | ⟨_, reached, _⟩
      · exact same
      · exact absurd reached named
    rw [same]
    exact followed.of_quiet (StoreTurn.delivered_of_ne group named)
      (StoreTurn.founded?_of_ne group named)

/-- A run of calls keeps a group followed, with what the run delivers to it. -/
theorem run {store : Store} (sound : store.Sound) (calls : List StoreCall)
    (below : ∀ turn ∈ store.turns calls, turn.answer ≠ .ok (.id .greatest)) {stream : String}
    (followed : Followed group (store.content? stream) start? delivered) :
    Followed group ((store.after calls).content? stream)
      (start?.or (founded? stream group (store.turns calls)))
      (delivered ++ Streams.delivered stream group (store.turns calls)) := by
  induction calls generalizing store start? delivered with
  | nil =>
    show Followed group (store.content? stream) (start?.or none) (delivered ++ [])
    rw [Option.or_none, List.append_nil]
    exact followed
  | cons call rest inductionHypothesis =>
    have now := below _ List.mem_cons_self
    have reached := inductionHypothesis (sound.perform now)
      (fun turn member => below turn (List.mem_cons_of_mem _ member)) (followed.turn sound now)
    rw [Store.turns, founded?_cons, delivered_cons, ← Option.or_assoc, ← List.append_assoc]
    exact reached

end Followed

/-! ### Whole runs -/

/-- From the empty store on, a group delivers entries in order and thus none of them twice, only
such as came behind its creation, and leaves none out. -/
theorem delivers_each_once (calls : List StoreCall)
    (below : ∀ turn ∈ Store.empty.turns calls, turn.answer ≠ .ok (.id .greatest))
    (stream group : String) :
    (delivered stream group (Store.empty.turns calls)).Pairwise (· < ·) ∧
      (∀ id ∈ delivered stream group (Store.empty.turns calls),
        ∃ start, founded? stream group (Store.empty.turns calls) = some start ∧ start < id) ∧
      ∀ content held, (Store.empty.after calls).content? stream = some content →
        content.groups.get? group = some held →
        ∃ start, founded? stream group (Store.empty.turns calls) = some start ∧
          ∀ id ∈ content.entries.ids, start < id → id ≤ held.lastDelivered →
            id ∈ delivered stream group (Store.empty.turns calls) := by
  have start : Followed group (Store.empty.content? stream) none [] :=
    Followed.before fun content present => absurd present (by simp [Store.empty, Store.content?])
  have followed := start.run Store.sound_empty calls below
  rw [Option.none_or, List.nil_append] at followed
  generalize delivered stream group (Store.empty.turns calls) = delivered at followed ⊢
  generalize founded? stream group (Store.empty.turns calls) = founded at followed ⊢
  cases followed with
  | before missing =>
    refine ⟨List.Pairwise.nil, fun id member => absurd member List.not_mem_nil, ?_⟩
    intro content held present member
    exact absurd (member.symm.trans (missing content present)) (by simp)
  | since present member covers =>
    refine ⟨covers.ascending, fun id listed => ⟨_, rfl, (covers.within id listed).1⟩, ?_⟩
    intro content held contentEq heldEq
    obtain rfl := Option.some.inj (present.symm.trans contentEq)
    obtain rfl := Option.some.inj (member.symm.trans heldEq)
    exact ⟨_, rfl, covers.complete⟩

/-- A run on a stream with two consumers, one of which reads again after a clock went back. -/
def sharedRun : List StoreCall :=
  [.append 7 "orders" [("type", "first")], .createGroup "orders" "audit",
    .append 9 "orders" [("type", "second")], .append 3 "orders" [("type", "third")],
    .readGroup "orders" "audit" "left" .lastConsumed 1,
    .readGroup "orders" "audit" "right" .lastConsumed 5,
    .readGroup "orders" "audit" "left" (.pendingAfter .least) 5]

/-- Both consumers of a group together are delivered what came behind its creation. -/
theorem sharedRun_delivers_each_once :
    (∀ turn ∈ Store.empty.turns sharedRun, turn.answer ≠ .ok (.id .greatest)) ∧
      delivered "orders" "audit" (Store.empty.turns sharedRun) = [⟨9, 0⟩, ⟨9, 1⟩] ∧
      (delivered "orders" "audit" (Store.empty.turns sharedRun)).Pairwise (· < ·) := by
  have answers : (Store.empty.turns sharedRun).map StoreTurn.answer =
      [.ok (.id ⟨7, 0⟩), .ok .done, .ok (.id ⟨9, 0⟩), .ok (.id ⟨9, 1⟩),
        .ok (.records [⟨"orders", ⟨9, 0⟩, .ofList [("type", "second")]⟩]),
        .ok (.records [⟨"orders", ⟨9, 1⟩, .ofList [("type", "third")]⟩]),
        .ok (.records [⟨"orders", ⟨9, 0⟩, .ofList [("type", "second")]⟩])] := by
    rfl
  have below : ∀ turn ∈ Store.empty.turns sharedRun, turn.answer ≠ .ok (.id .greatest) := by
    intro turn member greatest
    have answered := @List.mem_map_of_mem _ _ _ _ StoreTurn.answer member
    rw [greatest, answers] at answered
    simp [StreamId.greatest, StreamId.greatestPart] at answered
  exact ⟨below, by decide, (delivers_each_once sharedRun below "orders" "audit").1⟩

end AccessFeed.Streams
