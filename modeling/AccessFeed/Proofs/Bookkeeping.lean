/-
This file proves that the pending list of a group is an exact account of its
history.

An entry is outstanding with a consumer from the read that delivered it to that
consumer as new until it is acknowledged. The pending entries of a group are the
outstanding ones, each under the consumer it is outstanding with, and its count
tells how often it was read again since. What carries the proof is that whatever
a group has returned is not behind the id up to which it has delivered, so that a
read of new entries meets none that was returned before. Calls that are neither
reads nor acknowledgements of the group leave its account alone.
-/

import Mathlib.Data.Finset.Card
import AccessFeed.Proofs.Groups
import AccessFeed.Proofs.Numberings

namespace AccessFeed.Streams

/-! ### What a turn does to a group -/

namespace StoreTurn

/-- The ids that a turn returns to a reader of a group, if its read is among the chosen ones. -/
def returned (stream group : String) (chosen : String → ReadOffset → Bool) (turn : StoreTurn) :
    List StreamId :=
  match turn.call, turn.answer with
  | .readGroup target asked consumer offset _, .ok (.records records) =>
    if target = stream ∧ asked = group ∧ chosen consumer offset then records.map Record.id else []
  | _, _ => []

/-- The ids that a turn returns to a consumer as new. -/
def deliveredTo (stream group consumer : String) : StoreTurn → List StreamId :=
  returned stream group fun reader offset => reader == consumer && offset == .lastConsumed

/-- The ids that a turn returns to a consumer again. -/
def redelivered (stream group : String) : StoreTurn → List StreamId :=
  returned stream group fun _ offset => offset != .lastConsumed

/-- The ids that a turn acknowledges in a group. -/
def acknowledged (stream group : String) (turn : StoreTurn) : List StreamId :=
  match turn.call, turn.answer with
  | .acknowledge target asked ids, .ok _ => if target = stream ∧ asked = group then ids else []
  | _, _ => []

end StoreTurn

/-- Whether a call is about a group. -/
def StoreCall.Concerns (stream group : String) : StoreCall → Prop
  | .createGroup target asked => target = stream ∧ asked = group
  | .readGroup target asked _ _ _ => target = stream ∧ asked = group
  | .acknowledge target asked _ => target = stream ∧ asked = group
  | _ => False

/-- Whether some turns returned an id to a consumer as new and did not acknowledge it since. -/
def Outstanding (stream group consumer : String) (id : StreamId) (turns : List StoreTurn) : Prop :=
  ∃ before turn after, turns = before ++ turn :: after ∧
    id ∈ turn.deliveredTo stream group consumer ∧
    ∀ later ∈ after, id ∉ later.acknowledged stream group

/-- The number of turns that returned an id again. -/
def redeliveries (stream group : String) (id : StreamId) (turns : List StoreTurn) : Nat :=
  turns.countP fun turn => id ∈ turn.redelivered stream group

section

variable {stream group consumer : String} {id : StreamId} {turns : List StoreTurn}
  {last : StoreTurn}

/-- What is outstanding after one more turn. -/
theorem outstanding_concat :
    Outstanding stream group consumer id (turns ++ [last]) ↔
      (Outstanding stream group consumer id turns ∧ id ∉ last.acknowledged stream group) ∨
        id ∈ last.deliveredTo stream group consumer := by
  constructor
  · rintro ⟨before, turn, after, split, delivered, unacked⟩
    rcases List.eq_nil_or_concat' after with rfl | ⟨earlier, final, rfl⟩
    · obtain ⟨rfl, same⟩ := List.append_inj' split rfl
      obtain rfl := List.head_eq_of_cons_eq same
      exact Or.inr delivered
    · rw [← List.cons_append, ← List.append_assoc] at split
      obtain ⟨rfl, same⟩ := List.append_inj' split rfl
      obtain rfl := List.head_eq_of_cons_eq same
      exact Or.inl ⟨⟨before, turn, earlier, rfl, delivered,
        fun later member => unacked later (List.mem_append_left _ member)⟩,
        unacked last (List.mem_append_right _ (List.mem_singleton_self last))⟩
  · rintro (⟨⟨before, turn, after, rfl, delivered, unacked⟩, kept⟩ | delivered)
    · refine ⟨before, turn, after ++ [last], by simp, delivered, fun later member => ?_⟩
      rcases List.mem_append.mp member with earlier | final
      · exact unacked later earlier
      · exact List.mem_singleton.mp final ▸ kept
    · exact ⟨turns, last, [], rfl, delivered, fun _ never => absurd never List.not_mem_nil⟩

theorem redeliveries_concat :
    redeliveries stream group id (turns ++ [last]) =
      redeliveries stream group id turns +
        if id ∈ last.redelivered stream group then 1 else 0 := by
  rw [redeliveries, List.countP_append, List.countP_singleton]
  simp only [decide_eq_true_eq]
  rfl

/-- What was never returned is not outstanding. -/
theorem not_outstanding (fresh : ∀ turn ∈ turns, ∀ chosen, id ∉ turn.returned stream group chosen) :
    ¬ Outstanding stream group consumer id turns := by
  rintro ⟨before, turn, after, rfl, delivered, _⟩
  exact fresh turn (List.mem_append_right _ List.mem_cons_self) _ delivered

theorem redeliveries_eq_zero
    (fresh : ∀ turn ∈ turns, ∀ chosen, id ∉ turn.returned stream group chosen) :
    redeliveries stream group id turns = 0 :=
  List.countP_eq_zero.mpr fun turn member again =>
    fresh turn member _ (of_decide_eq_true again)

end

/-! ### Turns that return and acknowledge nothing -/

/-- Whether a turn neither returns nor acknowledges anything of a group. -/
structure StoreTurn.Quiet (stream group : String) (turn : StoreTurn) : Prop where
  returned : ∀ chosen, turn.returned stream group chosen = []
  acknowledged : turn.acknowledged stream group = []

namespace StoreTurn

variable {stream group : String} {turn : StoreTurn}

theorem quiet_of_error {error : StoreError} (failed : turn.answer = .error error) :
    turn.Quiet stream group where
  returned := by
    intro chosen
    rw [StoreTurn.returned, failed]
    split
    · rename_i impossible
      cases impossible
    · rfl
  acknowledged := by
    rw [StoreTurn.acknowledged, failed]
    split
    · rename_i impossible
      cases impossible
    · rfl

theorem quiet_of_not_concerns (other : ¬ turn.call.Concerns stream group) :
    turn.Quiet stream group where
  returned := by
    intro chosen
    rw [StoreTurn.returned]
    split
    · rename_i target asked consumer offset count records called answered
      rw [called] at other
      exact if_neg fun same => other ⟨same.1, same.2.1⟩
    · rfl
  acknowledged := by
    rw [StoreTurn.acknowledged]
    split
    · rename_i target asked ids reply called answered
      rw [called] at other
      exact if_neg other
    · rfl

end StoreTurn

/-! ### Calls about other groups -/

namespace StoreCall

variable {stream group : String}

/-- Setting another group leaves a group. -/
theorem get?_changeGroup_of_ne {changed : String} (other : changed ≠ group) (content : Content)
    (change : Group → Group) :
    (content.changeGroup changed change).groups.get? group = content.groups.get? group := by
  rw [Content.changeGroup]
  cases content.groups.get? changed with
  | none => rfl
  | some held => exact Table.get?_set_of_ne _ (Ne.symm other) _

/-- A working call that is not about a group leaves it in its stream. -/
theorem group_effect (call : StoreCall) (held : Option Content)
    (named : call.target? = some stream) (other : ¬ call.Concerns stream group) :
    ((call.effect held).bind fun content => content.groups.get? group) =
      held.bind fun content => content.groups.get? group := by
  cases call with
  | append now target fields => cases held <;> rfl
  | appendWithId target id fields =>
    rw [effect]
    cases held <;> (rw [Option.bind_some]; split <;> rfl)
  | createGroup target asked =>
    have different : asked ≠ group := fun same => other ⟨Option.some.inj named, same⟩
    cases held with
    | none => rfl
    | some content =>
      rw [effect, Option.map_some, Option.bind_some, Option.bind_some]
      split
      · rfl
      · exact Table.get?_set_of_ne _ (Ne.symm different) _
  | readGroup target asked consumer offset count =>
    have different : asked ≠ group := fun same => other ⟨Option.some.inj named, same⟩
    cases held with
    | none => rfl
    | some content => exact get?_changeGroup_of_ne different content _
  | acknowledge target asked ids =>
    have different : asked ≠ group := fun same => other ⟨Option.some.inj named, same⟩
    cases held with
    | none => rfl
    | some content => exact get?_changeGroup_of_ne different content _
  | delete target ids => cases held <;> rfl
  | hasStream | groupNames | pending | range | cluster | inject | clear | setClusterState => rfl

/-- A call that is not about a group leaves it as it was. -/
theorem group?_perform (call : StoreCall) (store : Store) (other : ¬ call.Concerns stream group) :
    (call.perform store).2.group? stream group = store.group? stream group := by
  show ((call.perform store).2.content? stream).bind _ = (store.content? stream).bind _
  rcases call.content?_perform store stream with same | ⟨_, named, told⟩
  · rw [same]
  · rw [told]
    exact call.group_effect _ named other

end StoreCall

/-! ### Calls about the group -/

namespace Store

variable {store : Store} {stream group : String}

/-- What a read of a group that works returns. -/
theorem returned_readGroup (working : store.failure = none) {content : Content}
    (present : store.content? stream = some content) {held : Group}
    (member : content.groups.get? group = some held) (consumer : String) (offset : ReadOffset)
    (count : Nat) (chosen : String → ReadOffset → Bool) :
    (store.turn (.readGroup stream group consumer offset count)).returned stream group chosen =
      if chosen consumer offset then
        (content.readRecords stream consumer offset count held).map Record.id
      else [] := by
  have answered : (store.turn (.readGroup stream group consumer offset count)).answer =
      .ok (.records (content.readRecords stream consumer offset count held)) := by
    show ((store.readGroup stream group consumer offset count).as StoreReply.records).1 = _
    rw [readGroup_of_group working present member]
    rfl
  rw [StoreTurn.returned, answered]
  simp [turn]

/-- What a turn returns to a reader is pending with it afterwards. -/
theorem delivery?_of_returned (sound : store.Sound) {call : StoreCall}
    {chosen : String → ReadOffset → Bool} {id : StreamId}
    (member : id ∈ (store.turn call).returned stream group chosen) :
    ∃ delivery, (call.perform store).2.delivery? stream group id = some delivery := by
  have concerned : call.Concerns stream group := by
    by_contra other
    have quiet : (store.turn call).Quiet stream group := StoreTurn.quiet_of_not_concerns other
    rw [quiet.returned] at member
    cases member
  cases call with
  | readGroup target asked consumer offset count =>
    obtain ⟨rfl, rfl⟩ := concerned
    have answers {error : StoreError}
        (failed : (store.turn (.readGroup target asked consumer offset count)).answer =
          .error error) : False := by
      rw [(StoreTurn.quiet_of_error failed).returned] at member
      cases member
    cases working : store.failure with
    | some error => exact (answers (StoreCall.answer_of_failing working rfl)).elim
    | none =>
      cases found : store.group? target asked with
      | none =>
        have failed : (store.turn (.readGroup target asked consumer offset count)).answer =
            .error (noGroup target asked) := by
          show ((store.readGroup target asked consumer offset count).as StoreReply.records).1 = _
          rw [readGroup_of_noGroup working found]
          rfl
        exact (answers failed).elim
      | some held =>
        obtain ⟨content, present, own⟩ := Option.bind_eq_some_iff.mp found
        rw [returned_readGroup working present own] at member
        split at member
        · obtain ⟨record, listed, rfl⟩ := List.mem_map.mp member
          obtain ⟨times, pending⟩ := delivery?_of_read working sound present own listed
          exact ⟨_, pending⟩
        · cases member
  | createGroup => cases member
  | acknowledge => cases member
  | append | appendWithId | hasStream | groupNames | pending | range | delete | cluster | inject
  | clear | setClusterState => exact concerned.elim

/-- The pending entries of a group after a call that changes it alone. -/
theorem delivery?_of_changed {after : Store} {change : Content → Group → Group}
    (told : ∀ other, after.content? other =
      if other = stream then
        (store.content? stream).map fun content => content.changeGroup group (change content)
      else store.content? other) {content : Content}
    (present : store.content? stream = some content) {held : Group}
    (member : content.groups.get? group = some held) (id : StreamId) :
    after.delivery? stream group id = (change content held).pending.get? id := by
  rw [delivery?, group?_of_changed told present member]
  rfl

theorem delivery?_eq {held : Group} (member : store.group? stream group = some held)
    (id : StreamId) : store.delivery? stream group id = held.pending.get? id := by
  rw [delivery?, member]
  rfl

/-- An acknowledgement takes away the pending entries it names. -/
theorem delivery?_acknowledge (working : store.failure = none) (stream group : String)
    (ids : List StreamId) (id : StreamId) :
    (store.acknowledge stream group ids).2.delivery? stream group id =
      if id ∈ ids then none else store.delivery? stream group id := by
  cases member : store.group? stream group with
  | none =>
    rw [acknowledge_of_noGroup working member, delivery?, member]
    exact (ite_self _).symm
  | some held =>
    obtain ⟨content, present, own⟩ := Option.bind_eq_some_iff.mp member
    rw [delivery?_of_changed
      (fun other => StoreCall.content?_acknowledge working stream group other ids) present own,
      delivery?_eq member, IdMap.get?_eraseAll]

/-- Nothing is pending in a group that is created, and one that is there is left as it is. -/
theorem delivery?_createGroup (working : store.failure = none) (stream group : String)
    (id : StreamId) :
    (store.createGroup stream group).2.delivery? stream group id =
      store.delivery? stream group id := by
  rw [createGroup, guarded_of_working working]
  cases present : store.content? stream with
  | none => rfl
  | some content =>
    dsimp only
    split
    · rfl
    · rename_i untaken
      have absent : store.group? stream group = none := by
        rw [group?_eq present]
        simpa [Table.contains] using untaken
      have changed := content?_setGroup present group stream ⟨content.lastId, .empty⟩
      rw [if_pos rfl] at changed
      rw [delivery?, group?_eq changed, delivery?, absent, Table.get?_set_self]
      rfl

end Store

/-! ### The account of a group -/

/-- Whether the pending entries of a group are those that some turns left outstanding, with their
consumers and the numbers of their deliveries. -/
def Accounted (stream group : String) (store : Store) (turns : List StoreTurn) : Prop :=
  ∀ id consumer count, store.delivery? stream group id = some ⟨consumer, count⟩ ↔
    Outstanding stream group consumer id turns ∧ count = 1 + redeliveries stream group id turns

/-- Whether a group has delivered up to everything that some turns returned to its readers. -/
def Reaches (stream group : String) (store : Store) (turns : List StoreTurn) : Prop :=
  ∀ turn ∈ turns, ∀ chosen, ∀ id ∈ turn.returned stream group chosen,
    ∃ held, store.group? stream group = some held ∧ id ≤ held.lastDelivered

section

variable {stream group : String} {store : Store} {turns : List StoreTurn}

theorem Reaches.turn (reaches : Reaches stream group store turns) (sound : store.Sound)
    {call : StoreCall} (below : (call.perform store).1 ≠ .ok (.id .greatest)) :
    Reaches stream group (call.perform store).2 (turns ++ [store.turn call]) := by
  intro turn member chosen id returned
  rcases List.mem_append.mp member with earlier | final
  · obtain ⟨held, found, atMost⟩ := reaches turn earlier chosen id returned
    obtain ⟨left, still, kept⟩ := (call.kept_perform sound).group? found
    exact ⟨left, still, StreamId.le_trans atMost kept.reached⟩
  · rw [List.mem_singleton.mp final] at returned
    obtain ⟨delivery, pending⟩ := Store.delivery?_of_returned sound returned
    obtain ⟨held, found, listed⟩ := Option.bind_eq_some_iff.mp pending
    obtain ⟨content, present, own⟩ := Option.bind_eq_some_iff.mp found
    have groupSound := ((sound.perform below) stream content present).groups group held own
    exact ⟨held, found, groupSound.delivered id (IdMap.mem_ids_iff.mpr ⟨delivery, listed⟩)⟩

namespace Accounted

/-- A turn that returns and acknowledges nothing. -/
theorem quiet (accounted : Accounted stream group store turns) {turn : StoreTurn}
    (quiet : turn.Quiet stream group) {after : Store}
    (same : ∀ id, after.delivery? stream group id = store.delivery? stream group id) :
    Accounted stream group after (turns ++ [turn]) := by
  intro id consumer count
  rw [same, accounted, outstanding_concat, redeliveries_concat, quiet.acknowledged,
    StoreTurn.deliveredTo, StoreTurn.redelivered, quiet.returned, quiet.returned]
  simp

/-- A read of new entries: none of them was returned before. -/
theorem deliver (accounted : Accounted stream group store turns)
    (reaches : Reaches stream group store turns) (sound : store.Sound)
    (working : store.failure = none) {content : Content}
    (present : store.content? stream = some content) {held : Group}
    (member : content.groups.get? group = some held) (consumer : String) (count : Nat) :
    let call := StoreCall.readGroup stream group consumer .lastConsumed count
    Accounted stream group (call.perform store).2 (turns ++ [store.turn call]) := by
  intro call id reader times
  have returned := Store.returned_readGroup working present member consumer .lastConsumed count
  have delivered : (store.turn call).deliveredTo stream group reader =
      if consumer = reader then (held.fresh content count).map Prod.fst else [] := by
    rw [StoreTurn.deliveredTo, returned]
    simp [Content.readRecords, Function.comp_def]
  have again : (store.turn call).redelivered stream group = [] := by
    rw [StoreTurn.redelivered, returned]
    rfl
  have acknowledged : (store.turn call).acknowledged stream group = [] := rfl
  have after : (call.perform store).2.delivery? stream group id =
      if id ∈ (held.fresh content count).map Prod.fst then some ⟨consumer, 1⟩
      else store.delivery? stream group id := by
    rw [Store.delivery?_eq ((Store.group?_eq present group).trans member),
      ← Store.get?_deliver consumer held]
    exact Store.delivery?_of_changed (fun other => StoreCall.content?_readGroup working stream
      group consumer other .lastConsumed count) present member id
  rw [after, outstanding_concat, redeliveries_concat, delivered, again, acknowledged]
  by_cases fresh : id ∈ (held.fresh content count).map Prod.fst
  · have unreturned : ∀ turn ∈ turns, ∀ chosen, id ∉ turn.returned stream group chosen := by
      intro turn earlier chosen old
      obtain ⟨same, found, atMost⟩ := reaches turn earlier chosen id old
      obtain rfl := Option.some.inj
        (((Store.group?_eq present group).trans member).symm.trans found)
      obtain ⟨entry, listed, rfl⟩ := List.mem_map.mp fresh
      have contentSound := sound stream content present
      exact StreamId.not_le.mpr (Content.lt_of_mem_fresh contentSound
        (contentSound.groups group held member) listed) atMost
    have nothing : ¬ Outstanding stream group reader id turns := not_outstanding unreturned
    rw [if_pos fresh, redeliveries_eq_zero unreturned]
    by_cases own : consumer = reader
    · simp [own, fresh, eq_comm]
    · simp [own, nothing]
  · rw [if_neg fresh, accounted]
    have undelivered : id ∉ if consumer = reader then (held.fresh content count).map Prod.fst
        else [] := by
      split
      · exact fresh
      · exact List.not_mem_nil
    simp [undelivered]

/-- A read of pending entries: each of them stays with its consumer, and is counted once more. -/
theorem redeliver (accounted : Accounted stream group store turns) (sound : store.Sound)
    (working : store.failure = none) {content : Content}
    (present : store.content? stream = some content) {held : Group}
    (member : content.groups.get? group = some held) (consumer : String) (start : StreamId)
    (count : Nat) :
    let call := StoreCall.readGroup stream group consumer (.pendingAfter start) count
    Accounted stream group (call.perform store).2 (turns ++ [store.turn call]) := by
  intro call id reader times
  have returned := Store.returned_readGroup working present member consumer (.pendingAfter start)
    count
  have ascending := ((sound stream content present).groups group held member).ascending
  have order := Group.own_ascending ascending consumer start count
  have delivered : (store.turn call).deliveredTo stream group reader = [] := by
    rw [StoreTurn.deliveredTo, returned]
    simp
  have again : (store.turn call).redelivered stream group =
      (held.own consumer start count).map Prod.fst := by
    rw [StoreTurn.redelivered, returned, if_pos (by rfl)]
    simp [Content.readRecords, Function.comp_def]
  have acknowledged : (store.turn call).acknowledged stream group = [] := rfl
  have before := Store.delivery?_eq ((Store.group?_eq present group).trans member) id
  have after : (call.perform store).2.delivery? stream group id =
      (Store.redeliver held (held.own consumer start count)).pending.get? id :=
    Store.delivery?_of_changed (fun other => StoreCall.content?_readGroup working stream group
      consumer other (.pendingAfter start) count) present member id
  rw [after, Store.get?_redeliver held order, outstanding_concat, redeliveries_concat, delivered,
    again, acknowledged]
  cases found : IdMap.lookup? id (held.own consumer start count) with
  | none =>
    have unlisted : id ∉ (held.own consumer start count).map Prod.fst := by
      intro listed
      obtain ⟨entry, own, same⟩ := List.mem_map.mp listed
      exact IdMap.lookup?_eq_none_iff.mp found entry own same
    rw [if_neg unlisted]
    simpa [before] using accounted id reader times
  | some delivery =>
    have own := IdMap.mem_of_lookup? found
    have listed : id ∈ (held.own consumer start count).map Prod.fst :=
      List.mem_map.mpr ⟨_, own, rfl⟩
    have pending : store.delivery? stream group id = some delivery :=
      before.trans (ascending.get?_of_mem (Group.own_subset own).1)
    obtain ⟨outstanding, counted⟩ := (accounted id delivery.consumer delivery.count).mp pending
    rw [if_pos listed]
    constructor
    · intro same
      obtain ⟨rfl, rfl⟩ := Delivery.mk.inj (Option.some.inj same)
      exact ⟨Or.inl ⟨outstanding, List.not_mem_nil⟩, by omega⟩
    · rintro ⟨⟨still, _⟩ | never, total⟩
      · have told := (accounted id reader _).mpr ⟨still, rfl⟩
        obtain rfl := Option.some.inj (pending.symm.trans told)
        rw [total]
        rfl
      · cases never

/-- An acknowledgement. -/
theorem acknowledge (accounted : Accounted stream group store turns)
    (working : store.failure = none) (ids : List StreamId) :
    let call := StoreCall.acknowledge stream group ids
    Accounted stream group (call.perform store).2 (turns ++ [store.turn call]) := by
  intro call id reader times
  have delivered : (store.turn call).deliveredTo stream group reader = [] := rfl
  have again : (store.turn call).redelivered stream group = [] := rfl
  have acknowledged : (store.turn call).acknowledged stream group = ids := by
    cases member : store.group? stream group with
    | none =>
      have answered : (store.turn call).answer = .ok (.count 0) := by
        show ((store.acknowledge stream group ids).as StoreReply.count).1 = _
        rw [Store.acknowledge_of_noGroup working member]
        rfl
      rw [StoreTurn.acknowledged, answered]
      exact if_pos ⟨rfl, rfl⟩
    | some held =>
      have answered : (store.turn call).answer = .ok (.count (held.pending.eraseAll ids).1) := by
        show ((store.acknowledge stream group ids).as StoreReply.count).1 = _
        rw [Store.acknowledge_of_group working member]
        rfl
      rw [StoreTurn.acknowledged, answered]
      exact if_pos ⟨rfl, rfl⟩
  have after : (call.perform store).2.delivery? stream group id =
      if id ∈ ids then none else store.delivery? stream group id :=
    Store.delivery?_acknowledge working stream group ids id
  rw [after, outstanding_concat, redeliveries_concat, delivered, again, acknowledged]
  by_cases listed : id ∈ ids
  · simp [listed]
  · simpa [listed] using accounted id reader times

/-- A turn keeps the account of a group. -/
theorem turn (accounted : Accounted stream group store turns)
    (reaches : Reaches stream group store turns) (sound : store.Sound) (call : StoreCall) :
    Accounted stream group (call.perform store).2 (turns ++ [store.turn call]) := by
  by_cases concerned : call.Concerns stream group
  · have failing {error : StoreError} (failure : store.failure = some error)
        (named : call.target? = some stream) :
        Accounted stream group (call.perform store).2 (turns ++ [store.turn call]) := by
      have failed : (store.turn call).answer = .error error :=
        StoreCall.answer_of_failing failure named
      refine accounted.quiet (StoreTurn.quiet_of_error failed) fun id => ?_
      rw [Store.delivery?, Store.delivery?, Store.group?, Store.group?,
        call.content?_perform_failing failure]
    cases working : store.failure with
    | some error =>
      refine failing working ?_
      cases call with
      | createGroup | readGroup | acknowledge => exact congrArg some concerned.1
      | append | appendWithId | hasStream | groupNames | pending | range | delete | cluster
      | inject | clear | setClusterState => exact concerned.elim
    | none =>
      cases call with
      | createGroup target asked =>
        obtain ⟨rfl, rfl⟩ := concerned
        exact accounted.quiet ⟨fun _ => rfl, rfl⟩
          (Store.delivery?_createGroup working target asked)
      | readGroup target asked consumer offset count =>
        obtain ⟨rfl, rfl⟩ := concerned
        cases found : store.group? target asked with
        | none =>
          have answer := Store.readGroup_of_noGroup working found consumer offset count
          have failed : (store.turn (.readGroup target asked consumer offset count)).answer =
              .error (Store.noGroup target asked) := by
            show ((store.readGroup target asked consumer offset count).as
              StoreReply.records).1 = _
            rw [answer]
            rfl
          refine accounted.quiet (StoreTurn.quiet_of_error failed) fun id => ?_
          show (store.readGroup target asked consumer offset count).2.delivery? _ _ _ = _
          rw [answer]
        | some held =>
          obtain ⟨content, present, member⟩ := Option.bind_eq_some_iff.mp found
          cases offset with
          | lastConsumed =>
            exact accounted.deliver reaches sound working present member consumer count
          | pendingAfter start =>
            exact accounted.redeliver sound working present member consumer start count
      | acknowledge target asked ids =>
        obtain ⟨rfl, rfl⟩ := concerned
        exact accounted.acknowledge working ids
      | append | appendWithId | hasStream | groupNames | pending | range | delete | cluster
      | inject | clear | setClusterState => exact concerned.elim
  · have quiet : (store.turn call).Quiet stream group :=
      StoreTurn.quiet_of_not_concerns concerned
    refine accounted.quiet quiet fun id => ?_
    rw [Store.delivery?, Store.delivery?, call.group?_perform store concerned]

end Accounted

end

/-- A run from the empty store on keeps the account of every group. -/
theorem accounted_run (calls : List StoreCall)
    (below : ∀ turn ∈ Store.empty.turns calls, turn.answer ≠ .ok (.id .greatest))
    (stream group : String) :
    Accounted stream group (Store.empty.after calls) (Store.empty.turns calls) ∧
      Reaches stream group (Store.empty.after calls) (Store.empty.turns calls) := by
  induction calls using List.reverseRecOn with
  | nil =>
    refine ⟨fun id consumer count => ?_, fun turn never => absurd never List.not_mem_nil⟩
    have nothing : ¬ Outstanding stream group consumer id (Store.empty.turns []) :=
      not_outstanding fun turn never => absurd never List.not_mem_nil
    exact ⟨fun pending => (by cases pending), fun told => absurd told.1 nothing⟩
  | append_singleton before call inductionHypothesis =>
    rw [Store.turns_concat] at below ⊢
    rw [Store.after_concat]
    have earlier : ∀ turn ∈ Store.empty.turns before, turn.answer ≠ .ok (.id .greatest) :=
      fun turn member => below turn (List.mem_append_left _ member)
    have sound := Store.sound_empty.after before earlier
    obtain ⟨accounted, reaches⟩ := inductionHypothesis earlier
    exact ⟨accounted.turn reaches sound call, reaches.turn sound
      (below ((Store.empty.after before).turn call)
        (List.mem_append_right _ (List.mem_singleton_self _)))⟩

/-! ### Counting acknowledgements -/

theorem IdMap.mem_ids_erase {Value : Type} {map : IdMap Value} {id other : StreamId} :
    other ∈ (map.erase id).ids ↔ other ≠ id ∧ other ∈ map.ids := by
  rw [mem_ids_iff, mem_ids_iff, get?_erase]
  by_cases same : other = id <;> simp [same]

/-- Erasing ids counts the different ones among them that are there. -/
theorem IdMap.eraseAll_count {Value : Type} (map : IdMap Value) (ids : List StreamId) :
    (map.eraseAll ids).1 = (ids.toFinset.filter fun id => id ∈ map.ids).card := by
  induction ids generalizing map with
  | nil => rfl
  | cons id rest inductionHypothesis =>
    have others : (rest.toFinset.filter fun other => other ∈ (map.erase id).ids) =
        (rest.toFinset.filter fun other => other ∈ map.ids).erase id := by
      ext other
      rw [Finset.mem_filter, mem_ids_erase, Finset.mem_erase, Finset.mem_filter]
      exact and_left_comm
    have step : (map.eraseAll (id :: rest)).1 =
        if map.contains id then ((map.erase id).eraseAll rest).1 + 1
        else ((map.erase id).eraseAll rest).1 := rfl
    rw [step, inductionHypothesis, others, List.toFinset_cons, Finset.filter_insert]
    by_cases listed : id ∈ map.ids
    · have contained : map.contains id = true := by
        obtain ⟨value, held⟩ := mem_ids_iff.mp listed
        rw [contains, held]
        rfl
      rw [if_pos contained, if_pos listed, ← Finset.erase_insert_eq_erase]
      exact Finset.card_erase_add_one (Finset.mem_insert_self id _)
    · have missing : map.contains id = false := by
        rw [contains, Option.isSome_eq_false_iff, Option.isNone_iff_eq_none]
        cases held : map.get? id with
        | none => rfl
        | some value => exact absurd (mem_ids_iff.mpr ⟨value, held⟩) listed
      rw [missing, if_neg listed, Finset.erase_eq_of_notMem]
      · rfl
      · exact fun member => listed (Finset.mem_filter.mp member).2

namespace Store

variable {store : Store} {stream group : String}

/-- The pending ids of a group are those of its pending entries. -/
theorem mem_pendingIds {id : StreamId} :
    id ∈ store.pendingIds stream group ↔
      ∃ delivery, store.delivery? stream group id = some delivery := by
  cases member : store.group? stream group with
  | none =>
    rw [pendingIds, member, delivery?, member]
    simp
  | some held =>
    rw [pendingIds, member, delivery?_eq member]
    exact IdMap.mem_ids_iff

/-- An acknowledgement that works answers how many different ids it takes away. -/
theorem acknowledge_count (working : store.failure = none) (stream group : String)
    (ids : List StreamId) :
    (store.acknowledge stream group ids).1 =
      .ok (ids.toFinset.filter fun id => id ∈ store.pendingIds stream group).card := by
  cases member : store.group? stream group with
  | none =>
    rw [acknowledge_of_noGroup working member, pendingIds, member]
    simp
  | some held =>
    rw [acknowledge_of_group working member, pendingIds, member, IdMap.eraseAll_count]

/-- A listing of pending entries tells what is pending. -/
theorem delivery?_of_listed (sound : store.Sound) {count : Nat} {entries : List PendingEntry}
    (answered : (store.pending stream group count).1 = .ok entries) :
    entries.map PendingEntry.id = (store.pendingIds stream group).take count ∧
      ∀ entry ∈ entries, store.delivery? stream group entry.id =
        some ⟨entry.consumer, entry.deliveries⟩ := by
  cases working : store.failure with
  | some error =>
    rw [pending, guarded_of_failing working] at answered
    cases answered
  | none =>
    rw [pending, guarded_of_working working] at answered
    cases member : store.group? stream group with
    | none =>
      rw [member] at answered
      cases answered
    | some held =>
      rw [member] at answered
      obtain rfl := Except.ok.inj answered
      obtain ⟨content, present, own⟩ := Option.bind_eq_some_iff.mp member
      have ascending := ((sound stream content present).groups group held own).ascending
      refine ⟨?_, fun entry listed => ?_⟩
      · rw [pendingIds, member, List.map_map]
        exact List.map_take
      · obtain ⟨pair, taken, rfl⟩ := List.mem_map.mp listed
        rw [delivery?_eq member]
        exact ascending.get?_of_mem (List.mem_of_mem_take taken)

end Store

/-! ### The account after a run -/

/-- In a run from the empty store on that never gives out the greatest id, an entry is pending in a
group exactly if it was returned to a consumer as new and not acknowledged since; it is pending with
that consumer, and counted once and once more for each read that returned it again. The pending ids
are these, and a listing of the pending entries tells them so. An acknowledgement answers how many
different ids of those it names are pending, and a call that is not about the group changes neither
what is pending nor how far the group has delivered. -/
theorem pending_accounts_for_reads (calls : List StoreCall)
    (below : ∀ turn ∈ Store.empty.turns calls, turn.answer ≠ .ok (.id .greatest))
    (stream group : String) :
    (∀ id consumer count,
        (Store.empty.after calls).delivery? stream group id = some ⟨consumer, count⟩ ↔
          Outstanding stream group consumer id (Store.empty.turns calls) ∧
            count = 1 + redeliveries stream group id (Store.empty.turns calls)) ∧
      (∀ id, id ∈ (Store.empty.after calls).pendingIds stream group ↔
        ∃ consumer, Outstanding stream group consumer id (Store.empty.turns calls)) ∧
      (∀ count entries, ((Store.empty.after calls).pending stream group count).1 = .ok entries →
        entries.map PendingEntry.id =
            ((Store.empty.after calls).pendingIds stream group).take count ∧
          ∀ entry ∈ entries, (Store.empty.after calls).delivery? stream group entry.id =
            some ⟨entry.consumer, entry.deliveries⟩) ∧
      ((Store.empty.after calls).failure = none →
        ∀ ids, ((Store.empty.after calls).acknowledge stream group ids).1 =
          .ok (ids.toFinset.filter fun id =>
            id ∈ (Store.empty.after calls).pendingIds stream group).card) ∧
      ∀ call : StoreCall, ¬ call.Concerns stream group →
        (call.perform (Store.empty.after calls)).2.group? stream group =
          (Store.empty.after calls).group? stream group := by
  have accounted := (accounted_run calls below stream group).1
  refine ⟨accounted, fun id => ?_,
    fun count entries => Store.delivery?_of_listed (Store.sound_empty.after calls below),
    fun working => Store.acknowledge_count working stream group,
    fun call => call.group?_perform _⟩
  rw [Store.mem_pendingIds]
  constructor
  · rintro ⟨delivery, pending⟩
    exact ⟨delivery.consumer, ((accounted id delivery.consumer delivery.count).mp pending).1⟩
  · rintro ⟨consumer, outstanding⟩
    exact ⟨_, (accounted id consumer _).mpr ⟨outstanding, rfl⟩⟩

/-- A run on a group with two consumers, one of which reads its entry again, once before and once
after it was deleted. -/
def replayedRun : List StoreCall :=
  [.append 7 "orders" [("type", "first")], .createGroup "orders" "audit",
    .append 9 "orders" [("type", "second")], .append 9 "orders" [("type", "third")],
    .readGroup "orders" "audit" "left" .lastConsumed 1,
    .readGroup "orders" "audit" "right" .lastConsumed 5,
    .readGroup "orders" "audit" "left" (.pendingAfter .least) 5,
    .delete "orders" [⟨9, 0⟩],
    .readGroup "orders" "audit" "left" (.pendingAfter .least) 5]

/-- The deleted entry is outstanding with its reader and was read again twice, and of repeated and
foreign ids an acknowledgement counts the one that is pending. -/
theorem replayedRun_is_accounted :
    (∀ turn ∈ Store.empty.turns replayedRun, turn.answer ≠ .ok (.id .greatest)) ∧
      Outstanding "orders" "audit" "left" ⟨9, 0⟩ (Store.empty.turns replayedRun) ∧
      redeliveries "orders" "audit" ⟨9, 0⟩ (Store.empty.turns replayedRun) = 2 ∧
      ((Store.empty.after replayedRun).acknowledge "orders" "audit"
        [⟨9, 1⟩, ⟨9, 1⟩, ⟨7, 0⟩]).1 = .ok 1 := by
  have answers : (Store.empty.turns replayedRun).map StoreTurn.answer =
      [.ok (.id ⟨7, 0⟩), .ok .done, .ok (.id ⟨9, 0⟩), .ok (.id ⟨9, 1⟩),
        .ok (.records [⟨"orders", ⟨9, 0⟩, .ofList [("type", "second")]⟩]),
        .ok (.records [⟨"orders", ⟨9, 1⟩, .ofList [("type", "third")]⟩]),
        .ok (.records [⟨"orders", ⟨9, 0⟩, .ofList [("type", "second")]⟩]),
        .ok (.count 1),
        .ok (.records [⟨"orders", ⟨9, 0⟩, .empty⟩])] := by
    rfl
  have below : ∀ turn ∈ Store.empty.turns replayedRun, turn.answer ≠ .ok (.id .greatest) := by
    intro turn member greatest
    have answered := @List.mem_map_of_mem _ _ _ _ StoreTurn.answer member
    rw [greatest, answers] at answered
    simp [StreamId.greatest, StreamId.greatestPart] at answered
  obtain ⟨delivery, _, _, acknowledged, _⟩ :=
    pending_accounts_for_reads replayedRun below "orders" "audit"
  have pending : (Store.empty.after replayedRun).delivery? "orders" "audit" ⟨9, 0⟩ =
      some ⟨"left", 3⟩ := rfl
  obtain ⟨outstanding, counted⟩ := (delivery ⟨9, 0⟩ "left" 3).mp pending
  exact ⟨below, outstanding, by omega, (acknowledged rfl _).trans (by decide)⟩

end AccessFeed.Streams
