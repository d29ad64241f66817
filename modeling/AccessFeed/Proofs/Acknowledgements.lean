/-
This file proves that a listener acknowledges what was handled and nothing else.

Listeners take turns in any order with each other, with producers and with
deletions, calls may fail at any time, and anything but the streams may change
between two steps. What stands behind an acknowledgement is a handler that
succeeded just before, or a replay that met a deleted entry. Whatever else was
received stays pending with its consumer until a listener of that consumer
acknowledges it. All of this rests on the order of ids: behind the greatest id
an entry is delivered as new again, and another consumer may take it over.
-/

import AccessFeed.Proofs.Listeners

namespace AccessFeed

open Event (EventType)
open Streams (Content Delivery Group ReadOffset Record Store StoreCall StreamId)

/-! ### Listeners side by side -/

/-- A listener with what it did, the last deed first. -/
structure Member where
  settings : ListenerSettings
  spec : ListenerSpec
  shutdown : Bool
  phase : ListenerPhase
  log : List Deed

/-- What a listener does at its next step. -/
def Member.next (member : Member) (now : Nat) (pipeline : Pipeline) : List Deed :=
  Listener.deeds member.settings member.spec member.shutdown now member.phase pipeline

/-- A listener after its next step. -/
def Member.step (member : Member) (now : Nat) (pipeline : Pipeline) : Member :=
  { member with
    phase :=
      (Listener.step member.settings member.spec member.shutdown now member.phase pipeline).1
    log := member.next now pipeline ++ member.log }

/-- Listeners that share a pipeline. -/
structure Crowd where
  pipeline : Pipeline
  members : List Member

namespace Crowd

/-- The streams that the listeners share. -/
def store (crowd : Crowd) : Store :=
  crowd.pipeline.service.store

/-- The next step of one of the listeners. -/
def listen (crowd : Crowd) (number : Nat) (member : Member) (now : Nat) : Crowd where
  pipeline := (Listener.step member.settings member.spec member.shutdown now member.phase
    crowd.pipeline).2
  members := crowd.members.set number (member.step now crowd.pipeline)

/-- The crowds that come about. Listeners enter at any time and are asked to shut down at any time.
Others call the store, but they acknowledge nothing, append no entry without fields, and are not
given the greatest id. -/
inductive Reached : Crowd → Prop
  | start (calls : List StoreCall)
      (below : ∀ turn ∈ Store.empty.turns calls, turn.answer ≠ .ok (.id .greatest))
      (filled : (Store.empty.after calls).Filled) (pipeline : Pipeline)
      (same : pipeline.service.store = Store.empty.after calls) : Reached ⟨pipeline, []⟩
  | enter {crowd : Crowd} (reached : Reached crowd) (settings : ListenerSettings)
      (spec : ListenerSpec) :
      Reached ⟨crowd.pipeline, crowd.members ++ [⟨settings, spec, false, .starting, []⟩]⟩
  | listen {crowd : Crowd} (reached : Reached crowd) {number : Nat} {member : Member}
      (present : crowd.members[number]? = some member) (now : Nat) :
      Reached (crowd.listen number member now)
  | shutDown {crowd : Crowd} (reached : Reached crowd) {number : Nat} {member : Member}
      (present : crowd.members[number]? = some member) :
      Reached ⟨crowd.pipeline, crowd.members.set number { member with shutdown := true }⟩
  | call {crowd : Crowd} (reached : Reached crowd) (call : StoreCall)
      (unacked : ∀ stream group id, ¬ call.Acks stream group id) (fills : call.Fills)
      (below : (call.perform crowd.store).1 ≠ .ok (.id .greatest)) (pipeline : Pipeline)
      (same : pipeline.service.store = (call.perform crowd.store).2) :
      Reached ⟨pipeline, crowd.members⟩
  | change {crowd : Crowd} (reached : Reached crowd) (pipeline : Pipeline)
      (same : pipeline.service.store = crowd.store) : Reached ⟨pipeline, crowd.members⟩

end Crowd

/-! ### What a listener received -/

/-- Whether some listener of a consumer acknowledged an entry. -/
def Resolved (members : List Member) (spec : ListenerSpec) (id : StreamId) : Prop :=
  ∃ member ∈ members, member.spec = spec ∧ ∃ deed ∈ member.log, id ∈ deed.resolved

/-- Whether an entry is pending with a consumer. -/
def Streams.Store.PendingWith (store : Store) (spec : ListenerSpec) (id : StreamId) : Prop :=
  ∃ count, store.delivery? spec.stream spec.group id = some ⟨spec.consumer, count⟩

/-- An entry is pending with one consumer of a group only. -/
theorem Streams.Store.PendingWith.unique {store : Store} {first second : ListenerSpec}
    {id : StreamId} (stream : first.stream = second.stream) (group : first.group = second.group)
    (pending : store.PendingWith first id) (other : store.PendingWith second id) :
    first = second := by
  obtain ⟨firstStream, firstGroup, firstConsumer⟩ := first
  obtain ⟨secondStream, secondGroup, secondConsumer⟩ := second
  obtain rfl : firstStream = secondStream := stream
  obtain rfl : firstGroup = secondGroup := group
  obtain ⟨count, present⟩ := pending
  obtain ⟨times, found⟩ := other
  obtain rfl : firstConsumer = secondConsumer :=
    congrArg Delivery.consumer (Option.some.inj (present.symm.trans found))
  rfl

/-- What is known of a record that was received. -/
structure Delivered (store : Store) (resolved : ListenerSpec → StreamId → Prop)
    (spec : ListenerSpec) (offset : ReadOffset) (record : Record) : Prop where
  stream : record.stream = spec.stream
  deleted : record.isTombstone = true →
    (∃ start, offset = .pendingAfter start) ∧ store.Deleted spec.stream record.id
  held : store.PendingWith spec record.id ∨ resolved spec record.id

/-- What holds of a listener at any time. -/
structure Member.Sound (store : Store) (resolved : ListenerSpec → StreamId → Prop)
    (member : Member) : Prop where
  fits : member.phase.Fits member.log
  ordered : Ordered member.log
  received : ∀ offset batch, .received offset batch ∈ member.log → ∀ record ∈ batch,
    Delivered store resolved member.spec offset record
  resolved : ∀ deed ∈ member.log, ∀ id ∈ deed.resolved,
    store.Done member.spec.stream member.spec.group id

section Kept

variable {before after : Store} {acked : String → String → StreamId → Prop}
  {resolved wider : ListenerSpec → StreamId → Prop}

/-- What is known of a record stays true as long as others acknowledge nothing of its consumer. -/
theorem Delivered.kept {spec : ListenerSpec} {offset : ReadOffset} {record : Record}
    (delivered : Delivered before resolved spec offset record) (kept : before.Kept acked after)
    (widened : ∀ id, resolved spec id → wider spec id)
    (told : ∀ id, acked spec.stream spec.group id → before.PendingWith spec id → wider spec id) :
    Delivered after wider spec offset record where
  stream := delivered.stream
  deleted := fun tombstone =>
    ⟨(delivered.deleted tombstone).1, (delivered.deleted tombstone).2.kept kept⟩
  held := by
    rcases delivered.held with ⟨count, pending⟩ | done
    · by_cases acknowledged : acked spec.stream spec.group record.id
      · exact Or.inr (told record.id acknowledged ⟨count, pending⟩)
      · exact Or.inl (kept.delivery? pending acknowledged)
    · exact Or.inr (widened record.id done)

theorem Member.Sound.kept {member : Member} (sound : member.Sound before resolved)
    (kept : before.Kept acked after)
    (widened : ∀ id, resolved member.spec id → wider member.spec id)
    (told : ∀ id, acked member.spec.stream member.spec.group id →
      before.PendingWith member.spec id → wider member.spec id) :
    member.Sound after wider where
  fits := sound.fits
  ordered := sound.ordered
  received := fun offset batch read record among =>
    (sound.received offset batch read record among).kept kept widened told
  resolved := fun deed done id listed => (sound.resolved deed done id listed).kept kept

/-- The records of the last batch were received. -/
theorem Member.Sound.lastBatch {member : Member} (sound : member.Sound before resolved)
    {record : Record} (among : record ∈ lastBatch member.log) :
    ∃ offset, lastRead? member.log = some (offset, AccessFeed.lastBatch member.log) ∧
      Delivered before resolved member.spec offset record := by
  obtain ⟨offset, read⟩ := lastRead?_of_mem_lastBatch among
  exact ⟨offset, read, sound.received offset _ (mem_of_lastRead? read) record among⟩

end Kept

/-! ### The invariant of a crowd -/

/-- What holds of a crowd at any time. -/
structure Crowd.Sound (crowd : Crowd) : Prop where
  store : crowd.store.Sound
  filled : crowd.store.Filled
  members : ∀ member ∈ crowd.members, member.Sound crowd.store (Resolved crowd.members)

/-- What was acknowledged stays so when a listener does more. -/
theorem Resolved.set {members : List Member} {spec : ListenerSpec} {id : StreamId}
    (resolved : Resolved members spec id) {number : Nat} {member other : Member}
    (present : members[number]? = some member) (same : other.spec = member.spec)
    (more : ∀ deed ∈ member.log, deed ∈ other.log) :
    Resolved (members.set number other) spec id := by
  obtain ⟨holder, among, own, deed, done, listed⟩ := resolved
  obtain ⟨index, found⟩ := List.mem_iff_getElem?.mp among
  by_cases here : number = index
  · subst here
    obtain rfl := Option.some.inj (present.symm.trans found)
    exact ⟨other, List.mem_set (List.getElem?_eq_some_iff.mp present).1 other, same.trans own,
      deed, more deed done, listed⟩
  · exact ⟨holder, List.mem_iff_getElem?.mpr ⟨index, (List.getElem?_set_ne here).trans found⟩,
      own, deed, done, listed⟩

namespace Crowd

variable {crowd : Crowd}

/-- What a member received last is pending with its consumer or done with. -/
theorem Sound.pending_or_done (sound : crowd.Sound) {member : Member}
    (present : member ∈ crowd.members) {record : Record} (among : record ∈ lastBatch member.log) :
    crowd.store.PendingWith member.spec record.id ∨
      crowd.store.Done member.spec.stream member.spec.group record.id := by
  obtain ⟨offset, _, delivered⟩ := (sound.members member present).lastBatch among
  rcases delivered.held with pending | ⟨other, otherPresent, same, deed, done, listed⟩
  · exact Or.inl pending
  · rw [← same]
    exact Or.inr ((sound.members other otherPresent).resolved deed done record.id listed)

/-- A crowd whose members wrote down no more, after others called the store. -/
theorem Sound.others (sound : crowd.Sound) {pipeline : Pipeline}
    {acked : String → String → StreamId → Prop}
    (kept : crowd.store.Kept acked pipeline.service.store)
    (unacked : ∀ stream group id, ¬ acked stream group id)
    (store : pipeline.service.store.Sound) (filled : pipeline.service.store.Filled) :
    Sound ⟨pipeline, crowd.members⟩ where
  store := store
  filled := filled
  members := fun member present => (sound.members member present).kept kept (fun _ => id)
    fun id acknowledged _ => absurd acknowledged (unacked _ _ id)

theorem Sound.enter (sound : crowd.Sound) (settings : ListenerSettings) (spec : ListenerSpec) :
    Sound ⟨crowd.pipeline, crowd.members ++ [⟨settings, spec, false, .starting, []⟩]⟩ where
  store := sound.store
  filled := sound.filled
  members := by
    intro member present
    rcases List.mem_append.mp present with old | new
    · refine (sound.members member old).kept
        (Streams.Store.kept_of_same (fun _ _ _ => False) fun _ => rfl) ?_ fun _ never => never.elim
      rintro id ⟨holder, among, told⟩
      exact ⟨holder, List.mem_append_left _ among, told⟩
    · rw [List.mem_singleton.mp new]
      exact ⟨List.nil_sublist _, trivial, fun _ _ never => absurd never List.not_mem_nil,
        fun _ never => absurd never List.not_mem_nil⟩

theorem Sound.shutDown (sound : crowd.Sound) {number : Nat} {member : Member}
    (present : crowd.members[number]? = some member) :
    Sound ⟨crowd.pipeline, crowd.members.set number { member with shutdown := true }⟩ where
  store := sound.store
  filled := sound.filled
  members := by
    have widened : ∀ spec id, Resolved crowd.members spec id →
        Resolved (crowd.members.set number { member with shutdown := true }) spec id :=
      fun spec id resolved => resolved.set present rfl fun _ done => done
    have same := Streams.Store.kept_of_same (fun _ _ _ => False) fun stream =>
      Eq.refl (crowd.store.content? stream)
    intro other among
    rcases List.mem_or_eq_of_mem_set among with old | rfl
    · exact (sound.members other old).kept same (widened _) fun _ never => never.elim
    · have mine := (sound.members member (List.mem_of_getElem? present)).kept same
        (widened _) fun _ never => never.elim
      exact ⟨mine.fits, mine.ordered, mine.received, mine.resolved⟩

/-! ### A step of a listener -/

section Listen

variable {number : Nat} {member : Member} (now : Nat)

/-- What the step of a member does to the store. -/
theorem effect_listen (crowd : Crowd) (number : Nat) (member : Member) :
    Listener.Effect member.settings member.spec member.phase crowd.store
      (member.next now crowd.pipeline) (crowd.listen number member now).store :=
  Listener.effect_step member.settings member.spec member.shutdown now crowd.pipeline member.phase

theorem Sound.located (sound : crowd.Sound) (present : member ∈ crowd.members) :
    ∀ record ∈ lastBatch member.log, record.stream = member.spec.stream := by
  intro record among
  obtain ⟨_, _, delivered⟩ := (sound.members member present).lastBatch among
  exact delivered.stream

/-- What the step of a member keeps of the streams. -/
theorem Sound.kept_listen (sound : crowd.Sound) (present : member ∈ crowd.members)
    (number : Nat) :
    crowd.store.Kept (fun stream group id => stream = member.spec.stream ∧
        group = member.spec.group ∧ ∃ deed ∈ member.next now crowd.pipeline, id ∈ deed.resolved)
      (crowd.listen number member now).store ∧
      (crowd.listen number member now).store.Sound ∧
      (crowd.listen number member now).store.Filled := by
  rcases (effect_listen now crowd number member).calls (sound.members member present).fits
    (sound.located present) with ⟨same, _⟩ | ⟨call, made, fills, below, acked⟩
  · rw [same]
    exact ⟨Streams.Store.kept_of_same _ fun _ => rfl, sound.store, sound.filled⟩
  · rw [made]
    exact ⟨(call.kept_perform sound.store).weaken acked, sound.store.perform below,
      sound.filled.perform fills⟩

/-- What the step of a member acknowledges was delivered to its consumer. -/
theorem Sound.pending_or_done_of_resolved (sound : crowd.Sound)
    (present : member ∈ crowd.members) {deed : Deed}
    (done : deed ∈ member.next now crowd.pipeline) {id : StreamId} (listed : id ∈ deed.resolved) :
    crowd.store.PendingWith member.spec id ∨
      crowd.store.Done member.spec.stream member.spec.group id := by
  rcases (effect_listen now crowd 0 member).resolves (sound.members member present).fits done
    listed with ⟨record, last, rfl, _⟩ | ⟨record, last, rfl, _⟩
  · exact sound.pending_or_done present last
  · exact sound.pending_or_done present last

/-- What the step of a member acknowledges is pending with no other consumer. -/
theorem Sound.spec_of_resolved (sound : crowd.Sound) (present : member ∈ crowd.members)
    {other : ListenerSpec} {id : StreamId} (pending : crowd.store.PendingWith other id)
    (acked : other.stream = member.spec.stream ∧ other.group = member.spec.group ∧
      ∃ deed ∈ member.next now crowd.pipeline, id ∈ deed.resolved) : member.spec = other := by
  obtain ⟨stream, group, deed, done, listed⟩ := acked
  rcases sound.pending_or_done_of_resolved now present done listed with own | gone
  · exact own.unique stream.symm group.symm pending
  · obtain ⟨count, found⟩ := pending
    rw [stream, group, gone.delivery?] at found
    cases found

/-- A step of a member keeps a crowd sound. -/
theorem Sound.listen (sound : crowd.Sound) (present : crowd.members[number]? = some member) :
    (crowd.listen number member now).Sound := by
  have among := List.mem_of_getElem? present
  have effect := effect_listen now crowd number member
  obtain ⟨kept, store, filled⟩ := sound.kept_listen now among number
  have stepped : member.step now crowd.pipeline ∈ (crowd.listen number member now).members :=
    List.mem_set (List.getElem?_eq_some_iff.mp present).1 _
  have old : ∀ other ∈ crowd.members, other.Sound (crowd.listen number member now).store
      (Resolved (crowd.listen number member now).members) := by
    intro other otherAmong
    refine (sound.members other otherAmong).kept kept (fun id resolved => ?_)
      fun id acked pending => ?_
    · exact resolved.set present rfl fun _ done => List.mem_append_right _ done
    · have same := sound.spec_of_resolved now among pending acked
      obtain ⟨_, _, deed, done, listed⟩ := acked
      exact ⟨_, stepped, same, deed, List.mem_append_left _ done, listed⟩
  refine ⟨store, filled, fun other otherAmong => ?_⟩
  rcases List.mem_or_eq_of_mem_set otherAmong with before | rfl
  · exact old other before
  have mine := sound.members member among
  refine ⟨Listener.fits_step _ _ _ now _ mine.fits,
    Listener.ordered_step _ _ _ now _ mine.fits mine.ordered, ?_, ?_⟩
  · intro offset batch read record inBatch
    rcases List.mem_append.mp read with new | earlier
    · obtain ⟨stream, deleted, pending⟩ :=
        effect.delivers sound.store sound.filled new inBatch
      exact ⟨stream, fun tombstone => ⟨(deleted tombstone).1, (deleted tombstone).2.kept kept⟩,
        Or.inl pending⟩
    · exact (old member among).received offset batch earlier record inBatch
  · intro deed done id listed
    rcases List.mem_append.mp done with new | earlier
    · refine effect.done_of_resolved sound.store mine.fits (sound.located among) new listed ?_
      rcases sound.pending_or_done_of_resolved now among new listed with ⟨count, pending⟩ | gone
      · exact Or.inr ⟨_, pending⟩
      · exact Or.inl gone
    · exact (old member among).resolved deed earlier id listed

end Listen

/-- Every crowd that comes about is sound. -/
theorem Reached.sound (reached : crowd.Reached) : crowd.Sound := by
  induction reached with
  | start calls below filled pipeline same =>
    refine ⟨?_, ?_, fun _ never => absurd never List.not_mem_nil⟩
    · rw [store, same]
      exact Streams.Store.sound_empty.after calls below
    · rw [store, same]
      exact filled
  | enter reached settings spec inductionHypothesis => exact inductionHypothesis.enter settings spec
  | listen reached present now inductionHypothesis => exact inductionHypothesis.listen now present
  | shutDown reached present inductionHypothesis => exact inductionHypothesis.shutDown present
  | @call crowd reached call unacked fills below pipeline same inductionHypothesis =>
    have kept : crowd.store.Kept call.Acks pipeline.service.store := by
      rw [same]
      exact call.kept_perform inductionHypothesis.store
    refine inductionHypothesis.others kept unacked ?_ ?_
    · rw [same]
      exact inductionHypothesis.store.perform below
    · rw [same]
      exact inductionHypothesis.filled.perform fills
  | @change crowd reached pipeline same inductionHypothesis =>
    have kept : crowd.store.Kept (fun _ _ _ => False) pipeline.service.store :=
      Streams.Store.kept_of_same _ fun stream => congrArg (Store.content? · stream) same
    refine inductionHypothesis.others kept (fun _ _ _ => id) ?_ ?_
    · rw [same]
      exact inductionHypothesis.store
    · rw [same]
      exact inductionHypothesis.filled

/-- In any crowd, a listener takes an entry from the pending ones of its group exactly if the
handler of the record just succeeded, or if the entry was deleted and a replay met it so. What it
received is pending with its consumer until a listener of this consumer acknowledged it, and a
handler is called at most once with a record of a batch. -/
theorem Reached.acknowledges_handled (reached : crowd.Reached) {number : Nat} {member : Member}
    (present : crowd.members[number]? = some member) :
    (∀ now id delivery,
      crowd.store.delivery? member.spec.stream member.spec.group id = some delivery →
      ((crowd.listen number member now).store.delivery? member.spec.stream member.spec.group id =
          none ↔
        (∃ record count eventType handler older, record.id = id ∧
          member.log = .handled record (.ok ()) :: .called record handler ::
            .routed record (some (eventType, handler)) :: older ∧
          member.next now crowd.pipeline = [.acknowledged record (.ok count)]) ∨
        ∃ record ids count start batch, record.id = id ∧ record ∈ batch ∧
          record.isTombstone = true ∧
          lastRead? member.log = some (.pendingAfter start, batch) ∧
          crowd.store.fieldsAt? member.spec.stream id = none ∧ id ∈ ids ∧
          member.next now crowd.pipeline = [.swept ids (.ok count)])) ∧
      (∀ offset batch, .received offset batch ∈ member.log → ∀ record ∈ batch,
        crowd.store.PendingWith member.spec record.id ↔
          ¬ Resolved crowd.members member.spec record.id) ∧
      (calledSince member.log).Sublist (live (lastBatch member.log)) ∧ Ordered member.log := by
  have sound := reached.sound
  have among := List.mem_of_getElem? present
  have mine := sound.members member among
  refine ⟨fun now id delivery pending => ?_, fun offset batch read record inBatch => ?_,
    mine.fits.calledSince, mine.ordered⟩
  · have effect := effect_listen now crowd number member
    have gone : ∀ deed ∈ member.next now crowd.pipeline, id ∈ deed.resolved →
        (crowd.listen number member now).store.delivery? member.spec.stream member.spec.group id =
          none := fun deed done listed =>
      (effect.done_of_resolved sound.store mine.fits (sound.located among) done listed
        (Or.inr ⟨delivery, pending⟩)).delivery?
    constructor
    · intro removed
      by_cases acked : ∃ deed ∈ member.next now crowd.pipeline, id ∈ deed.resolved
      · obtain ⟨deed, done, listed⟩ := acked
        rcases effect.resolves mine.fits done listed with
          ⟨record, _, same, count, eventType, handler, older, told, written⟩ |
            ⟨record, last, same, tombstone, ids, count, told, within⟩
        · exact Or.inl ⟨record, count, eventType, handler, older, same, written, told⟩
        · obtain ⟨offset, read, delivered⟩ := mine.lastBatch last
          obtain ⟨⟨start, rfl⟩, deleted⟩ := delivered.deleted tombstone
          rw [same] at deleted
          exact Or.inr ⟨record, ids, count, start, _, same, last, tombstone, read,
            deleted.fieldsAt?, within, told⟩
      · obtain ⟨kept, _, _⟩ := sound.kept_listen now among number
        obtain ⟨count, still⟩ := kept.delivery? pending fun acknowledged =>
          acked acknowledged.2.2
        rw [removed] at still
        cases still
    · rintro (⟨record, count, eventType, handler, older, same, _, told⟩ |
        ⟨_, ids, count, _, _, _, _, _, _, _, within, told⟩)
      · refine gone (.acknowledged record (.ok count)) ?_ (List.mem_singleton.mpr same.symm)
        rw [told]
        exact List.mem_cons_self
      · refine gone (.swept ids (.ok count)) ?_ within
        rw [told]
        exact List.mem_cons_self
  · have delivered := mine.received offset batch read record inBatch
    constructor
    · rintro ⟨count, pending⟩ ⟨other, otherAmong, same, deed, done, listed⟩
      have gone := ((sound.members other otherAmong).resolved deed done record.id listed).delivery?
      rw [same, pending] at gone
      cases gone
    · exact delivered.held.resolve_right

/-! ### Two runs -/

/-- A crowd after one of its listeners took some steps, with nobody else acting. -/
def after (crowd : Crowd) (number : Nat) : Nat → Crowd
  | 0 => crowd
  | steps + 1 =>
    match crowd.members[number]? with
    | none => crowd
    | some member => (crowd.listen number member 0).after number steps

theorem Reached.after {crowd : Crowd} (reached : crowd.Reached) (number steps : Nat) :
    (crowd.after number steps).Reached := by
  induction steps generalizing crowd with
  | zero => exact reached
  | succ steps inductionHypothesis =>
    rw [Crowd.after]
    cases present : crowd.members[number]? with
    | none => exact reached
    | some member => exact inductionHypothesis (reached.listen present 0)

end Crowd

/-- A consumer of a group of a stream. -/
def worker (consumer : String) : ListenerSpec := ⟨"orders", "audit", consumer⟩

/-- The calls that leave an entry of some id to a group. -/
def offered (id : StreamId) : List StoreCall :=
  [.appendWithId "orders" ⟨6, 0⟩ [("type", "first")], .createGroup "orders" "audit",
    .appendWithId "orders" id [("type", "ACCESS")]]

/-- A pipeline with an entry for a handler that follows a script. -/
def offering (id : StreamId) (script : List Rehearsal) : Pipeline where
  service := ⟨Store.empty.after (offered id), []⟩
  archive := .empty .memory
  wall := ⟨0, 0⟩
  handlers := Table.empty.set .access .rehearsed
  script

/-- A listener before its first step. -/
def beginner (consumer : String) : Member :=
  ⟨⟨5, 100, true⟩, worker consumer, false, .starting, []⟩

/-- A crowd of one listener, whose handler just succeeded. -/
def handledCrowd : Crowd :=
  Crowd.after ⟨offering ⟨7, 0⟩ [], [beginner "left"]⟩ 0 6

/-- The record that was handled. -/
def handledRecord : Record := ⟨"orders", ⟨7, 0⟩, .ofList [("type", "ACCESS")]⟩

/-- The listener that is about to acknowledge it. -/
def handledMember : Member :=
  { beginner "left" with
    phase := .dispatching .lastConsumed handledRecord .acknowledging [] []
    log := [.handled handledRecord (.ok ()), .called handledRecord .rehearsed,
      .routed handledRecord (some (.access, .rehearsed)),
      .received .lastConsumed [handledRecord], .received (.pendingAfter .least) []] }

theorem reached_handledCrowd : handledCrowd.Reached := by
  have answers : (Store.empty.turns (offered ⟨7, 0⟩)).map Streams.StoreTurn.answer =
      [.ok (.id ⟨6, 0⟩), .ok .done, .ok (.id ⟨7, 0⟩)] := by
    rfl
  have below : ∀ turn ∈ Store.empty.turns (offered ⟨7, 0⟩),
      turn.answer ≠ .ok (.id .greatest) := by
    intro turn member greatest
    have answered := @List.mem_map_of_mem _ _ _ _ Streams.StoreTurn.answer member
    rw [greatest, answers] at answered
    simp [StreamId.greatest, StreamId.greatestPart] at answered
  have fills : ∀ call ∈ offered ⟨7, 0⟩, call.Fills := by
    intro call member
    simp only [offered, List.mem_cons, List.not_mem_nil, or_false] at member
    rcases member with rfl | rfl | rfl
    · exact List.cons_ne_nil _ _
    · exact trivial
    · exact List.cons_ne_nil _ _
  have start := Crowd.Reached.start (offered ⟨7, 0⟩) below
    (Streams.Store.filled_empty.after fills) (offering ⟨7, 0⟩ []) rfl
  exact (start.enter ⟨5, 100, true⟩ (worker "left")).after 0 6

/-- What was handled is pending no longer once the listener acknowledged it. -/
theorem handled_is_acknowledged :
    handledCrowd.Reached ∧ handledCrowd.members[0]? = some handledMember ∧
      handledCrowd.store.delivery? "orders" "audit" ⟨7, 0⟩ = some ⟨"left", 1⟩ ∧
      (handledCrowd.listen 0 handledMember 0).store.delivery? "orders" "audit" ⟨7, 0⟩ = none :=
  ⟨reached_handledCrowd, rfl, rfl,
    ((reached_handledCrowd.acknowledges_handled (show handledCrowd.members[0]? = some handledMember
      from rfl)).1 0 ⟨7, 0⟩ ⟨"left", 1⟩ rfl).mpr
        (Or.inl ⟨handledRecord, 1, .access, .rehearsed, _, rfl, rfl, rfl⟩)⟩

/-- A crowd of two listeners, the first of which could not handle an entry of the greatest id. -/
def contestedCrowd : Crowd :=
  Crowd.after ⟨offering .greatest [.fail (.parsing "scripted")],
    [beginner "left", beginner "right"]⟩ 0 6

/-- What was not handled does not stay pending with its consumer if its id is the greatest one: the
next listener to read takes it over. -/
theorem greatest_is_taken_over :
    contestedCrowd.store.PendingWith (worker "left") .greatest ∧
      (contestedCrowd.after 1 3).store.PendingWith (worker "right") .greatest ∧
      ¬ (contestedCrowd.after 1 3).store.PendingWith (worker "left") .greatest ∧
      (contestedCrowd.after 1 3).members.flatMap (fun member =>
        member.log.flatMap Deed.resolved) = [] := by
  have taken : (contestedCrowd.after 1 3).store.PendingWith (worker "right") .greatest := ⟨1, rfl⟩
  refine ⟨⟨1, rfl⟩, taken, fun still => ?_, rfl⟩
  have same := @Store.PendingWith.unique _ (worker "left") (worker "right") _ rfl rfl still taken
  exact absurd (congrArg ListenerSpec.consumer same) (by decide)

end AccessFeed
