/-
This file proves in which order a stream gives out ids.

Every id comes behind the one before it, whatever the clock shows and whichever
ids are asked for, with one exception: the greatest id has no successor, and an
append behind it starts over at the first id of the last millisecond. So the ids
of a stream ascend, and no entry is written over, exactly as long as nothing is
appended behind the greatest one. The ids given out are followed along a run of
calls, those of deleted entries among them.
-/

import Mathlib.Data.List.Chain
import AccessFeed.Proofs.Deliveries
import AccessFeed.Proofs.Services

namespace AccessFeed.Streams

instance : Trans (fun first second : StreamId => first < second)
    (fun first second : StreamId => first < second)
    (fun first second : StreamId => first < second) :=
  ⟨StreamId.lt_trans⟩

/-! ### Ids given out -/

/-- The turn of a call on a store. -/
def Store.turn (store : Store) (call : StoreCall) : StoreTurn :=
  ⟨store, call, (call.perform store).1⟩

/-- The ids that a turn gives out in a stream: one if it appends an entry there. -/
def StoreTurn.assigned (stream : String) (turn : StoreTurn) : List StreamId :=
  match turn.call, turn.answer with
  | .append _ target _, .ok (.id id) => if target = stream then [id] else []
  | .appendWithId target _ _, .ok (.id id) => if target = stream then [id] else []
  | _, _ => []

/-- The ids that some turns give out in a stream, in order. -/
def assigned (stream : String) (turns : List StoreTurn) : List StreamId :=
  turns.flatMap (·.assigned stream)

/-- An append with an id of its own gives that out unless the stream is past it. -/
theorem StoreCall.le_of_not_given {held : Option Content} {stream : String} {id : StreamId}
    {fields : List (String × String)} (given : (appendWithId stream id fields).given? held = none) :
    id ≤ (held.getD .empty).lastId := by
  by_contra ahead
  rw [given?, if_neg ahead] at given
  cases given

namespace StoreTurn

theorem assigned_of_error (stream : String) {turn : StoreTurn} {error : StoreError}
    (failed : turn.answer = .error error) : turn.assigned stream = [] := by
  rw [assigned, failed]
  split
  · rename_i impossible
    cases impossible
  · rename_i impossible
    cases impossible
  · rfl

/-- A turn gives out ids in the stream that its call names. -/
theorem assigned_of_ne {stream : String} {turn : StoreTurn}
    (other : turn.call.target? ≠ some stream) : turn.assigned stream = [] := by
  rw [assigned]
  split
  · rename_i now target fields id called answered
    rw [called] at other
    exact if_neg fun same => other (congrArg some same)
  · rename_i target asked fields id called answered
    rw [called] at other
    exact if_neg fun same => other (congrArg some same)
  · rfl

/-- A working call answers the id that it gives out in its stream. -/
theorem assigned_of_working {store : Store} (working : store.failure = none) {stream : String}
    {call : StoreCall} (named : call.target? = some stream) :
    (store.turn call).assigned stream =
      (call.given? (store.content? stream)).toList := by
  cases given : call.given? (store.content? stream) with
  | some id =>
    rw [assigned, Store.turn, StoreCall.answer_of_given working named given]
    cases call with
    | append now target fields => exact if_pos (Option.some.inj named)
    | appendWithId target asked fields => exact if_pos (Option.some.inj named)
    | hasStream | groupNames | createGroup | readGroup | acknowledge | pending | range | delete
    | cluster | inject | clear | setClusterState => cases given
  | none =>
    cases call with
    | append now target fields => cases given
    | appendWithId target asked fields =>
      obtain rfl := Option.some.inj named
      have refused : (store.turn (.appendWithId target asked fields)).answer =
          .error (Store.notBehind ((store.content? target).getD .empty).lastId) := by
        show ((store.appendWithId target asked fields).as StoreReply.id).1 = _
        rw [Store.appendWithId_of_le working (StoreCall.le_of_not_given given)]
        rfl
      exact assigned_of_error target refused
    | hasStream | groupNames | createGroup | readGroup | acknowledge | pending | range | delete
    | cluster | inject | clear | setClusterState => rfl

end StoreTurn

/-- Whether an id may be given out right after another: it is behind that one, or that one is the
greatest, whose successor is not. -/
def Follows (first second : StreamId) : Prop :=
  first < second ∨ first = .greatest ∧ second = StreamId.greatest.successor

/-- Whether a stream has given out some ids, in order: the last of them is its last id, every
entry has one of them, and each follows the one before it. -/
structure Issued (held : Option Content) (ids : List StreamId) : Prop where
  last : (held.getD .empty).lastId = ids.getLast?.getD .least
  listed : ∀ id ∈ (held.getD .empty).entries.ids, id ∈ ids
  chain : ids.IsChain Follows

/-- A change of a group leaves the entries and the last id what they were. -/
theorem Content.numbering_changeGroup (content : Content) (group : String)
    (change : Group → Group) :
    (content.changeGroup group change).lastId = content.lastId ∧
      ∀ id ∈ (content.changeGroup group change).entries.ids, id ∈ content.entries.ids := by
  rw [Content.changeGroup]
  cases content.groups.get? group <;> exact ⟨rfl, fun id member => member⟩

/-- An append gives out an id behind the last one, unless that is the greatest. -/
theorem Content.follows_nextId (content : Content) (now : UInt64) :
    Follows content.lastId (content.nextId now) := by
  by_cases exhausted : content.lastId = .greatest
  · refine Or.inr ⟨exhausted, ?_⟩
    rw [nextId, exhausted, if_neg]
    exact fun later => absurd (UInt64.lt_iff_toNat_lt.mp later)
      (Nat.not_lt.mpr (Nat.le_pred_of_lt now.toNat_lt))
  · exact Or.inl (lt_nextId exhausted now)

namespace StoreCall

variable {held : Option Content} {id : StreamId}

/-- A call that gives out an id adds an entry there. -/
theorem effect_of_given {call : StoreCall} (given : call.given? held = some id) :
    ∃ fields, call.effect held = some ((held.getD .empty).add id fields) := by
  cases call with
  | append now stream fields =>
    obtain rfl := Option.some.inj given
    exact ⟨.ofList fields, rfl⟩
  | appendWithId stream asked fields =>
    rw [given?, Option.ite_none_left_eq_some] at given
    obtain ⟨ahead, given⟩ := given
    obtain rfl := Option.some.inj given
    exact ⟨.ofList fields, congrArg some (if_neg ahead)⟩
  | hasStream | groupNames | createGroup | readGroup | acknowledge | pending | range | delete
  | cluster | inject | clear | setClusterState => cases given

/-- An id that is given out follows the last one. -/
theorem follows_given {call : StoreCall} (given : call.given? held = some id) :
    Follows (held.getD .empty).lastId id := by
  cases call with
  | append now stream fields =>
    obtain rfl := Option.some.inj given
    exact Content.follows_nextId _ now
  | appendWithId stream asked fields =>
    rw [given?, Option.ite_none_left_eq_some] at given
    obtain ⟨ahead, given⟩ := given
    obtain rfl := Option.some.inj given
    exact Or.inl (StreamId.not_le.mp ahead)
  | hasStream | groupNames | createGroup | readGroup | acknowledge | pending | range | delete
  | cluster | inject | clear | setClusterState => cases given

/-- A call that gives out no id leaves the last one what it was, and adds no entry. -/
theorem effect_of_not_given {call : StoreCall} (given : call.given? held = none) :
    ((call.effect held).getD .empty).lastId = (held.getD .empty).lastId ∧
      ∀ id ∈ ((call.effect held).getD .empty).entries.ids,
        id ∈ (held.getD .empty).entries.ids := by
  cases call with
  | append now stream fields => cases given
  | appendWithId stream asked fields =>
    rw [effect, if_pos (le_of_not_given given)]
    exact ⟨rfl, fun id member => member⟩
  | createGroup stream group =>
    cases held with
    | none => exact ⟨rfl, fun id member => member⟩
    | some content =>
      rw [effect, Option.map_some]
      split <;> exact ⟨rfl, fun id member => member⟩
  | readGroup stream group consumer offset count =>
    cases held with
    | none => exact ⟨rfl, fun id member => member⟩
    | some content => exact content.numbering_changeGroup group _
  | acknowledge stream group ids =>
    cases held with
    | none => exact ⟨rfl, fun id member => member⟩
    | some content => exact content.numbering_changeGroup group _
  | delete stream gone =>
    cases held with
    | none => exact ⟨rfl, fun id member => member⟩
    | some content => exact ⟨rfl, fun id member => (IdMap.mem_ids_eraseAll.mp member).1⟩
  | hasStream | groupNames | pending | range | cluster | inject | clear | setClusterState =>
    exact ⟨rfl, fun id member => member⟩

/-- A turn leaves a stream alone and gives out nothing there, or it is a working call that names
the stream, and gives out what such a call does. -/
theorem perform_cases (call : StoreCall) (store : Store) (stream : String) :
    ((call.perform store).2.content? stream = store.content? stream ∧
        (store.turn call).assigned stream = []) ∨
      ((call.perform store).2.content? stream = call.effect (store.content? stream) ∧
        (store.turn call).assigned stream =
          (call.given? (store.content? stream)).toList) := by
  by_cases named : call.target? = some stream
  · cases failing : store.failure with
    | some error =>
      exact Or.inl ⟨call.content?_perform_failing failing stream,
        StoreTurn.assigned_of_error stream (answer_of_failing failing named)⟩
    | none =>
      have told := call.content?_perform_working failing stream
      rw [if_pos named] at told
      exact Or.inr ⟨told, StoreTurn.assigned_of_working failing named⟩
  · refine Or.inl ⟨?_, StoreTurn.assigned_of_ne named⟩
    rcases call.content?_perform store stream with same | ⟨_, reached, _⟩
    · exact same
    · exact absurd reached named

/-- A turn gives out one id at most, which its call adds to the stream. -/
theorem given_of_assigned {call : StoreCall} {store : Store} {stream : String} {id : StreamId}
    (member : id ∈ (store.turn call).assigned stream) :
    (store.turn call).assigned stream = [id] ∧
      call.given? (store.content? stream) = some id ∧
      (call.perform store).2.content? stream = call.effect (store.content? stream) := by
  rcases call.perform_cases store stream with ⟨_, nothing⟩ | ⟨told, same⟩
  · rw [nothing] at member
    cases member
  · rw [same] at member ⊢
    have given := Option.mem_toList.mp member
    rw [given]
    exact ⟨rfl, rfl, told⟩

end StoreCall

namespace Issued

variable {held : Option Content} {ids : List StreamId}

theorem empty : Issued none [] where
  last := rfl
  listed := fun _ member => absurd member List.not_mem_nil
  chain := List.IsChain.nil

/-- The ids given out stay what they are as long as no entry is added. -/
theorem of_shrunk (issued : Issued held ids) {after : Option Content}
    (last : (after.getD .empty).lastId = (held.getD .empty).lastId)
    (fewer : ∀ id ∈ (after.getD .empty).entries.ids, id ∈ (held.getD .empty).entries.ids) :
    Issued after ids where
  last := last.trans issued.last
  listed := fun id member => issued.listed id (fewer id member)
  chain := issued.chain

theorem add (issued : Issued held ids) {id : StreamId}
    (follows : Follows (held.getD .empty).lastId id) (fields : Fields) :
    Issued (some ((held.getD .empty).add id fields)) (ids ++ [id]) where
  last := by
    rw [List.getLast?_concat]
    rfl
  listed := by
    intro other member
    rcases IdMap.mem_ids_insert.mp member with same | present
    · exact List.mem_append_right _ (List.mem_singleton.mpr same)
    · exact List.mem_append_left _ (issued.listed other present)
  chain := by
    refine List.isChain_append.mpr ⟨issued.chain, List.isChain_singleton _, ?_⟩
    intro before ended next head
    obtain rfl := Option.some.inj (Option.mem_def.mp head)
    rw [issued.last, Option.mem_def.mp ended] at follows
    exact follows

/-- A call gives out one id or none; what it gives out follows what was given out before. -/
theorem effect (issued : Issued held ids) (call : StoreCall) :
    Issued (call.effect held) (ids ++ (call.given? held).toList) := by
  cases given : call.given? held with
  | some id =>
    obtain ⟨fields, made⟩ := call.effect_of_given given
    rw [made]
    exact issued.add (call.follows_given given) fields
  | none =>
    obtain ⟨last, fewer⟩ := call.effect_of_not_given given
    rw [Option.toList_none, List.append_nil]
    exact issued.of_shrunk last fewer

theorem turn {store : Store} {stream : String} (issued : Issued (store.content? stream) ids)
    (call : StoreCall) :
    Issued ((call.perform store).2.content? stream)
      (ids ++ (store.turn call).assigned stream) := by
  rcases call.perform_cases store stream with ⟨same, nothing⟩ | ⟨told, given⟩
  · rwa [same, nothing, List.append_nil]
  · rw [told, given]
    exact issued.effect call

theorem run {store : Store} {stream : String} (issued : Issued (store.content? stream) ids)
    (calls : List StoreCall) :
    Issued ((store.after calls).content? stream) (ids ++ assigned stream (store.turns calls)) := by
  induction calls generalizing store ids with
  | nil =>
    show Issued (store.content? stream) (ids ++ [])
    rwa [List.append_nil]
  | cons call rest inductionHypothesis =>
    have reached := inductionHypothesis (issued.turn call)
    rw [List.append_assoc] at reached
    exact reached

/-- A run from the empty store on. -/
theorem reached (calls : List StoreCall) (stream : String) :
    Issued ((Store.empty.after calls).content? stream)
      (assigned stream (Store.empty.turns calls)) := by
  have start : Issued (Store.empty.content? stream) [] := Issued.empty
  exact start.run calls

/-- Ids that follow each other ascend as long as the greatest is not among them, but at the end. -/
theorem pairwise_of_chain {ids : List StreamId} (chain : ids.IsChain Follows)
    (unexhausted : StreamId.greatest ∉ ids.dropLast) : ids.Pairwise (· < ·) := by
  refine List.isChain_iff_pairwise.mp ?_
  induction chain with
  | nil => exact List.IsChain.nil
  | singleton id => exact List.IsChain.singleton id
  | cons_cons follows _ inductionHypothesis =>
    rw [List.dropLast_cons_cons, List.mem_cons, not_or] at unexhausted
    refine List.IsChain.cons_cons ?_ (inductionHypothesis unexhausted.2)
    rcases follows with behind | ⟨exhausted, _⟩
    · exact behind
    · exact absurd exhausted.symm unexhausted.1

/-- As long as the greatest id was not given out, but at the end, all ids are at most the last. -/
theorem le_last (issued : Issued held ids) (unexhausted : StreamId.greatest ∉ ids.dropLast)
    {id : StreamId} (member : id ∈ ids) : id ≤ (held.getD .empty).lastId := by
  rw [issued.last]
  cases ended : ids.getLast? with
  | none =>
    rw [List.getLast?_eq_none_iff.mp ended] at member
    cases member
  | some last =>
    have ascending := pairwise_of_chain issued.chain unexhausted
    obtain ⟨earlier, rfl⟩ := List.getLast?_eq_some_iff.mp ended
    rcases List.mem_append.mp member with before | same
    · exact StreamId.le_of_lt
        ((List.pairwise_append.mp ascending).2.2 id before last (List.mem_singleton_self last))
    · rw [List.mem_singleton.mp same]
      exact StreamId.le_refl last

/-- What is given out is behind everything earlier as long as the greatest id is not there. -/
theorem lt_of_concat {earlier : List StreamId} {id : StreamId}
    (issued : Issued held (earlier ++ [id])) (unexhausted : StreamId.greatest ∉ earlier) :
    ∀ other ∈ earlier, other < id := by
  intro other member
  have ascending := pairwise_of_chain issued.chain (by rwa [List.dropLast_concat])
  exact (List.pairwise_append.mp ascending).2.2 other member id (List.mem_singleton_self id)

end Issued

/-! ### Whole runs -/

theorem Store.after_concat (store : Store) (before : List StoreCall) (call : StoreCall) :
    store.after (before ++ [call]) = (call.perform (store.after before)).2 :=
  List.foldl_concat ..

theorem Store.turns_concat (store : Store) (before : List StoreCall) (call : StoreCall) :
    store.turns (before ++ [call]) = store.turns before ++ [(store.after before).turn call] := by
  induction before generalizing store with
  | nil => rfl
  | cons first rest inductionHypothesis =>
    exact congrArg (List.cons (store.turn first)) (inductionHypothesis (first.perform store).2)

theorem assigned_concat (stream : String) (store : Store) (before : List StoreCall)
    (call : StoreCall) :
    assigned stream (store.turns (before ++ [call])) =
      assigned stream (store.turns before) ++
        ((store.after before).turn call).assigned stream := by
  rw [assigned, Store.turns_concat, List.flatMap_append, List.flatMap_singleton]
  rfl

/-- Whether the greatest id was given out in a stream, in a run from the empty store on. -/
def Exhausted (stream : String) (calls : List StoreCall) : Prop :=
  .greatest ∈ assigned stream (Store.empty.turns calls)

instance (stream : String) (calls : List StoreCall) : Decidable (Exhausted stream calls) :=
  inferInstanceAs (Decidable (_ ∈ assigned stream (Store.empty.turns calls)))

section

variable {before : List StoreCall} {call : StoreCall} {stream : String} {id : StreamId}

/-- An id that is given out follows the last one. -/
theorem follows_of_assigned (given : id ∈ ((Store.empty.after before).turn call).assigned stream) :
    Follows ((assigned stream (Store.empty.turns before)).getLast?.getD .least) id := by
  rw [← (Issued.reached before stream).last]
  exact StoreCall.follows_given (StoreCall.given_of_assigned given).2.1

/-- Until the greatest id is given out, an id that is given out is behind all earlier ones. -/
theorem lt_of_assigned (unexhausted : ¬ Exhausted stream before)
    (given : id ∈ ((Store.empty.after before).turn call).assigned stream) :
    ∀ earlier ∈ assigned stream (Store.empty.turns before), earlier < id := by
  have issued := (Issued.reached before stream).turn call
  rw [(StoreCall.given_of_assigned given).1] at issued
  exact issued.lt_of_concat unexhausted

/-- Until the greatest id is given out, no entry is written over. -/
theorem fieldsAt?_of_assigned (unexhausted : ¬ Exhausted stream before)
    (given : id ∈ ((Store.empty.after before).turn call).assigned stream) {other : StreamId}
    {fields : Fields} (present : (Store.empty.after before).fieldsAt? stream other = some fields) :
    (Store.empty.after (before ++ [call])).fieldsAt? stream other = some fields := by
  obtain ⟨_, asked, told⟩ := StoreCall.given_of_assigned given
  obtain ⟨added, made⟩ := StoreCall.effect_of_given asked
  obtain ⟨content, held, entry⟩ := Option.bind_eq_some_iff.mp present
  have listed : other ∈ assigned stream (Store.empty.turns before) := by
    refine (Issued.reached before stream).listed other ?_
    rw [held]
    exact IdMap.mem_ids_iff.mpr ⟨fields, entry⟩
  rw [held] at made
  rw [Store.after_concat, Store.fieldsAt?, told, held, made, Option.bind_some, Content.add,
    IdMap.get?_insert, if_neg (StreamId.ne_of_lt (lt_of_assigned unexhausted given other listed))]
  exact entry

/-- Until the greatest id is given out, but by the last turn, no entry is behind the last id. -/
theorem le_lastId_of_unexhausted (unexhausted : ¬ Exhausted stream before) {content : Content}
    (held : (Store.empty.after (before ++ [call])).content? stream = some content) :
    ∀ id ∈ content.entries.ids, id ≤ content.lastId := by
  have issued := Issued.reached (before ++ [call]) stream
  rw [held, assigned_concat] at issued
  refine fun id member => issued.le_last (fun early => unexhausted ?_) (issued.listed id member)
  cases produced : ((Store.empty.after before).turn call).assigned stream with
  | nil =>
    rw [produced, List.append_nil] at early
    exact List.dropLast_subset _ early
  | cons given rest =>
    rw [(StoreCall.given_of_assigned (produced ▸ List.mem_cons_self)).1,
      List.dropLast_concat] at early
    exact early

end

/-- In a run from the empty store on, an id that is given out in a stream comes behind all ids that
were given out there before, those of deleted entries among them, unless the greatest id is one of
these: right behind that one comes the first id of the last millisecond. Until the greatest id is
given out no entry is written over, and no entry is behind the last id of its stream. -/
theorem assigned_behind_earlier_iff (before : List StoreCall) (call : StoreCall)
    (stream : String) :
    (∀ id ∈ ((Store.empty.after before).turn call).assigned stream,
      Follows ((assigned stream (Store.empty.turns before)).getLast?.getD .least) id ∧
        ((∀ earlier ∈ assigned stream (Store.empty.turns before), earlier < id) ↔
          ¬ Exhausted stream before) ∧
        (¬ Exhausted stream before → ∀ other fields,
          (Store.empty.after before).fieldsAt? stream other = some fields →
          (Store.empty.after (before ++ [call])).fieldsAt? stream other = some fields)) ∧
      (¬ Exhausted stream before →
        ∀ content, (Store.empty.after (before ++ [call])).content? stream = some content →
          ∀ id ∈ content.entries.ids, id ≤ content.lastId) := by
  refine ⟨fun id given => ⟨follows_of_assigned given, ⟨fun behind exhausted => ?_,
    fun unexhausted => lt_of_assigned unexhausted given⟩,
    fun unexhausted other fields => fieldsAt?_of_assigned unexhausted given⟩,
    fun unexhausted content => le_lastId_of_unexhausted unexhausted⟩
  exact absurd (behind .greatest exhausted) (StreamId.not_lt.mpr id.le_greatest)

/-- A run in which the clock goes back, an entry is deleted, and an id is asked for. -/
def windingRun : List StoreCall :=
  [.append 7 "orders" [("type", "first")], .append 3 "orders" [("type", "second")],
    .delete "orders" [⟨7, 1⟩], .appendWithId "orders" ⟨9, StreamId.greatestPart⟩ []]

/-- Behind the last id of a millisecond the next one begins. -/
theorem windingRun_goes_on :
    assigned "orders" (Store.empty.turns windingRun) =
        [⟨7, 0⟩, ⟨7, 1⟩, ⟨9, StreamId.greatestPart⟩] ∧
      ((Store.empty.after windingRun).turn (.append 5 "orders" [])).assigned "orders" =
        [⟨10, 0⟩] ∧
      ∀ earlier ∈ assigned "orders" (Store.empty.turns windingRun), earlier < ⟨10, 0⟩ := by
  have unexhausted : ¬ Exhausted "orders" windingRun := by decide
  have given : ((Store.empty.after windingRun).turn (.append 5 "orders" [])).assigned "orders" =
      [⟨10, 0⟩] := rfl
  refine ⟨rfl, given, ?_⟩
  have behind := (assigned_behind_earlier_iff windingRun (.append 5 "orders" []) "orders").1
    ⟨10, 0⟩ (given ▸ List.mem_singleton_self _)
  exact behind.2.1.mpr unexhausted

/-- A run that asks for the first id of the last millisecond and for the greatest one. -/
def exhaustingRun : List StoreCall :=
  [.appendWithId "orders" ⟨StreamId.greatestPart, 0⟩ [("type", "first")],
    .appendWithId "orders" .greatest [("type", "second")]]

/-- Behind the greatest id the first one of the last millisecond is given out again: its entry is
written over, and that of the greatest id is behind the last one. -/
theorem exhaustingRun_starts_over :
    assigned "orders" (Store.empty.turns exhaustingRun) =
        [⟨StreamId.greatestPart, 0⟩, .greatest] ∧
      ((Store.empty.after exhaustingRun).turn (.append 7 "orders" [("type", "third")])).assigned
        "orders" = [⟨StreamId.greatestPart, 0⟩] ∧
      (Store.empty.after exhaustingRun).fieldsAt? "orders" ⟨StreamId.greatestPart, 0⟩ =
        some (.ofList [("type", "first")]) ∧
      (Store.empty.after (exhaustingRun ++ [.append 7 "orders" [("type", "third")]])).fieldsAt?
        "orders" ⟨StreamId.greatestPart, 0⟩ = some (.ofList [("type", "third")]) ∧
      ((Store.empty.after (exhaustingRun ++ [.append 7 "orders" [("type", "third")]])).content?
        "orders").map (fun content => (content.entries.ids, content.lastId)) =
        some ([⟨StreamId.greatestPart, 0⟩, .greatest], ⟨StreamId.greatestPart, 0⟩) ∧
      ¬ ∀ (before : List StoreCall) (call : StoreCall) (stream : String),
        ∀ id ∈ ((Store.empty.after before).turn call).assigned stream,
          ∀ earlier ∈ assigned stream (Store.empty.turns before), earlier < id := by
  refine ⟨rfl, rfl, rfl, rfl, rfl, fun ascending => ?_⟩
  have behind := ascending exhaustingRun (.append 7 "orders" [("type", "third")]) "orders"
    ⟨StreamId.greatestPart, 0⟩ (List.mem_singleton_self _) .greatest
    (List.mem_cons_of_mem _ (List.mem_singleton_self _))
  exact absurd behind (by decide)

end AccessFeed.Streams
