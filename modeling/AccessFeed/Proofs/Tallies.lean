/-
This file tells by numbers what the requests to a stream service change.

A request takes pending ids off their lists only if it is an acknowledgement that
works, and entries out of their streams only if it is a deletion that works; it
answers how many they are. A request that fails changes nothing. The requests of
an errand follow each other without a gap, so that what they change one by one is
all that changes while it is done.
-/

import Mathlib.Data.Set.Card
import AccessFeed.Proofs.Errands

namespace AccessFeed.Streams

/-- The ids of the entries of a stream. -/
def Store.entryIds (store : Store) (stream : String) : List StreamId :=
  ((store.content? stream).map fun content => content.entries.ids).getD []

namespace Attempt

/-- The pending ids that a request took off their lists, each with its stream and its group. -/
def released (attempt : Attempt) : Set (String × String × StreamId) :=
  {place | place.2.2 ∈ attempt.before.pendingIds place.1 place.2.1 ∧
    place.2.2 ∉ attempt.after.pendingIds place.1 place.2.1}

/-- The entries that a request took out of some streams, each with its stream. -/
def removed (streams : List String) (attempt : Attempt) : Set (String × StreamId) :=
  {place | place.1 ∈ streams ∧ place.2 ∈ attempt.before.entryIds place.1 ∧
    place.2 ∉ attempt.after.entryIds place.1}

/-- The number of entries that a request appended to one of some streams. -/
def appended (streams : List String) (attempt : Attempt) : Nat :=
  match attempt.request with
  | .append _ stream _ => if attempt.failed = false ∧ stream ∈ streams then 1 else 0
  | _ => 0

/-- Whether some requests follow each other without a gap, from one store to another. -/
def Links (first : Store) : List Attempt → Store → Prop
  | [], last => first = last
  | attempt :: rest, last => first = attempt.before ∧ Links attempt.after rest last

theorem Links.append {first middle last : Store} {attempts more : List Attempt}
    (links : Links first attempts middle) (others : Links middle more last) :
    Links first (attempts ++ more) last := by
  induction attempts generalizing first with
  | nil => exact links ▸ others
  | cons attempt rest inductionHypothesis => exact ⟨links.1, inductionHypothesis links.2⟩

end Attempt

/-! ### Erasing -/

/-- Erasing ids takes away as many as it counts, wherever the map is kept. -/
theorem IdMap.ncard_erased {Value Place : Type} (map : IdMap Value) (ids : List StreamId)
    {place : StreamId → Place} (injective : Function.Injective place) :
    Set.ncard {spot | ∃ id, place id = spot ∧ id ∈ map.ids ∧ id ∉ (map.eraseAll ids).2.ids} =
      (map.eraseAll ids).1 := by
  have same : {spot | ∃ id, place id = spot ∧ id ∈ map.ids ∧ id ∉ (map.eraseAll ids).2.ids} =
      place '' ↑(ids.toFinset.filter fun id => id ∈ map.ids) := by
    ext spot
    constructor
    · rintro ⟨id, rfl, held, erased⟩
      refine ⟨id, ?_, rfl⟩
      by_contra other
      refine erased (mem_ids_eraseAll.mpr ⟨held, fun listed => other ?_⟩)
      exact Finset.mem_coe.mpr (Finset.mem_filter.mpr ⟨List.mem_toFinset.mpr listed, held⟩)
    · rintro ⟨id, among, rfl⟩
      obtain ⟨listed, held⟩ := Finset.mem_filter.mp (Finset.mem_coe.mp among)
      exact ⟨id, rfl, held, fun left =>
        (mem_ids_eraseAll.mp left).2 (List.mem_toFinset.mp listed)⟩
  rw [same, Set.ncard_image_of_injective _ injective, Set.ncard_coe_finset, eraseAll_count]

/-! ### What a request changes -/

namespace Request

variable {request : Request} {service : Service} {stream group : String}

/-- A request that failed has no answer and changed no stream. -/
theorem make_of_failed (failed : (request.attempt service).failed = true) :
    (request.make service).1.toOption = none ∧ ∀ other,
      (request.attempt service).after.content? other = service.store.content? other := by
  have outcome := request.outcome_make service
  rw [attempt] at failed ⊢
  generalize request.make service = made at outcome failed ⊢
  cases outcome with
  | failed error kept => exact ⟨rfl, kept⟩
  | worked => cases failed

/-- A request that worked has an answer and changed the stream it names only. -/
theorem make_of_worked (worked : (request.attempt service).failed = false) :
    (request.make service).1.toOption =
        some (request.reply (service.store.content? request.stream)) ∧
      ∀ other, (request.attempt service).after.content? other =
        if other = request.stream then
          request.call.effect (service.store.content? request.stream)
        else service.store.content? other := by
  have outcome := request.outcome_make service
  rw [attempt] at worked ⊢
  generalize request.make service = made at outcome worked ⊢
  cases outcome with
  | failed => cases worked
  | worked changed => exact ⟨rfl, changed⟩

/-- A group that a request is not about stays as it is. -/
theorem group?_attempt (other : ¬ request.call.Concerns stream group) :
    (request.attempt service).after.group? stream group =
      service.store.group? stream group := by
  show ((request.attempt service).after.content? stream).bind _ =
    (service.store.content? stream).bind _
  cases failed : (request.attempt service).failed with
  | true => rw [(make_of_failed failed).2]
  | false =>
    rw [(make_of_worked failed).2]
    split
    · rename_i named
      subst named
      cases request with
      | range | pending => rfl
      | append | acknowledge | delete => exact StoreCall.group_effect _ _ rfl other
    · rfl

theorem pendingIds_attempt (other : ¬ request.call.Concerns stream group) :
    (request.attempt service).after.pendingIds stream group =
      service.store.pendingIds stream group := by
  rw [Store.pendingIds, Store.pendingIds, group?_attempt other]

/-- A request that is no acknowledgement takes no pending ids off their lists. -/
theorem released_of_other (other : request.acknowledges = false) :
    (request.attempt service).released.ncard = 0 := by
  have none : (request.attempt service).released = ∅ := by
    refine Set.eq_empty_of_forall_notMem fun place gone => gone.2 ?_
    rw [pendingIds_attempt]
    · exact gone.1
    · intro concerns
      cases request with
      | acknowledge => cases other
      | append | range | pending | delete => exact concerns
  rw [none, Set.ncard_empty]

/-- A request that failed takes no pending ids off their lists. -/
theorem released_of_failed (failed : (request.attempt service).failed = true) :
    (request.attempt service).released = ∅ := by
  refine Set.eq_empty_of_forall_notMem fun place gone => gone.2 ?_
  have same : (request.attempt service).after.group? place.1 place.2.1 =
      service.store.group? place.1 place.2.1 :=
    congrArg (Option.bind · _) ((make_of_failed failed).2 place.1)
  rw [Store.pendingIds, same]
  exact gone.1

/-- An acknowledgement that works leaves its group without the ids. -/
theorem pendingIds_acknowledge {ids : List StreamId} {held : Group}
    (worked : ((acknowledge stream group ids).attempt service).failed = false)
    (member : service.store.group? stream group = some held) :
    ((acknowledge stream group ids).attempt service).after.pendingIds stream group =
      (held.pending.eraseAll ids).2.ids := by
  obtain ⟨content, present, own⟩ := Option.bind_eq_some_iff.mp member
  have changed : ((acknowledge stream group ids).attempt service).after.content? stream =
      (service.store.content? stream).map fun content => content.changeGroup group fun held =>
        { held with pending := (held.pending.eraseAll ids).2 } :=
    ((make_of_worked worked).2 stream).trans (if_pos rfl)
  rw [present, Option.map_some, StoreCall.changeGroup_of_some own] at changed
  have left : ((acknowledge stream group ids).attempt service).after.group? stream group =
      some { held with pending := (held.pending.eraseAll ids).2 } := by
    show (Store.content? _ stream).bind _ = _
    rw [changed]
    exact Table.get?_set_self _ _ _
  rw [Store.pendingIds, left]

/-- Of all lists of pending ids only that of the group acknowledged gets shorter. -/
theorem released_eq (service : Service) (stream group : String) (ids : List StreamId) :
    ((acknowledge stream group ids).attempt service).released =
      {spot | ∃ id, (stream, group, id) = spot ∧ id ∈ service.store.pendingIds stream group ∧
        id ∉ ((acknowledge stream group ids).attempt service).after.pendingIds stream group} := by
  ext ⟨target, asked, id⟩
  constructor
  · rintro ⟨held, gone⟩
    by_cases concerned : stream = target ∧ group = asked
    · obtain ⟨rfl, rfl⟩ := concerned
      exact ⟨id, rfl, held, gone⟩
    · have kept : ((acknowledge stream group ids).attempt service).after.pendingIds
          target asked = service.store.pendingIds target asked :=
        pendingIds_attempt concerned
      exact absurd (kept ▸ held) gone
  · rintro ⟨_, same, gone⟩
    cases same
    exact gone

/-- An acknowledgement takes as many pending ids off their list as it answers. -/
theorem released_acknowledge (service : Service) (stream group : String) (ids : List StreamId) :
    ((acknowledge stream group ids).attempt service).released.ncard =
      ((acknowledge stream group ids).make service).1.toOption.getD 0 := by
  cases failed : ((acknowledge stream group ids).attempt service).failed with
  | true =>
    rw [released_of_failed failed, (make_of_failed failed).1, Set.ncard_empty]
    rfl
  | false =>
    have reply : ((acknowledge stream group ids).make service).1.toOption.getD 0 =
        ((service.store.group? stream group).map fun held =>
          (held.pending.eraseAll ids).1).getD 0 := by
      rw [(make_of_worked failed).1]
      rfl
    rw [released_eq, reply]
    cases member : service.store.group? stream group with
    | none =>
      rw [Store.pendingIds, member]
      simp
    | some held =>
      rw [pendingIds_acknowledge failed member, Store.pendingIds, member]
      exact held.pending.ncard_erased ids fun first second same => by cases same; rfl

/-! ### Entries -/

/-- A request that failed takes no entries out. -/
theorem removed_of_failed (streams : List String)
    (failed : (request.attempt service).failed = true) :
    (request.attempt service).removed streams = ∅ := by
  refine Set.eq_empty_of_forall_notMem fun place gone => gone.2.2 ?_
  rw [Store.entryIds, (make_of_failed failed).2]
  exact gone.2.1

/-- A stream that a request does not name keeps its entries. -/
theorem entryIds_attempt (other : stream ≠ request.stream) :
    (request.attempt service).after.entryIds stream = service.store.entryIds stream := by
  have same : (request.attempt service).after.content? stream = service.store.content? stream := by
    cases failed : (request.attempt service).failed with
    | true => exact (make_of_failed failed).2 stream
    | false => exact ((make_of_worked failed).2 stream).trans (if_neg other)
  rw [Store.entryIds, Store.entryIds, same]

/-- A request takes no entries out of streams that it does not name. -/
theorem removed_of_foreign {streams : List String} (foreign : request.stream ∉ streams) :
    ((request.attempt service).removed streams).ncard = 0 := by
  have none : (request.attempt service).removed streams = ∅ := by
    refine Set.eq_empty_of_forall_notMem fun place gone => gone.2.2 ?_
    rw [entryIds_attempt (ne_of_mem_of_not_mem gone.1 foreign)]
    exact gone.2.1
  rw [none, Set.ncard_empty]

/-- Nothing that works, except for a deletion, takes entries out of a stream. -/
theorem mem_effect {held : Option Content} (other : request.deletes = false)
    {id : StreamId} (member : id ∈ (held.map fun content => content.entries.ids).getD []) :
    id ∈ ((request.call.effect held).map fun content => content.entries.ids).getD [] := by
  cases held with
  | none => exact absurd member List.not_mem_nil
  | some content =>
    cases request with
    | range | pending => exact member
    | append => exact IdMap.mem_ids_insert.mpr (Or.inr member)
    | acknowledge stream group ids =>
      show id ∈ (content.changeGroup group _).entries.ids
      rw [Content.changeGroup]
      split <;> exact member
    | delete => cases other

/-- A request that is no deletion takes no entries out. -/
theorem removed_of_other (streams : List String) (other : request.deletes = false) :
    ((request.attempt service).removed streams).ncard = 0 := by
  have none : (request.attempt service).removed streams = ∅ := by
    cases failed : (request.attempt service).failed with
    | true => exact removed_of_failed streams failed
    | false =>
      refine Set.eq_empty_of_forall_notMem fun place gone => gone.2.2 ?_
      rw [Store.entryIds, (make_of_worked failed).2]
      split
      · rename_i named
        exact mem_effect other (named ▸ gone.2.1)
      · exact gone.2.1
  rw [none, Set.ncard_empty]

/-- Of all streams only the one that is named loses entries. -/
theorem removed_eq {streams : List String} (among : stream ∈ streams) (service : Service)
    (ids : List StreamId) :
    ((delete stream ids).attempt service).removed streams =
      {spot | ∃ id, (stream, id) = spot ∧ id ∈ service.store.entryIds stream ∧
        id ∉ ((delete stream ids).attempt service).after.entryIds stream} := by
  ext ⟨target, id⟩
  constructor
  · rintro ⟨-, held, gone⟩
    by_cases named : target = stream
    · subst named
      exact ⟨id, rfl, held, gone⟩
    · have kept : ((delete stream ids).attempt service).after.entryIds target =
          service.store.entryIds target := entryIds_attempt named
      exact absurd (kept ▸ held) gone
  · rintro ⟨_, same, gone⟩
    cases same
    exact ⟨among, gone⟩

/-- A deletion takes as many entries out of its stream as it answers. -/
theorem removed_delete {streams : List String} (service : Service) (among : stream ∈ streams)
    (ids : List StreamId) :
    (((delete stream ids).attempt service).removed streams).ncard =
      ((delete stream ids).make service).1.toOption.getD 0 := by
  cases failed : ((delete stream ids).attempt service).failed with
  | true =>
    rw [removed_of_failed streams failed, (make_of_failed failed).1, Set.ncard_empty]
    rfl
  | false =>
    obtain ⟨answered, changed⟩ := make_of_worked failed
    have left : ((delete stream ids).attempt service).after.content? stream =
        (service.store.content? stream).map fun content =>
          { content with entries := (content.entries.eraseAll ids).2 } :=
      (changed stream).trans (if_pos rfl)
    rw [removed_eq among, answered, Option.getD_some, Store.entryIds, Store.entryIds, left, reply,
      Request.stream]
    cases service.store.content? stream with
    | none => simp
    | some content =>
      exact content.entries.ncard_erased ids fun first second same => by cases same; rfl

/-! ### Appending -/

/-- An append adds an entry exactly if it has an answer. -/
theorem appended_append {streams : List String} (service : Service) (among : stream ∈ streams)
    (now : UInt64) (fields : List (String × String)) :
    ((append now stream fields).attempt service).appended streams =
      if ((append now stream fields).make service).1.toOption.isSome then 1 else 0 := by
  show (if (((append now stream fields).make service).1.toOption.isNone) = false ∧
    stream ∈ streams then 1 else 0) = _
  cases ((append now stream fields).make service).1.toOption with
  | none => rfl
  | some id => exact if_pos ⟨rfl, among⟩

end Request

/-! ### What an errand amounts to -/

namespace Errand

variable {Value Other : Type}

/-- What the requests of an errand amount to by a measure. -/
def total (measure : Attempt → Nat) (service : Service) (errand : Errand Value) : Nat :=
  ((errand.trail service).map measure).sum

variable {measure : Attempt → Nat} {service : Service}

theorem total_done (value : Value) : (done value).total measure service = 0 := rfl

theorem total_ask {request : Request} {next : Option request.Answered → Errand Value} :
    (ask request next).total measure service =
      measure (request.attempt service) +
        (next (request.make service).1.toOption).total measure (request.make service).2 := by
  rw [total, trail, List.map_cons, List.sum_cons]
  rfl

/-- An errand whose first request counts nothing if it works, and ends it if it fails, comes to what
follows. -/
theorem total_ask_eq {request : Request} {next : Option request.Answered → Errand (Option Value)}
    (share : Option Value → Nat) (lost : next none = done none)
    (first : measure (request.attempt service) =
      if (request.attempt service).failed then share none else 0)
    (rest : ∀ answer, (request.make service).1.toOption = some answer →
      (next (some answer)).total measure (request.make service).2 =
        share ((next (some answer)).run (request.make service).2).1) :
    (ask request next).total measure service = share ((ask request next).run service).1 := by
  rw [total_ask, run, first]
  cases failed : (request.attempt service).failed with
  | true =>
    rw [(Request.make_of_failed failed).1, lost]
    rfl
  | false =>
    have answered := (Request.make_of_worked failed).1
    rw [answered]
    exact (Nat.zero_add _).trans (rest _ answered)

theorem total_bind (errand : Errand Value) (next : Value → Errand Other) :
    (errand.bind next).total measure service =
      errand.total measure service +
        (next (errand.run service).1).total measure (errand.run service).2 := by
  rw [total, trail_bind, List.map_append, List.sum_append]
  rfl

theorem total_map (errand : Errand Value) (change : Value → Other) :
    (errand.map change).total measure service = errand.total measure service := by
  rw [total, trail_map]
  rfl

/-- An errand amounts to nothing if none of the requests it may make does. -/
theorem Makes.total_eq_zero {errand : Errand Value}
    (makes : errand.Makes fun request => ∀ service, measure (request.attempt service) = 0) :
    errand.total measure service = 0 := by
  induction errand generalizing service with
  | done value => rfl
  | ask request next inductionHypothesis =>
    rw [total_ask, makes.1, inductionHypothesis _ (makes.2 _)]

/-- The requests of an errand follow each other without a gap. -/
theorem links_trail (errand : Errand Value) (service : Service) :
    Attempt.Links service.store (errand.trail service) (errand.run service).2.store := by
  induction errand generalizing service with
  | done value => rfl
  | ask request next inductionHypothesis => exact ⟨rfl, inductionHypothesis _ _⟩

end Errand

end AccessFeed.Streams
