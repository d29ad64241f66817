/-
This file describes work on a stream service by the requests it makes.

An errand makes requests one after the other, and what it asks next depends on
what it was answered; of a request that failed it learns no more than that it
did. What a request answers and changes is determined by the content of the
stream it names and by whether it fails. So an errand that names some streams
only leaves all others as they are, and two runs of it that find these streams
alike, and in which the same requests fail, do the same to them, whatever
happens to other streams.
-/

import AccessFeed.Proofs.Bookkeeping
import AccessFeed.Proofs.Services

namespace AccessFeed.Streams

/-! ### Requests -/

/-- A request to a stream service. -/
inductive Request
  | append (now : UInt64) (stream : String) (fields : List (String × String))
  | range (stream : String) (start stop : StreamId) (count : Nat)
  | pending (stream group : String) (count : Nat)
  | acknowledge (stream group : String) (ids : List StreamId)
  | delete (stream : String) (ids : List StreamId)
deriving DecidableEq, Repr

namespace Request

/-- The stream that a request names. -/
def stream : Request → String
  | append _ stream _ => stream
  | range stream _ _ _ => stream
  | pending stream _ _ => stream
  | acknowledge stream _ _ => stream
  | delete stream _ => stream

/-- Whether a request is an acknowledgement. -/
def acknowledges : Request → Bool
  | acknowledge _ _ _ => true
  | _ => false

/-- Whether a request is a deletion. -/
def deletes : Request → Bool
  | delete _ _ => true
  | _ => false

/-- What a request that works answers. -/
abbrev Answered : Request → Type
  | append _ _ _ => StreamId
  | range _ _ _ _ => List Record
  | pending _ _ _ => List PendingEntry
  | acknowledge _ _ _ => Nat
  | delete _ _ => Nat

/-- Makes a request to a service. -/
def make (service : Service) : (request : Request) → Reply request.Answered
  | append now stream fields => service.append now stream fields
  | range stream start stop count => service.range stream start stop count
  | pending stream group count => service.pending stream group count
  | acknowledge stream group ids => service.acknowledge stream group ids
  | delete stream ids => service.delete stream ids

/-- A request as a call on a store. -/
def call : Request → StoreCall
  | append now stream fields => .append now stream fields
  | range stream start stop count => .range stream start stop count
  | pending stream group count => .pending stream group count
  | acknowledge stream group ids => .acknowledge stream group ids
  | delete stream ids => .delete stream ids

/-- What a request that works answers to the content of the stream it names. -/
def reply (held : Option Content) : (request : Request) → request.Answered
  | append now _ _ => (held.getD .empty).nextId now
  | range stream start stop count =>
    match held with
    | none => []
    | some content => ((content.entries.between start stop).take count).map fun entry =>
      ⟨stream, entry.1, entry.2⟩
  | pending _ group count =>
    ((held.bind fun content => content.groups.get? group).map fun found =>
      found.listed count).getD []
  | acknowledge _ group ids =>
    ((held.bind fun content => content.groups.get? group).map fun found =>
      (found.pending.eraseAll ids).1).getD 0
  | delete _ ids => (held.map fun content => (content.entries.eraseAll ids).1).getD 0

/-- How a request may come out: it fails and changes no stream, or its answer and what it makes of
the stream it names are determined by the content of this stream. -/
inductive Outcome (before : Service) (request : Request) : Reply request.Answered → Prop
  | failed {after : Service} (error : StoreError)
    (kept : ∀ other, after.store.content? other = before.store.content? other) :
    Outcome before request (.error error, after)
  | worked {after : Service}
    (changed : ∀ other, after.store.content? other =
      if other = request.stream then request.call.effect (before.store.content? request.stream)
      else before.store.content? other) :
    Outcome before request (.ok (request.reply (before.store.content? request.stream)), after)

theorem outcome_of_same {before after : Service} {request : Request}
    {answer : Except StoreError request.Answered} (store : after.store = before.store)
    (still : ∀ held, request.call.effect held = held)
    (answers : (∃ error, answer = .error error) ∨
      answer = .ok (request.reply (before.store.content? request.stream))) :
    Outcome before request (answer, after) := by
  rcases answers with ⟨error, rfl⟩ | rfl
  · exact .failed error fun other => by rw [store]
  · refine .worked fun other => ?_
    rw [store, still]
    split
    · rename_i named
      rw [named]
    · rfl

theorem outcome_append (service : Service) (now : UInt64) (stream : String)
    (fields : List (String × String)) :
    Outcome service (append now stream fields) (service.append now stream fields) := by
  have cases := service.append_cases now stream fields
  generalize service.append now stream fields = asked at cases ⊢
  obtain ⟨answer, after⟩ := asked
  rcases cases with ⟨error, rfl, store⟩ | ⟨rfl, changed⟩
  · exact .failed error fun other => congrArg (Store.content? · other) store
  · exact .worked changed

theorem outcome_range (service : Service) (stream : String) (start stop : StreamId)
    (count : Nat) :
    Outcome service (range stream start stop count) (service.range stream start stop count) := by
  obtain ⟨store, answers⟩ := service.range_cases stream start stop count
  generalize service.range stream start stop count = asked at store answers ⊢
  obtain ⟨answer, after⟩ := asked
  exact outcome_of_same store (fun _ => rfl) answers

theorem outcome_pending (service : Service) (stream group : String) (count : Nat) :
    Outcome service (pending stream group count) (service.pending stream group count) := by
  obtain ⟨store, answers⟩ := service.pending_cases stream group count
  generalize service.pending stream group count = asked at store answers ⊢
  obtain ⟨answer, after⟩ := asked
  refine outcome_of_same store (fun _ => rfl) (answers.imp_right ?_)
  rintro ⟨held, member, answered⟩
  have found : ((service.store.content? stream).bind fun content => content.groups.get? group) =
      some held := member
  refine answered.trans (congrArg Except.ok ?_)
  rw [reply, Request.stream, found, Option.map_some, Option.getD_some]

theorem outcome_of_guarded {service : Service} {request : Request} {method : StoreMethod}
    {target : Option String} {operation inner : Store → Answer request.Answered}
    (guarded : ∀ store, operation store = store.guarded (inner store))
    (answers : service.store.failure = none → (operation service.store).1 =
      .ok (request.reply (service.store.content? request.stream)))
    (changes : service.store.failure = none → ∀ other,
      (operation service.store).2.content? other =
        if other = request.stream then
          request.call.effect (service.store.content? request.stream)
        else service.store.content? other) :
    Outcome service request (service.call method target operation) := by
  have cases := service.guarded_cases method target guarded
  generalize service.call method target operation = asked at cases ⊢
  obtain ⟨answer, after⟩ := asked
  rcases cases with ⟨error, rfl, store⟩ | ⟨working, rfl, store⟩
  · exact .failed error fun other => congrArg (Store.content? · other) store
  · rw [answers working]
    exact .worked fun other => (congrArg (Store.content? · other) store).trans
      (changes working other)

theorem outcome_acknowledge (service : Service) (stream group : String) (ids : List StreamId) :
    Outcome service (acknowledge stream group ids) (service.acknowledge stream group ids) := by
  refine outcome_of_guarded (fun _ => rfl) (fun working => ?_) fun working other =>
    StoreCall.content?_acknowledge working stream group other ids
  rw [reply, Request.stream]
  show _ = Except.ok (((service.store.group? stream group).map fun found =>
    (found.pending.eraseAll ids).1).getD 0)
  cases member : service.store.group? stream group with
  | none => rw [Store.acknowledge_of_noGroup working member, Option.map_none, Option.getD_none]
  | some held => rw [Store.acknowledge_of_group working member, Option.map_some, Option.getD_some]

theorem outcome_delete (service : Service) (stream : String) (ids : List StreamId) :
    Outcome service (delete stream ids) (service.delete stream ids) := by
  refine outcome_of_guarded (fun _ => rfl) (fun working => ?_) fun working other =>
    StoreCall.content?_delete working stream other ids
  rw [Store.delete, Store.guarded_of_working working, reply, Request.stream]
  cases service.store.content? stream <;> rfl

/-- Every request comes out in one of these ways. -/
theorem outcome_make (service : Service) (request : Request) :
    Outcome service request (request.make service) := by
  cases request with
  | append now stream fields => exact outcome_append service now stream fields
  | range stream start stop count => exact outcome_range service stream start stop count
  | pending stream group count => exact outcome_pending service stream group count
  | acknowledge stream group ids => exact outcome_acknowledge service stream group ids
  | delete stream ids => exact outcome_delete service stream ids

end Request

/-- A request that was made: whether it failed, and the store before it and after it. -/
structure Attempt where
  request : Request
  failed : Bool
  before : Store
  after : Store

/-- Makes a request and tells how it came out. -/
def Request.attempt (request : Request) (service : Service) : Attempt :=
  ⟨request, (request.make service).1.toOption.isNone, service.store,
    (request.make service).2.store⟩

/-! ### Errands -/

/-- Work on a stream service that ends with a value. The answer to a request is missing when the
request failed. -/
inductive Errand (Value : Type)
  | done (value : Value)
  | ask (request : Request) (next : Option request.Answered → Errand Value)

namespace Errand

variable {Value Other : Type}

/-- An errand followed by another one. -/
def bind (next : Value → Errand Other) : Errand Value → Errand Other
  | done value => next value
  | ask request rest => ask request fun answer => (rest answer).bind next

/-- An errand whose value is changed. -/
def map (change : Value → Other) (errand : Errand Value) : Errand Other :=
  errand.bind fun value => done (change value)

/-- Does an errand. -/
def run (service : Service) : Errand Value → Value × Service
  | done value => (value, service)
  | ask request next =>
    (next (request.make service).1.toOption).run (request.make service).2

/-- The requests an errand makes. -/
def trail (service : Service) : Errand Value → List Attempt
  | done _ => []
  | ask request next =>
    request.attempt service ::
      (next (request.make service).1.toOption).trail (request.make service).2

/-- Whether an errand makes only requests of some kind, whatever it is answered. -/
def Makes (allowed : Request → Prop) : Errand Value → Prop
  | done _ => True
  | ask request next => allowed request ∧ ∀ answer, (next answer).Makes allowed

/-- Whether an errand names only streams of some kind. -/
abbrev Names (allowed : String → Prop) (errand : Errand Value) : Prop :=
  errand.Makes fun request => allowed request.stream

theorem run_bind (service : Service) (errand : Errand Value) (next : Value → Errand Other) :
    (errand.bind next).run service =
      (next (errand.run service).1).run (errand.run service).2 := by
  induction errand generalizing service with
  | done value => rfl
  | ask request rest inductionHypothesis => exact inductionHypothesis _ _

theorem trail_bind (service : Service) (errand : Errand Value) (next : Value → Errand Other) :
    (errand.bind next).trail service =
      errand.trail service ++ (next (errand.run service).1).trail (errand.run service).2 := by
  induction errand generalizing service with
  | done value => rfl
  | ask request rest inductionHypothesis =>
    exact congrArg (List.cons _) (inductionHypothesis _ _)

theorem run_map (service : Service) (errand : Errand Value) (change : Value → Other) :
    (errand.map change).run service = (change (errand.run service).1, (errand.run service).2) :=
  run_bind service errand _

theorem trail_map (service : Service) (errand : Errand Value) (change : Value → Other) :
    (errand.map change).trail service = errand.trail service :=
  (trail_bind service errand _).trans (List.append_nil _)

theorem Makes.bind {allowed : Request → Prop} {errand : Errand Value}
    {next : Value → Errand Other} (makes : errand.Makes allowed)
    (also : ∀ value, (next value).Makes allowed) : (errand.bind next).Makes allowed := by
  induction errand with
  | done value => exact also value
  | ask request rest inductionHypothesis =>
    exact ⟨makes.1, fun answer => inductionHypothesis answer (makes.2 answer)⟩

theorem Makes.map {allowed : Request → Prop} {errand : Errand Value}
    (makes : errand.Makes allowed) (change : Value → Other) : (errand.map change).Makes allowed :=
  makes.bind fun _ => trivial

theorem Makes.mono {allowed more : Request → Prop} {errand : Errand Value}
    (makes : errand.Makes allowed) (subset : ∀ request, allowed request → more request) :
    errand.Makes more := by
  induction errand with
  | done value => trivial
  | ask request rest inductionHypothesis =>
    exact ⟨subset _ makes.1, fun answer => inductionHypothesis answer (makes.2 answer)⟩

theorem Makes.mem_trail {allowed : Request → Prop} {errand : Errand Value}
    (makes : errand.Makes allowed) {service : Service} {attempt : Attempt}
    (member : attempt ∈ errand.trail service) : allowed attempt.request := by
  induction errand generalizing service with
  | done value => exact absurd member List.not_mem_nil
  | ask request next inductionHypothesis =>
    rcases List.mem_cons.mp member with rfl | later
    · exact makes.1
    · exact inductionHypothesis _ (makes.2 _) later

/-! ### What an errand leaves alone -/

/-- A stream that an errand does not name stays as it is. -/
theorem Names.content?_run {allowed : String → Prop} {errand : Errand Value}
    (names : errand.Names allowed) {stream : String} (foreign : ¬ allowed stream)
    (service : Service) :
    (errand.run service).2.store.content? stream = service.store.content? stream := by
  induction errand generalizing service with
  | done value => rfl
  | ask request next inductionHypothesis =>
    rw [run]
    have outcome := request.outcome_make service
    generalize request.make service = made at outcome ⊢
    refine (inductionHypothesis _ (names.2 _) _).trans ?_
    cases outcome with
    | failed error kept => exact kept stream
    | worked changed =>
      refine (changed stream).trans (if_neg ?_)
      rintro rfl
      exact foreign names.1

/-! ### Two runs of an errand -/

/-- Two runs that find alike the streams an errand names, and in which the same requests fail, come
to the same value and leave these streams alike. What follows the two lists of failures shows that
the requests failing are the same in number. -/
theorem Names.run_alike {allowed : String → Prop} {errand : Errand Value}
    (names : errand.Names allowed) {first second : Service}
    (alike : ∀ name, allowed name → first.store.content? name = second.store.content? name)
    {others more : List Bool}
    (fates : (errand.trail first).map Attempt.failed ++ others =
      (errand.trail second).map Attempt.failed ++ more) :
    (errand.run first).1 = (errand.run second).1 ∧ others = more ∧
      ∀ name, allowed name → (errand.run first).2.store.content? name =
        (errand.run second).2.store.content? name := by
  induction errand generalizing first second with
  | done value => exact ⟨rfl, fates, alike⟩
  | ask request next inductionHypothesis =>
    have outcome := request.outcome_make first
    have other := request.outcome_make second
    rw [trail, trail, Request.attempt, Request.attempt] at fates
    rw [run, run]
    generalize request.make first = made at outcome fates ⊢
    generalize request.make second = makes at other fates ⊢
    -- Both runs fail here or neither does, and then the answers are the same as well.
    obtain ⟨sameFate, rest⟩ := List.cons.inj fates
    cases outcome with
    | failed error kept =>
      cases other with
      | worked => exact absurd sameFate (by simp [Except.toOption])
      | failed error still =>
        exact inductionHypothesis none (names.2 none)
          (fun name own => (kept name).trans ((alike name own).trans (still name).symm)) rest
    | worked changed =>
      cases other with
      | failed => exact absurd sameFate (by simp [Except.toOption])
      | worked changes =>
        rw [alike _ names.1] at rest ⊢
        refine inductionHypothesis _ (names.2 _) (fun name own => ?_) rest
        rw [changed, changes, alike _ names.1, alike name own]

end Errand

end AccessFeed.Streams
