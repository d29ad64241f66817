/-
This file proves that groups may be ensured by any number of callers at once.

Every step of ensuring a group is one call on the store, and whatever it learns
may be out of date at the next step. This does no harm, since streams and groups
never vanish: a caller that has seen the stream may go on with it, and a caller
that has not seen the group tries to create it, which fails if another one was
faster and is then taken for a success. So every caller returns after four steps
at most, the group was created once, and no caller changed a group that was there.
-/

import AccessFeed.Pipeline.Groups
import AccessFeed.Proofs.Foundings
import AccessFeed.Proofs.Services
import AccessFeed.Proofs.Tables

namespace AccessFeed

open Streams (Content Delivery Exhausted Group ReadOffset Service Store StoreCall StoreError
  StoreMethod StoreTurn StreamId assigned creations delivered founded?)

/-! ### Steps of ensuring a group -/

/-- A request where no call fails. -/
theorem Pipeline.ask_of_working {Value : Type} {pipeline : Pipeline}
    (working : pipeline.service.Working) (method : StoreMethod) (target : Option String)
    (operation : Store → Streams.Answer Value) :
    (pipeline.ask fun service => service.call method target operation) =
      ((operation pipeline.service.store).1,
        { pipeline with service := ⟨(operation pipeline.service.store).2, []⟩ }) := by
  rw [ask, Service.call_of_working working]

namespace EnsurePhase

variable {pipeline : Pipeline} {stream group : String}

/-- The call on the store that the next step makes. -/
def call? (stream group : String) (now : UInt64) : EnsurePhase → Option StoreCall
  | .checking => some (.hasStream stream)
  | .seeding => some (.append now stream placeholder)
  | .listing => some (.groupNames stream)
  | .creating => some (.createGroup stream group)
  | .finished _ => none

/-- Whether a phase comes after another where no call fails. -/
inductive Next (store : Store) (stream group : String) : EnsurePhase → EnsurePhase → Prop
  | found (present : (store.content? stream).isSome) : Next store stream group .checking .listing
  | missing (absent : store.content? stream = none) : Next store stream group .checking .seeding
  | seeded : Next store stream group .seeding .listing
  | listed (member : (store.group? stream group).isSome) :
    Next store stream group .listing (.finished (.ok ()))
  | unlisted (absent : store.group? stream group = none) :
    Next store stream group .listing .creating
  | created : Next store stream group .creating (.finished (.ok ()))
  | idle (result : Except StoreError Unit) :
    Next store stream group (.finished result) (.finished result)

/-- A step makes its call and leaves no outage. -/
theorem service_step (working : pipeline.service.Working) (stream group : String)
    (phase : EnsurePhase) :
    (phase.step stream group pipeline).2.service =
      ⟨pipeline.service.store.after (phase.call? stream group pipeline.wallMillis).toList, []⟩ := by
  cases phase with
  | checking =>
    rw [step, show pipeline.ask (fun service => service.hasStream stream) = _ from
      Pipeline.ask_of_working working _ _ _]
    split <;>
      rename_i answered <;>
      exact (congrArg (fun answer => answer.2.service) answered).symm
  | seeding =>
    rw [step, show pipeline.ask (fun service =>
        service.append pipeline.wallMillis stream placeholder) = _ from
      Pipeline.ask_of_working working _ _ _]
    split <;>
      rename_i answered <;>
      exact (congrArg (fun answer => answer.2.service) answered).symm
  | listing =>
    rw [step, show pipeline.ask (fun service => service.groupNames stream) = _ from
      Pipeline.ask_of_working working _ _ _]
    split <;>
      rename_i answered <;>
      exact (congrArg (fun answer => answer.2.service) answered).symm
  | creating =>
    rw [step, show pipeline.ask (fun service => service.createGroup stream group) = _ from
      Pipeline.ask_of_working working _ _ _]
    split <;>
      rename_i answered <;>
      exact (congrArg (fun answer => answer.2.service) answered).symm
  | finished result => exact (Service.of_store_eq working rfl).symm

/-- The names of the groups of a stream are those of the groups that are there. -/
theorem contains_groupNames {store : Store} (working : store.failure = none) {content : Content}
    (present : store.content? stream = some content) (group : String) :
    ∃ names, store.groupNames stream = (.ok names, store) ∧
      names.contains group = (store.group? stream group).isSome := by
  refine ⟨content.groups.keys.mergeSort fun first second => decide (first ≤ second), ?_, ?_⟩
  · rw [Store.groupNames, Store.guarded_of_working working, present]
  · rw [Bool.eq_iff_iff, List.contains_iff_mem, List.mem_mergeSort, Store.group?_eq present]
    exact Table.mem_keys_iff

theorem Next.remaining_le {store : Store} {phase left : EnsurePhase}
    (next : phase.Next store stream group left) : left.remaining ≤ phase.remaining - 1 := by
  cases next <;> simp [remaining]

/-- Where no call fails a step goes on as told, provided that the stream is there when it is to be
used. -/
theorem next_step (working : pipeline.service.Working) {phase : EnsurePhase}
    (placed : phase.remaining = 2 ∨ phase.remaining = 1 →
      (pipeline.service.store.content? stream).isSome) :
    Next pipeline.service.store stream group phase (phase.step stream group pipeline).1 := by
  cases phase with
  | checking =>
    rw [step, show pipeline.ask (fun service => service.hasStream stream) = _ from
      Pipeline.ask_of_working working _ _ _, Store.hasStream, Store.guarded_of_working working.2]
    cases held : pipeline.service.store.streams.contains stream with
    | true => exact .found held
    | false =>
      refine .missing ?_
      rw [Table.contains, Option.isSome_eq_false_iff, Option.isNone_iff_eq_none] at held
      exact held
  | seeding =>
    rw [step, show pipeline.ask (fun service =>
        service.append pipeline.wallMillis stream placeholder) = _ from
      Pipeline.ask_of_working working _ _ _, Store.append, Store.guarded_of_working working.2]
    exact .seeded
  | listing =>
    obtain ⟨content, present⟩ := Option.isSome_iff_exists.mp (placed (Or.inl rfl))
    obtain ⟨names, answer, listed⟩ := contains_groupNames working.2 present group
    rw [step, show pipeline.ask (fun service => service.groupNames stream) = _ from
      Pipeline.ask_of_working working _ _ _, answer]
    dsimp only
    rw [listed]
    cases member : pipeline.service.store.group? stream group with
    | some held => exact .listed (by rw [member]; rfl)
    | none => exact .unlisted member
  | creating =>
    obtain ⟨content, present⟩ := Option.isSome_iff_exists.mp (placed (Or.inr rfl))
    rw [step, show pipeline.ask (fun service => service.createGroup stream group) = _ from
      Pipeline.ask_of_working working _ _ _, Store.createGroup,
      Store.guarded_of_working working.2, present]
    dsimp only
    by_cases taken : content.groups.contains group = true
    · rw [if_pos taken]
      exact .created
    · rw [if_neg taken]
      exact .created
  | finished result => exact .idle result

end EnsurePhase

/-! ### Callers side by side -/

/-- A caller that ensures a group, with the number of steps it has taken. -/
structure Founder where
  stream : String
  group : String
  phase : EnsurePhase
  steps : Nat

/-- Callers that share a pipeline, and all calls made on the store so far. -/
structure Founding where
  pipeline : Pipeline
  founders : List Founder
  calls : List StoreCall

namespace Founding

/-- The streams that the callers share. -/
def store (founding : Founding) : Store :=
  founding.pipeline.service.store

/-- What was answered to the calls made so far. -/
def turns (founding : Founding) : List StoreTurn :=
  Store.empty.turns founding.calls

/-- The next step of one of the callers. -/
def advance (founding : Founding) (number : Nat) (founder : Founder) : Founding where
  pipeline := (founder.phase.step founder.stream founder.group founding.pipeline).2
  founders := founding.founders.set number
    { founder with
      phase := (founder.phase.step founder.stream founder.group founding.pipeline).1
      steps := founder.steps + 1 }
  calls := founding.calls ++
    (founder.phase.call? founder.stream founder.group founding.pipeline.wallMillis).toList

/-- The next call of somebody else on the store. -/
def disturb (founding : Founding) (call : StoreCall) : Founding where
  pipeline :=
    { founding.pipeline with service := ⟨(call.perform founding.store).2, []⟩ }
  founders := founding.founders
  calls := founding.calls ++ [call]

/-- The foundings that come about on a store on which no call fails. Callers enter at any time for
any streams and groups. Others call the store as they like, but they inject no failure. -/
inductive Reached : Founding → Prop
  | start (calls : List StoreCall) (working : (Store.empty.after calls).failure = none)
      (pipeline : Pipeline) (same : pipeline.service = ⟨Store.empty.after calls, []⟩) :
      Reached ⟨pipeline, [], calls⟩
  | enter {founding : Founding} (reached : Reached founding) (stream group : String) :
      Reached { founding with
        founders := founding.founders ++ [⟨stream, group, .checking, 0⟩] }
  | advance {founding : Founding} (reached : Reached founding) {number : Nat} {founder : Founder}
      (present : founding.founders[number]? = some founder) :
      Reached (founding.advance number founder)
  | disturb {founding : Founding} (reached : Reached founding) (call : StoreCall)
      (harmless : ∀ error, call ≠ .inject error) : Reached (founding.disturb call)
  | change {founding : Founding} (reached : Reached founding) (pipeline : Pipeline)
      (same : pipeline.service = founding.pipeline.service) :
      Reached { founding with pipeline }

end Founding

/-- Whether a caller is where it should be: it has at most as many steps left as it has not taken
yet, its stream is there when it is to be used, and it has returned without an error and with its
group there if it has returned. -/
structure Founder.Stands (store : Store) (founder : Founder) : Prop where
  remaining : founder.phase.remaining ≤ 4 - founder.steps
  placed : founder.phase.remaining = 2 ∨ founder.phase.remaining = 1 →
    (store.content? founder.stream).isSome
  returned : ∀ result, founder.phase = .finished result →
    result = .ok () ∧ (store.group? founder.stream founder.group).isSome

namespace Founder.Stands

variable {store : Store} {founder : Founder}

theorem beginner (store : Store) (stream group : String) :
    Stands store ⟨stream, group, .checking, 0⟩ where
  remaining := Nat.le_refl 4
  placed := fun impossible => absurd impossible (by simp [EnsurePhase.remaining])
  returned := fun _ impossible => by cases impossible

/-- What a caller relies on is not taken away by calls. -/
theorem after (stands : founder.Stands store) (calls : List StoreCall) :
    founder.Stands (store.after calls) := by
  induction calls generalizing store with
  | nil => exact stands
  | cons call rest inductionHypothesis =>
    have once : founder.Stands (call.perform store).2 :=
      ⟨stands.remaining, fun used => call.isSome_content?_perform (stands.placed used),
        fun result ended => (stands.returned result ended).imp_right call.isSome_group?_perform⟩
    exact inductionHypothesis once

/-- A step brings a caller nearer to its end, and to its stream and group. -/
theorem step {pipeline : Pipeline} (stands : founder.Stands pipeline.service.store)
    (working : pipeline.service.Working) :
    Stands (founder.phase.step founder.stream founder.group pipeline).2.service.store
      { founder with
        phase := (founder.phase.step founder.stream founder.group pipeline).1
        steps := founder.steps + 1 } := by
  obtain ⟨stream, group, phase, steps⟩ := founder
  have next : phase.Next pipeline.service.store stream group (phase.step stream group pipeline).1 :=
    EnsurePhase.next_step working stands.placed
  have still := stands.after (phase.call? stream group pipeline.wallMillis).toList
  show Stands _ ⟨stream, group, (phase.step stream group pipeline).1, steps + 1⟩
  rw [EnsurePhase.service_step working stream group phase]
  generalize (phase.step stream group pipeline).1 = left at next ⊢
  have fewer := next.remaining_le
  have most : phase.remaining ≤ 4 - steps := stands.remaining
  refine ⟨show left.remaining ≤ 4 - (steps + 1) by omega, fun used => ?_, fun result ended => ?_⟩
  · cases next with
    | found present => exact (StoreCall.hasStream stream).isSome_content?_perform present
    | seeded =>
      show ((pipeline.service.store.append _ stream _).2.content? stream).isSome
      rw [StoreCall.content?_append working.2, if_pos rfl]
      rfl
    | unlisted absent => exact still.placed (Or.inl rfl)
    | missing | listed | created | idle => simp [EnsurePhase.remaining] at used
  · cases next with
    | listed member =>
      cases ended
      exact ⟨rfl, (StoreCall.groupNames stream).isSome_group?_perform member⟩
    | created =>
      cases ended
      exact ⟨rfl, Store.isSome_group?_createGroup working.2 (stands.placed (Or.inr rfl)) group⟩
    | idle => exact still.returned result ended
    | found | missing | seeded | unlisted => cases ended

end Founder.Stands

/-! ### Reached foundings -/

/-- What holds of callers side by side: the store is what the calls made of it, no call fails, and
every caller is where it should be. -/
structure Founding.Sound (founding : Founding) : Prop where
  service : founding.pipeline.service = ⟨Store.empty.after founding.calls, []⟩
  working : (Store.empty.after founding.calls).failure = none
  founders : ∀ founder ∈ founding.founders, founder.Stands (Store.empty.after founding.calls)

namespace Founding

variable {founding : Founding}

theorem Sound.store (sound : founding.Sound) : founding.store = Store.empty.after founding.calls :=
  congrArg Service.store sound.service

theorem Sound.serviceWorking (sound : founding.Sound) : founding.pipeline.service.Working := by
  rw [sound.service]
  exact ⟨rfl, sound.working⟩

/-- A caller injects no failure. -/
theorem harmless_call {phase : EnsurePhase} {stream group : String} {now : UInt64}
    {call : StoreCall} (member : call ∈ (phase.call? stream group now).toList) :
    (∀ error, call ≠ .inject error) ∧ call ≠ .clear := by
  cases phase with
  | checking | seeding | listing | creating =>
    obtain rfl := Option.some.inj (Option.mem_toList.mp member)
    exact ⟨fun _ => by simp, by simp⟩
  | finished result => cases member

/-- The next step of a caller. -/
theorem Sound.advance (sound : founding.Sound) {number : Nat} {founder : Founder}
    (present : founding.founders[number]? = some founder) :
    (founding.advance number founder).Sound := by
  have member : founder ∈ founding.founders := List.mem_of_getElem? present
  have working := sound.serviceWorking
  have store : founding.pipeline.service.store = Store.empty.after founding.calls := sound.store
  have made := EnsurePhase.service_step working founder.stream founder.group founder.phase
  have stands := sound.founders
  rw [← store] at stands
  have calls : Store.empty.after (founding.advance number founder).calls =
      founding.pipeline.service.store.after (founder.phase.call? founder.stream founder.group
        founding.pipeline.wallMillis).toList := by
    rw [store]
    exact Store.after_append ..
  refine ⟨made.trans (by rw [calls]), ?_, fun other among => ?_⟩
  · rw [calls]
    cases called : founder.phase.call? founder.stream founder.group
        founding.pipeline.wallMillis with
    | none => exact working.2
    | some call =>
      have harmless := harmless_call (Option.mem_toList.mpr called)
      exact (call.failure_perform _ harmless.1 harmless.2).trans working.2
  · rw [calls]
    rcases List.mem_or_eq_of_mem_set among with earlier | rfl
    · exact (stands other earlier).after _
    · have stepped := (stands founder member).step working
      rw [made] at stepped
      exact stepped

/-- A call of somebody else. -/
theorem Sound.disturb (sound : founding.Sound) {call : StoreCall}
    (harmless : ∀ error, call ≠ .inject error) : (founding.disturb call).Sound := by
  have store : Store.empty.after (founding.calls ++ [call]) =
      (call.perform (Store.empty.after founding.calls)).2 := Store.after_concat ..
  refine ⟨?_, ?_, fun founder member => ?_⟩
  · show (⟨(call.perform founding.store).2, []⟩ : Service) = ⟨_, []⟩
    rw [sound.store]
    exact congrArg (fun store => (⟨store, []⟩ : Service)) store.symm
  · show (Store.empty.after (founding.calls ++ [call])).failure = none
    rw [store]
    by_cases clears : call = .clear
    · rw [clears]
      rfl
    · exact (call.failure_perform _ harmless clears).trans sound.working
  · show founder.Stands (Store.empty.after (founding.calls ++ [call]))
    rw [store]
    exact (sound.founders founder member).after [call]

theorem Reached.sound (reached : founding.Reached) : founding.Sound := by
  induction reached with
  | start calls working pipeline same =>
    exact ⟨same, working, fun founder never => absurd never List.not_mem_nil⟩
  | enter reached stream group sound =>
    refine ⟨sound.service, sound.working, fun founder member => ?_⟩
    rcases List.mem_append.mp member with earlier | final
    · exact sound.founders founder earlier
    · rw [List.mem_singleton.mp final]
      exact Founder.Stands.beginner _ stream group
  | advance reached present sound => exact sound.advance present
  | disturb reached call harmless sound => exact sound.disturb harmless
  | change reached pipeline same sound =>
    exact ⟨same.trans sound.service, sound.working, sound.founders⟩

/-- A step of a caller leaves every group that is there as it is. -/
theorem Sound.group?_advance (sound : founding.Sound) (number : Nat) (founder : Founder)
    {stream group : String} {held : Group}
    (member : founding.store.group? stream group = some held) :
    (founding.advance number founder).store.group? stream group = some held := by
  have made := EnsurePhase.service_step sound.serviceWorking founder.stream founder.group
    founder.phase
  show Store.group? (Service.store _) stream group = _
  rw [show (founding.advance number founder).pipeline.service = _ from made]
  obtain ⟨ownStream, ownGroup, phase, steps⟩ := founder
  cases phase with
  | finished result => exact member
  | checking => exact (StoreCall.group?_perform (.hasStream _) _ id).trans member
  | seeding => exact (StoreCall.group?_perform (.append _ _ _) _ id).trans member
  | listing => exact (StoreCall.group?_perform (.groupNames _) _ id).trans member
  | creating =>
    by_cases own : ownStream = stream ∧ ownGroup = group
    · obtain ⟨rfl, rfl⟩ := own
      have same := Store.createGroup_of_group sound.serviceWorking.2 member
      exact (congrArg (fun answer => Store.group? answer.2 ownStream ownGroup) same).trans member
    · exact (StoreCall.group?_perform (.createGroup _ _) _ own).trans member

/-- Where no call fails, any number of callers may ensure groups side by side, with each other and
with others that append, read, acknowledge and do anything else. A caller that has taken four steps
has returned, and whoever has returned did so without an error and with its group there. A group
that is there was created once, and no step of a caller changes it. It delivers from an id on behind
which everything comes that is appended after a caller for it has returned, unless the greatest id
was given out before and that id is of the last millisecond. As long as the greatest id was given
out nowhere, an entry behind that id was delivered, or a read that asks for enough delivers it
next. -/
theorem Reached.founds_once (reached : founding.Reached) :
    (∀ founder ∈ founding.founders,
        (4 ≤ founder.steps → ∃ result, founder.phase = .finished result) ∧
          ∀ result, founder.phase = .finished result →
            result = .ok () ∧ (founding.store.group? founder.stream founder.group).isSome) ∧
      (∀ stream group, creations stream group founding.turns =
        if (founding.store.group? stream group).isSome then 1 else 0) ∧
      (∀ number founder, founding.founders[number]? = some founder →
        ∀ stream group held, founding.store.group? stream group = some held →
          (founding.advance number founder).store.group? stream group = some held) ∧
      ∀ founder ∈ founding.founders, ∀ result, founder.phase = .finished result →
        ∃ start, founded? founder.stream founder.group founding.turns = some start ∧
          (∀ call : StoreCall, ∀ id ∈ (founding.store.turn call).assigned founder.stream,
            start < id ∨ Exhausted founder.stream founding.calls ∧
              start.millis = StreamId.greatestPart) ∧
          ((∀ turn ∈ founding.turns, turn.answer ≠ .ok (.id .greatest)) →
            ∀ id fields, founding.store.fieldsAt? founder.stream id = some fields → start < id →
              id ∈ delivered founder.stream founder.group founding.turns ∨
                ∀ consumer count, founding.store.size founder.stream ≤ count →
                  id ∈ (founding.store.turn (.readGroup founder.stream founder.group consumer
                    .lastConsumed count)).delivered founder.stream founder.group) := by
  have sound := reached.sound
  have store := sound.store
  refine ⟨fun founder member => ⟨fun enough => ?_, fun result ended => ?_⟩, fun stream group => ?_,
    fun number founder _ stream group held => sound.group?_advance number founder,
    fun founder member result ended => ?_⟩
  · have few := (sound.founders founder member).remaining
    cases phase : founder.phase with
    | finished result => exact ⟨result, rfl⟩
    | checking | seeding | listing | creating =>
      rw [phase, EnsurePhase.remaining] at few
      omega
  · rw [store]
    exact (sound.founders founder member).returned result ended
  · rw [store]
    exact Streams.creations_eq founding.calls stream group
  · obtain ⟨_, there⟩ := (sound.founders founder member).returned result ended
    obtain ⟨start, founded⟩ := Streams.founded_of_group there
    refine ⟨start, founded, fun call id given => ?_, fun below id fields present ahead => ?_⟩
    · rw [store] at given
      exact Streams.assigned_above_founded founded given
    · rw [store] at present ⊢
      exact Streams.delivered_or_next below sound.working founded present ahead

/-- A founding after steps of some of its callers, one after the other. -/
def interleave (founding : Founding) : List Nat → Founding
  | [] => founding
  | number :: rest =>
    match founding.founders[number]? with
    | some founder => (founding.advance number founder).interleave rest
    | none => founding.interleave rest

theorem Reached.interleave (reached : founding.Reached) (numbers : List Nat) :
    (founding.interleave numbers).Reached := by
  induction numbers generalizing founding with
  | nil => exact reached
  | cons number rest inductionHypothesis =>
    rw [Founding.interleave]
    cases present : founding.founders[number]? with
    | some founder => exact inductionHypothesis (reached.advance present)
    | none => exact inductionHypothesis reached

end Founding

/-- Callers that ensure the same group on a store with a history. -/
def founding (calls : List StoreCall) (founders : Nat) : Founding where
  pipeline :=
    { service := ⟨Store.empty.after calls, []⟩
      archive := .empty .memory
      wall := ⟨7, 0⟩ }
  founders := List.replicate founders ⟨"orders", "audit", .checking, 0⟩
  calls := calls

theorem reached_founding (calls : List StoreCall)
    (working : (Store.empty.after calls).failure = none) (founders : Nat) :
    (founding calls founders).Reached := by
  induction founders with
  | zero => exact .start calls working _ rfl
  | succ fewer inductionHypothesis =>
    have entered := inductionHypothesis.enter "orders" "audit"
    rw [show (founding calls fewer).founders ++ [⟨"orders", "audit", .checking, 0⟩] =
      (founding calls (fewer + 1)).founders from List.replicate_succ'.symm] at entered
    exact entered

/-- Two callers side by side, both of which miss the stream and then the group. -/
def racing : Founding := (founding [] 2).interleave [0, 1, 0, 1, 0, 1, 0, 1]

/-- The group was created once, behind the placeholders of both, and delivers what comes behind
these. -/
theorem racing_founds_once :
    racing.Reached ∧ (∀ founder ∈ racing.founders, founder.phase = .finished (.ok ())) ∧
      creations "orders" "audit" racing.turns = 1 ∧
      founded? "orders" "audit" racing.turns = some ⟨7000, 1⟩ ∧
      (racing.store.turn (.append 3 "orders" [])).assigned "orders" = [⟨7000, 2⟩] ∧
      (⟨7000, 1⟩ : StreamId) < ⟨7000, 2⟩ := by
  have reached : racing.Reached := (reached_founding [] rfl 2).interleave _
  have founders : racing.founders =
      List.replicate 2 ⟨"orders", "audit", .finished (.ok ()), 4⟩ := by
    -- the listed groups are sorted, by a recursion that is irreducible
    with_unfolding_all rfl
  have given : (racing.store.turn (.append 3 "orders" [])).assigned "orders" = [⟨7000, 2⟩] := by
    decide +kernel
  have founded : founded? "orders" "audit" racing.turns = some ⟨7000, 1⟩ := by
    decide +kernel
  obtain ⟨returned, created, _, from_⟩ := reached.founds_once
  have first : ⟨"orders", "audit", .finished (.ok ()), 4⟩ ∈ racing.founders := founders ▸ by simp
  obtain ⟨start, same, behind, _⟩ := from_ _ first (.ok ()) rfl
  obtain rfl := Option.some.inj (founded.symm.trans same)
  refine ⟨reached, fun founder member => ?_, (created "orders" "audit").trans ?_, founded, given,
    ?_⟩
  · rw [founders] at member
    rw [List.eq_of_mem_replicate member]
  · rw [if_pos ((returned _ first).2 (.ok ()) rfl).2]
  · have after := behind (.append 3 "orders" []) ⟨7000, 2⟩ (given ▸ List.mem_singleton_self _)
    exact after.resolve_right fun late => absurd late.2 (by decide)

/-- A caller that ensures a group of a stream whose last id is the greatest one. -/
def late : Founding :=
  (founding [.appendWithId "orders" .greatest [("type", "first")]] 1).interleave [0, 0, 0]

/-- What is appended after the caller has returned is not behind the id that the group was created
with. -/
theorem late_event_falls_back :
    late.Reached ∧ (∀ founder ∈ late.founders, founder.phase = .finished (.ok ())) ∧
      founded? "orders" "audit" late.turns = some .greatest ∧
      (late.store.turn (.append 7 "orders" [])).assigned "orders" = [⟨StreamId.greatestPart, 0⟩] ∧
      ¬ ∀ founding : Founding, founding.Reached →
        ∀ founder ∈ founding.founders, ∀ result, founder.phase = .finished result →
          ∀ start, founded? founder.stream founder.group founding.turns = some start →
            ∀ call : StoreCall, ∀ id ∈ (founding.store.turn call).assigned founder.stream,
              start < id := by
  have reached : late.Reached := (reached_founding _ rfl 1).interleave _
  have founders : late.founders = [⟨"orders", "audit", .finished (.ok ()), 3⟩] := by
    with_unfolding_all rfl
  have given : (late.store.turn (.append 7 "orders" [])).assigned "orders" =
      [⟨StreamId.greatestPart, 0⟩] := by decide +kernel
  have founded : founded? "orders" "audit" late.turns = some .greatest := by
    decide +kernel
  refine ⟨reached, fun founder member => ?_, founded, given, fun behind => ?_⟩
  · rw [founders] at member
    rw [List.mem_singleton.mp member]
  · have less := behind late reached ⟨"orders", "audit", .finished (.ok ()), 3⟩
      (founders ▸ List.mem_singleton_self _) (.ok ()) rfl .greatest founded (.append 7 "orders" [])
      ⟨StreamId.greatestPart, 0⟩ (given ▸ List.mem_singleton_self _)
    exact absurd less (by decide)

end AccessFeed
