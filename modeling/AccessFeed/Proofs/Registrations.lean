/-
This file proves that every listener is registered once, in the order of the
settings.

A call that registers all listeners goes through the consumer sets in their
order. Of several calls the furthest one decides what is registered: the
listeners of the sets it has come to, each at the place where it is first
listed. A call behind it finds nothing new. As long as a single call registers
listeners, what it counts is what is added, so that the first of several calls
one after the other counts them all, and the later ones none.
-/

import AccessFeed.Proofs.Rosters

namespace AccessFeed

open Settings (ConsumerSet)

namespace System

/-! ### The furthest call -/

/-- Whether a call has come no further through the consumer sets than to the one at a place. -/
def Follows (system : System) (sets : List ConsumerSet) (count number : Nat) : Prop :=
  ∃ call place, system.calls[number]? = some call ∧ call.unregistered = sets.drop place ∧
    place ≤ count

/-- Whether the listeners of the first consumer sets are registered, once each in the order in which
they are listed, and no call has come further. -/
structure Enrolled (sets : List ConsumerSet) (count : Nat) (system : System) : Prop where
  registered : system.container.registered = Container.listed (sets.take count)
  calls : ∀ call ∈ system.calls, call.unregistered = [] ∨
    ∃ place ≤ count, call.unregistered = sets.drop place

variable {system : System} {sets : List ConsumerSet} {count : Nat}

/-- A call follows the furthest one still when one of the calls has gone on. -/
theorem Follows.of_set {after : System} {number changed more : Nat} {call next : ControlCall}
    (follows : system.Follows sets count number) (present : system.calls[changed]? = some call)
    (calls : after.calls = system.calls.set changed next) (onward : count ≤ more)
    (own : ∀ place ≤ count, call.unregistered = sets.drop place →
      ∃ further ≤ more, next.unregistered = sets.drop further) :
    after.Follows sets more number := by
  obtain ⟨found, place, there, unregistered, atMost⟩ := follows
  rw [Follows, calls]
  by_cases same : changed = number
  · subst same
    obtain rfl := Option.some.inj (present.symm.trans there)
    obtain ⟨further, within, left⟩ := own place atMost unregistered
    have bound := (List.getElem?_eq_some_iff.mp present).1
    exact ⟨next, further, List.getElem?_set_self bound, left, within⟩
  · exact ⟨found, place, (List.getElem?_set_ne same).trans there, unregistered,
      Nat.le_trans atMost onward⟩

/-- Whatever is done, the furthest call is as far as before or further, and no other one has come
further. -/
theorem Enrolled.perform (enrolled : system.Enrolled sets count) {act : Act}
    (offered : ∀ call, act = .call call → call.unregistered = [] ∨ call.unregistered = sets) :
    ∃ more, count ≤ more ∧ (system.perform act).Enrolled sets more ∧
      ∀ number, system.Follows sets count number →
        (system.perform act).Follows sets more number := by
  generalize done : system.perform act = after
  have turn : system.Enrols after act := done ▸ system.enrols_perform act
  cases turn with
  | aside made calls own same =>
    refine ⟨count, Nat.le_refl count, ⟨same.trans enrolled.registered, ?_⟩, ?_⟩
    · rw [calls]
      intro call member
      rcases List.mem_append.mp member with old | new
      · exact enrolled.calls call old
      · rcases own call new with rfl | idle
        · exact (offered call rfl).imp_right fun all => ⟨0, Nat.zero_le _, all⟩
        · exact Or.inl idle
    · rintro number ⟨call, place, present, unregistered⟩
      exact ⟨call, place, system.getElem?_calls_of_made present ⟨made, calls⟩, unregistered⟩
  | @turned number call next present calls left same =>
    refine ⟨count, Nat.le_refl count, ⟨same.trans enrolled.registered, ?_⟩, ?_⟩
    · rw [calls]
      intro other member
      rcases List.mem_or_eq_of_mem_set member with old | rfl
      · exact enrolled.calls other old
      · rw [left]
        exact enrolled.calls call (List.mem_of_getElem? present)
    · intro other follows
      exact follows.of_set present calls (Nat.le_refl count) fun place atMost unregistered =>
        ⟨place, atMost, left.trans unregistered⟩
  | @enrolled number set result rest present calls container =>
    -- The call comes from its place to the next one, and beyond all others if it was the furthest.
    obtain ⟨place, atMost, left⟩ := (enrolled.calls _ (List.mem_of_getElem? present)).resolve_left
      (List.cons_ne_nil set _)
    have left : set :: ControlCall.unregistered rest = sets.drop place := left
    have within : place < sets.length := by
      refine Nat.lt_of_not_le fun beyond => ?_
      rw [List.drop_of_length_le beyond] at left
      cases left
    rw [List.drop_eq_getElem_cons within] at left
    obtain ⟨here, behind⟩ := List.cons.inj left
    refine ⟨max count (place + 1), Nat.le_max_left _ _, ⟨?_, ?_⟩, ?_⟩
    · rw [container, here]
      exact Container.registered_registerSet_take enrolled.registered atMost within
    · rw [calls]
      intro other member
      rcases List.mem_or_eq_of_mem_set member with old | rfl
      · refine (enrolled.calls other old).imp_right fun ⟨reached, before, unregistered⟩ => ?_
        exact ⟨reached, Nat.le_trans before (Nat.le_max_left _ _), unregistered⟩
      · exact Or.inr ⟨place + 1, Nat.le_max_right _ _, behind⟩
    · intro other follows
      exact follows.of_set present calls (Nat.le_max_left _ _) fun _ _ _ =>
        ⟨place + 1, Nat.le_max_right _ _, behind⟩

theorem Enrolled.through (enrolled : system.Enrolled sets count) {acts : List Act}
    (offered : ∀ call, .call call ∈ acts →
      call.unregistered = [] ∨ call.unregistered = sets) :
    ∃ more, count ≤ more ∧ (system.through acts).Enrolled sets more ∧
      ∀ number, system.Follows sets count number →
        (system.through acts).Follows sets more number := by
  induction acts generalizing system count with
  | nil => exact ⟨count, Nat.le_refl count, enrolled, fun _ => id⟩
  | cons act rest inductionHypothesis =>
    obtain ⟨next, onward, performed, follows⟩ :=
      enrolled.perform fun call same => offered call (same ▸ List.mem_cons_self)
    obtain ⟨more, further, ended, followed⟩ := inductionHypothesis performed fun call member =>
      offered call (List.mem_cons_of_mem _ member)
    exact ⟨more, Nat.le_trans onward further, ended, fun number follow =>
      followed number (follows number follow)⟩

/-- When a call that registers all listeners has come to its end, they are registered. -/
theorem Enrolled.complete (enrolled : system.Enrolled sets count) {number : Nat}
    (follows : system.Follows sets count number)
    (ended : ∀ call, system.calls[number]? = some call → call.unregistered = []) :
    system.container.registered = Container.listed sets := by
  obtain ⟨call, place, present, unregistered, atMost⟩ := follows
  have beyond : sets.length ≤ place :=
    List.drop_eq_nil_iff.mp (unregistered.symm.trans (ended call present))
  rw [enrolled.registered, List.take_of_length_le (Nat.le_trans beyond atMost)]

/-! ### What a call counts -/

/-- How many new listeners a call registers in a run. -/
def counted (number : Nat) : System → List Act → Nat
  | _, [] => 0
  | system, act :: rest => system.counts number act + counted number (system.perform act) rest

/-- Whether no call but one is to register listeners. -/
def Sole (system : System) (number : Nat) : Prop :=
  ∀ other call, system.calls[other]? = some call → other ≠ number → call.unregistered = []

/-- What is registered grows by what the only call counts that registers listeners. -/
theorem Sole.perform {number : Nat} (sole : system.Sole number) {act : Act}
    (unmade : ∀ call, act = .call call → call.unregistered = []) :
    (system.perform act).Sole number ∧ (system.perform act).container.registered.length =
      system.container.registered.length + system.counts number act := by
  generalize done : system.perform act = after
  have turn : system.Enrols after act := done ▸ system.enrols_perform act
  have kept {changed : Nat} {call next : ControlCall}
      (present : system.calls[changed]? = some call)
      (calls : after.calls = system.calls.set changed next)
      (idle : changed ≠ number → next.unregistered = []) : after.Sole number := by
    intro other found there different
    rw [calls] at there
    by_cases own : changed = other
    · subst own
      rw [List.getElem?_set_self (List.getElem?_eq_some_iff.mp present).1] at there
      obtain rfl := Option.some.inj there
      exact idle different
    · exact sole other found ((List.getElem?_set_ne own).symm.trans there) different
  cases turn with
  | aside made calls own same none =>
    refine ⟨fun other call there different => ?_, ?_⟩
    · rw [calls] at there
      by_cases old : other < system.calls.length
      · rw [List.getElem?_append_left old] at there
        exact sole other call there different
      · rw [List.getElem?_append_right (Nat.le_of_not_lt old)] at there
        exact (own call (List.mem_of_getElem? there)).elim (unmade call) id
    · rw [same, none, Nat.add_zero]
  | @turned changed call next present calls left same none =>
    refine ⟨kept present calls fun different => left.trans (sole _ _ present different), ?_⟩
    rw [same, counts, present, Option.map_some, Option.getD_some, none, ite_self, Nat.add_zero]
  | @enrolled changed set result rest present calls container =>
    have own : changed = number := Decidable.byContradiction fun different =>
      absurd (sole _ _ present different) (List.cons_ne_nil set _)
    refine ⟨kept present calls fun different => absurd own different, ?_⟩
    rw [counts, if_pos own, present, container]
    exact Container.length_foldl_register _

theorem Sole.through {number : Nat} (sole : system.Sole number) {acts : List Act}
    (unmade : ∀ call, .call call ∈ acts → call.unregistered = []) :
    (system.through acts).container.registered.length =
      system.container.registered.length + system.counted number acts := by
  induction acts generalizing system with
  | nil => rfl
  | cons act rest inductionHypothesis =>
    obtain ⟨still, grown⟩ :=
      sole.perform fun call same => unmade call (same ▸ List.mem_cons_self)
    have later := inductionHypothesis still fun call member =>
      unmade call (List.mem_cons_of_mem _ member)
    rw [counted, ← Nat.add_assoc, ← grown]
    exact later

end System

/-! ### Calls that return -/

/-- Whether something done to a system is a step of a call. -/
def Act.isStepOf (number : Nat) : Act → Bool
  | .step (.call other) => other = number
  | _ => false

theorem ControlCall.OnlyRegisters.eq_nil {call : ControlCall} (only : call.OnlyRegisters)
    (none : call.registerSteps = 0) : call = [] := by
  cases call with
  | nil => rfl
  | cons action rest =>
    obtain ⟨set, phase, rfl⟩ := only action List.mem_cons_self
    have some : phase.remaining + 1 + registerSteps rest = 0 := none
    omega

/-- A step of a call that only registers listeners leaves fewer of its steps. -/
theorem Control.registerSteps_step (grace now : Nat) (scope : Scope) {call : ControlCall}
    (only : call.OnlyRegisters) :
    (step grace now call scope).1.OnlyRegisters ∧
      (step grace now call scope).1.registerSteps ≤ call.registerSteps - 1 := by
  cases call with
  | nil => exact ⟨only, Nat.le_refl 0⟩
  | cons action rest =>
    obtain ⟨set, phase, rfl⟩ := only action List.mem_cons_self
    have others : ControlCall.OnlyRegisters rest := fun action member =>
      only action (List.mem_cons_of_mem _ member)
    have steps : ControlCall.registerSteps (.register set phase :: rest) =
        phase.remaining + 1 + ControlCall.registerSteps rest := rfl
    have call : (step grace now (.register set phase :: rest) scope).1 =
        (act grace now scope (.register set phase)).1 ++ rest := rfl
    rw [call, steps]
    rcases act_register grace now scope set phase with
      ⟨_, _, replaced, _⟩ | ⟨_, later, fewer, replaced, _⟩
    · rw [replaced, List.nil_append]
      exact ⟨others, by omega⟩
    · rw [replaced, List.singleton_append]
      refine ⟨List.forall_mem_cons.mpr ⟨⟨set, later, rfl⟩, others⟩, ?_⟩
      have left : ControlCall.registerSteps (.register set later :: rest) =
          later.remaining + 1 + ControlCall.registerSteps rest := rfl
      rw [left]
      omega

namespace System

variable {system : System} {number : Nat} {call : ControlCall}

theorem registerSteps_perform (present : system.calls[number]? = some call)
    (only : call.OnlyRegisters) (act : Act) :
    ∃ next, (system.perform act).calls[number]? = some next ∧ next.OnlyRegisters ∧
      next.registerSteps ≤ call.registerSteps - if act.isStepOf number then 1 else 0 := by
  by_cases own : act.isStepOf number = true
  · rw [if_pos own]
    cases act with
    | start | stop | call | pass | others => cases own
    | step task =>
      cases task with
      | probe | loop | bridge => cases own
      | call other =>
        obtain rfl : other = number := of_decide_eq_true own
        have bound := (List.getElem?_eq_some_iff.mp present).1
        dsimp only [System.perform, step]
        rw [present]
        exact ⟨_, List.getElem?_set_self bound, Control.registerSteps_step _ _ _ only⟩
  · rw [if_neg own]
    refine ⟨call, ?_, only, Nat.le_refl _⟩
    have set_ne {other : Nat} {next : ControlCall} {after : System}
        (different : ¬ (Act.step (.call other)).isStepOf number = true)
        (calls : after.calls = system.calls.set other next) :
        after.calls[number]? = some call := by
      rw [calls, List.getElem?_set_ne fun same => different (decide_eq_true same), present]
    generalize done : system.perform act = after
    have turn : system.Enrols after act := done ▸ system.enrols_perform act
    cases turn with
    | aside made calls => exact system.getElem?_calls_of_made present ⟨made, calls⟩
    | turned _ calls => exact set_ne own calls
    | enrolled _ calls => exact set_ne own calls

/-- A call that only registers listeners returns within so many of its steps, whatever else is
done. -/
theorem hasReturned_through (present : system.calls[number]? = some call)
    (only : call.OnlyRegisters) {acts : List Act}
    (enough : call.registerSteps ≤ acts.countP (Act.isStepOf number)) :
    (system.through acts).hasReturned number = true := by
  induction acts generalizing system call with
  | nil =>
    obtain rfl := only.eq_nil (Nat.le_zero.mp enough)
    show (system.calls[number]?.map _).getD true = true
    rw [present]
    rfl
  | cons act rest inductionHypothesis =>
    obtain ⟨next, there, still, fewer⟩ := registerSteps_perform present only act
    rw [List.countP_cons] at enough
    exact inductionHypothesis there still (by omega)

/-! ### Registering again and again -/

/-- A call that registers all listeners is made after some things were done, while no other call is
to register any, and others do things in the meantime, but for registering. -/
structure Registering (start : System) (before during : List Act) : Prop where
  offered : ∀ call, .call call ∈ before ++ during → call.Offered start.settings.consumers
  idle : ∀ call ∈ (start.through before).calls, call.unregistered = []
  alone : ∀ call, .call call ∈ during → call.unregistered = []

theorem follows_makeCall (system : System) (call : ControlCall) (count : Nat) :
    (system.makeCall call).Follows call.unregistered count system.calls.length :=
  ⟨call, 0, List.getElem?_concat_length, rfl, Nat.zero_le count⟩

/-- When a call that registers all listeners has been made, and has come to its end, they are
registered. -/
theorem Enrolled.registered_of_made (enrolled : system.Enrolled sets count) {call : ControlCall}
    (all : call.unregistered = sets) {acts : List Act}
    (offered : ∀ call, .call call ∈ acts →
      call.unregistered = [] ∨ call.unregistered = sets)
    (ended : ∀ other, ((system.makeCall call).through acts).calls[system.calls.length]? =
      some other → other.unregistered = []) :
    ((system.makeCall call).through acts).container.registered = Container.listed sets := by
  have offers : ∀ other, Act.call call = .call other →
      other.unregistered = [] ∨ other.unregistered = sets := fun other same =>
    Act.call.inj same ▸ Or.inr all
  obtain ⟨next, _, made, _⟩ := enrolled.perform offers
  have made : (system.makeCall call).Enrolled sets next := made
  obtain ⟨last, _, complete, followed⟩ := made.through offered
  exact complete.complete (followed _ (all ▸ system.follows_makeCall call next)) ended

theorem unregistered_of_returned (returned : system.hasReturned number = true)
    (present : system.calls[number]? = some call) : call.unregistered = [] := by
  rw [hasReturned, present] at returned
  rw [List.isEmpty_iff.mp returned]
  rfl

variable {start : System} {before during : List Act}

/-- Once a call has registered all consumer sets, their listeners are registered. -/
theorem Enrolled.registered_of_called (enrolled : start.Enrolled sets 0)
    (offered : ∀ call, .call call ∈ before →
      call.unregistered = [] ∨ call.unregistered = sets)
    (called : .call call ∈ before) (all : call.unregistered = sets)
    (idle : ∀ call ∈ (start.through before).calls, call.unregistered = []) :
    (start.through before).container.registered = Container.listed sets := by
  obtain ⟨early, late, rfl⟩ := List.append_of_mem called
  have through : start.through (early ++ .call call :: late) =
      ((start.through early).makeCall call).through late := List.foldl_append
  obtain ⟨count, _, reached, _⟩ := enrolled.through fun other member =>
    offered other (List.mem_append_left _ member)
  rw [through] at idle ⊢
  exact reached.registered_of_made all
    (fun other member => offered other (List.mem_append_right _ (List.mem_cons_of_mem _ member)))
    fun other there => idle other (List.mem_of_getElem? there)

/-- What is registered grows by what the call counts that registers all listeners. -/
theorem Registering.length_registered (registering : start.Registering before during)
    (call : ControlCall) :
    (((start.through before).makeCall call).through during).container.registered.length =
      (start.through before).container.registered.length +
        ((start.through before).makeCall call).counted (start.through before).calls.length
          during := by
  refine Sole.through (fun other found there different => ?_) registering.alone
  have there : ((start.through before).calls ++ [call])[other]? = some found := there
  have bound := (List.getElem?_eq_some_iff.mp there).1
  rw [List.length_append, List.length_singleton] at bound
  rw [List.getElem?_append_left (by omega)] at there
  exact registering.idle found (List.mem_of_getElem? there)

/-- A launch spawns a loop for each registered listener, or nothing if loops are running. -/
theorem container_launch {rest : ControlCall}
    (present : system.calls[number]? = some (.launch :: rest)) :
    (system.step (.call number)).container =
      if system.container.running.isSome then system.container else system.container.spawnAll := by
  dsimp only [step]
  rw [present]
  show (Control.launch ⟨system.container, system.pipeline⟩).container = _
  rw [Control.launch]
  split <;> rfl

/-- In every run of a system that begins without registered listeners: each listener is registered
once, and what is registered are the listeners of the first consumer sets. Calls that register all
listeners one after the other return within five steps for each consumer set, whatever the store
answers. Then all listeners are registered, and the first of the calls answers how many they are,
the others nothing. A start spawns one loop for each registered listener, or none if loops are
running. Listeners are the same only if their consumer sets have all but the count in common. -/
theorem listeners_register_once (unregistered : start.container.registered = [])
    (uncalled : start.calls = []) :
    (∀ before during, start.Registering before during →
      let sets := start.settings.consumers
      let number := (start.through before).calls.length
      let begun := (start.through before).makeCall (.registerAll sets)
      let ended := begun.through during
      (5 * sets.length ≤ during.countP (Act.isStepOf number) → ended.hasReturned number = true) ∧
      (ended.hasReturned number = true →
        ended.container.registered = Container.listed sets ∧
        ((∀ call, .call call ∈ before → call.unregistered = []) →
          begun.counted number during = (Container.listed sets).length) ∧
        ((∃ call, .call call ∈ before ∧ call.unregistered = sets) →
          begun.counted number during = 0))) ∧
    (∀ acts, (∀ call, .call call ∈ acts → call.Offered start.settings.consumers) →
      let system := start.through acts
      system.container.registered.Nodup ∧
      (∃ count, system.container.registered =
        Container.listed (start.settings.consumers.take count)) ∧
      ∀ number rest, system.calls[number]? = some (.launch :: rest) →
        let after := (system.step (.call number)).container
        (system.container.running = none →
          after.loops = system.container.loops ++
            system.container.registered.map (fun spec => ({ spec := spec } : ListenerLoop)) ∧
          after.running = some ((List.range system.container.registered.length).map
            (system.container.loops.length + ·))) ∧
        (system.container.running ≠ none → after = system.container)) ∧
    ∀ first second spec, spec ∈ Container.listenersOf first → spec ∈ Container.listenersOf second →
      first.stream = second.stream ∧ first.group = second.group ∧
        first.consumerBase = second.consumerBase := by
  have enrolled (sets : List ConsumerSet) : start.Enrolled sets 0 := by
    refine ⟨unregistered, fun call member => ?_⟩
    rw [uncalled] at member
    exact absurd member List.not_mem_nil
  refine ⟨fun before during registering => ?_, fun acts offered => ?_,
    fun _ _ _ => Container.eq_of_mem_listenersOf⟩
  · intro sets number begun ended
    have whole : (ControlCall.registerAll sets).unregistered = sets :=
      ControlCall.unregistered_registerAll sets
    have early : ∀ call, .call call ∈ before →
        call.unregistered = [] ∨ call.unregistered = sets := fun call member =>
      (registering.offered call (List.mem_append_left _ member)).unregistered
    have late : ∀ call, .call call ∈ during →
        call.unregistered = [] ∨ call.unregistered = sets := fun call member =>
      Or.inl (registering.alone call member)
    have grown : ended.container.registered.length =
        (start.through before).container.registered.length + begun.counted number during :=
      registering.length_registered (.registerAll sets)
    refine ⟨fun enough => ?_, fun returned => ?_⟩
    · refine hasReturned_through List.getElem?_concat_length
        (ControlCall.onlyRegisters_registerAll sets) ?_
      rwa [ControlCall.registerSteps_registerAll]
    obtain ⟨count, _, reached, _⟩ := (enrolled sets).through early
    have all : ended.container.registered = Container.listed sets :=
      reached.registered_of_made whole late fun _ => unregistered_of_returned returned
    refine ⟨all, fun none => ?_, fun ⟨call, called, same⟩ => ?_⟩
    · -- Without a call that registers anything, it is as if there were no consumer sets.
      obtain ⟨_, _, still, _⟩ := (enrolled []).through fun call member => Or.inl (none call member)
      have empty : (start.through before).container.registered = [] := by
        rw [still.registered, List.take_nil]
        rfl
      rw [all, empty, List.length_nil, Nat.zero_add] at grown
      exact grown.symm
    · rw [all, (enrolled sets).registered_of_called early called same registering.idle] at grown
      omega
  · intro system
    obtain ⟨count, _, reached, _⟩ := (enrolled start.settings.consumers).through
      fun call member => (offered call member).unregistered
    refine ⟨reached.registered ▸ Container.nodup_eraseDups _, ⟨count, reached.registered⟩, ?_⟩
    intro number rest present after
    have launched : after = _ := container_launch present
    rw [launched]
    refine ⟨fun idle => ?_, fun busy => if_pos (Option.isSome_iff_ne_none.mpr busy)⟩
    rw [if_neg (by simp [idle])]
    exact ⟨rfl, rfl⟩

end System

/-! ### Listeners listed twice -/

/-- Three consumer sets with five listeners, of which two are the same, over a store that cannot
tell whether a stream is there. -/
def crowded : System where
  pipeline :=
    { service := ⟨.empty, [⟨.exists, none, .timeout "unreachable", 0, none⟩]⟩
      archive := .empty .memory
      wall := ⟨0, 0⟩ }
  settings :=
    { consumers := [⟨"orders", "audit", "worker", 1⟩, ⟨"orders", "audit", "worker-1", 2⟩,
        ⟨"orders", "audit", "worker", 2⟩] }
  period := 1

/-- The first call registers all listeners. -/
def enrolling : List Act :=
  .call (.registerAll crowded.settings.consumers) :: List.replicate 15 (.step (.call 0))

/-- The first call registers four listeners and the second one none. A start then spawns their
loops. -/
theorem crowded_registers_four :
    crowded.container.registered = [] ∧ crowded.calls = [] ∧
      (∀ call, .call call ∈ enrolling → call.Offered crowded.settings.consumers) ∧
      crowded.Registering [] (List.replicate 15 (.step (.call 0))) ∧
      crowded.Registering enrolling (List.replicate 15 (.step (.call 1))) ∧
      (crowded.through enrolling).hasReturned 0 = true ∧
      (crowded.through enrolling).container.registered =
        [⟨"orders", "audit", "worker-1"⟩, ⟨"orders", "audit", "worker-1-1"⟩,
          ⟨"orders", "audit", "worker-1-2"⟩, ⟨"orders", "audit", "worker-2"⟩] ∧
      (crowded.makeCall (.registerAll crowded.settings.consumers)).counted 0
        (List.replicate 15 (.step (.call 0))) = 4 ∧
      ((crowded.through enrolling).makeCall (.registerAll crowded.settings.consumers)).counted 1
        (List.replicate 15 (.step (.call 1))) = 0 ∧
      ((crowded.through (enrolling ++ [.call .start])).step (.call 1)).container.loops.map
        ListenerLoop.spec = (crowded.through enrolling).container.registered := by
  have stepping : ∀ {number call}, .call call ∉ List.replicate 15 (Act.step (.call number)) :=
    fun member => Act.noConfusion (List.eq_of_mem_replicate member)
  have offered : ∀ call, .call call ∈ enrolling → call.Offered crowded.settings.consumers := by
    intro call member
    rcases List.mem_cons.mp member with same | step
    · exact Act.call.inj same ▸ .registerAll
    · exact absurd step stepping
  have first : crowded.Registering [] (List.replicate 15 (.step (.call 0))) :=
    ⟨fun _ member => absurd member stepping, fun _ never => absurd never List.not_mem_nil,
      fun _ member => absurd member stepping⟩
  have second : crowded.Registering enrolling (List.replicate 15 (.step (.call 1))) := by
    refine ⟨fun call member => ?_, ?_, fun _ member => absurd member stepping⟩
    · exact (List.mem_append.mp member).elim (offered call) fun step => absurd step stepping
    · have calls : (crowded.through enrolling).calls = [[]] := rfl
      rw [calls]
      exact List.forall_mem_singleton.mpr rfl
  have listed : Container.listed crowded.settings.consumers =
      [⟨"orders", "audit", "worker-1"⟩, ⟨"orders", "audit", "worker-1-1"⟩,
        ⟨"orders", "audit", "worker-1-2"⟩, ⟨"orders", "audit", "worker-2"⟩] := by decide +kernel
  obtain ⟨sequence, always, _⟩ := System.listeners_register_once
    (rfl : crowded.container.registered = []) (rfl : crowded.calls = [])
  obtain ⟨returns, answers⟩ := sequence _ _ first
  have returned : (crowded.through enrolling).hasReturned 0 = true := returns (by decide)
  obtain ⟨all, counts, _⟩ := answers returned
  have all : (crowded.through enrolling).container.registered = _ := all.trans listed
  obtain ⟨returnsAgain, answersAgain⟩ := sequence _ _ second
  obtain ⟨_, _, countsNone⟩ := answersAgain (returnsAgain (by decide))
  refine ⟨rfl, rfl, offered, first, second, returned, all, ?_, ?_, ?_⟩
  · exact (counts fun _ never => absurd never List.not_mem_nil).trans (congrArg List.length listed)
  · exact countsNone ⟨_, List.mem_cons_self, ControlCall.unregistered_registerAll _⟩
  · have offeredToo : ∀ call, .call call ∈ enrolling ++ [.call .start] →
        call.Offered crowded.settings.consumers := by
      intro call member
      refine (List.mem_append.mp member).elim (offered call) fun last => ?_
      exact Act.call.inj (List.mem_singleton.mp last) ▸ .start
    have started : crowded.through (enrolling ++ [.call .start]) =
        (crowded.through enrolling).makeCall .start := List.foldl_append
    have stopped : (crowded.through enrolling).container.running = none := by decide +kernel
    have unspawned : (crowded.through enrolling).container.loops = [] := by decide +kernel
    obtain ⟨_, _, launches⟩ := always _ offeredToo
    rw [started] at launches ⊢
    have loops := ((launches 1 [] rfl).1 stopped).1
    rw [loops, List.map_append, List.map_map]
    exact (congrArg (List.map _ · ++ _) unspawned).trans (List.map_id _)

end AccessFeed
