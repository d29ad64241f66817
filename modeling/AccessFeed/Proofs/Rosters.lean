/-
This file tells which listeners are registered, and what a single step changes
about it.

The name of a consumer is a text and a number behind a hyphen, and as a number
has no hyphen both can be told from the name, whatever the text ends in. Two
consumer sets thus share a listener only if they have the stream, the group and
that text in common. Registering the listeners of a set adds those that are new
to the end of the list. Of all that is done to the system only one thing does
so: the step of a call that has come to the end of ensuring a group, whether or
not this succeeded.
-/

import AccessFeed.Proofs.Launches
import AccessFeed.Proofs.TaskCalls

namespace AccessFeed

open Settings (ConsumerSet)

/-! ### Names of consumers -/

namespace Text

theorem digitsOf_injective {first second : Nat} (same : digitsOf first = digitsOf second) :
    first = second := by
  have left : readNat (max first second) (digitsOf first) = .ok first :=
    readNat_digitsOf (Nat.le_max_left first second)
  rw [same, readNat_digitsOf (Nat.le_max_right first second)] at left
  exact (Except.ok.inj left).symm

/-- A text with a number behind a hyphen tells both of them. -/
theorem numbered_injective {base other : String} {first second : Nat}
    (same : base ++ "-" ++ decimal first = other ++ "-" ++ decimal second) :
    base = other ∧ first = second := by
  have reversed : ∀ (base : String) (number : Nat),
      Streams.StreamId.splitHyphen (base ++ "-" ++ decimal number).toList.reverse =
        ((digitsOf number).reverse, some base.toList.reverse) := by
    intro base number
    have unbroken : '-' ∉ (digitsOf number).reverse := fun member =>
      not_mem_digitsOf (by decide) (List.mem_reverse.mp member)
    rw [← Streams.StreamId.splitHyphen_append unbroken]
    simp [decimal]
  have split := (reversed base first).symm.trans (same ▸ reversed other second)
  obtain ⟨digits, bases⟩ := Prod.mk.inj split
  refine ⟨String.toList_inj.mp ?_, digitsOf_injective (List.reverse_inj.mp digits)⟩
  exact List.reverse_inj.mp (Option.some.inj bases)

end Text

namespace Container

theorem mem_listenersOf {set : ConsumerSet} {spec : ListenerSpec} :
    spec ∈ listenersOf set ↔ ∃ number, 1 ≤ number ∧ number ≤ set.consumerCount ∧
      spec = ⟨set.stream, set.group, set.consumerBase ++ "-" ++ Text.decimal number⟩ := by
  simp only [listenersOf, ConsumerSet.consumerNames, List.map_map, List.mem_map, List.mem_range,
    Function.comp]
  constructor
  · rintro ⟨index, below, rfl⟩
    exact ⟨index + 1, by omega, below, rfl⟩
  · rintro ⟨number, positive, atMost, rfl⟩
    exact ⟨number - 1, by omega, by rw [Nat.sub_add_cancel positive]⟩

/-- Consumer sets that share a listener differ at most in how many they have. -/
theorem eq_of_mem_listenersOf {first second : ConsumerSet} {spec : ListenerSpec}
    (listed : spec ∈ listenersOf first) (also : spec ∈ listenersOf second) :
    first.stream = second.stream ∧ first.group = second.group ∧
      first.consumerBase = second.consumerBase := by
  obtain ⟨number, _, _, rfl⟩ := mem_listenersOf.mp listed
  obtain ⟨other, _, _, same⟩ := mem_listenersOf.mp also
  obtain ⟨stream, group, consumer⟩ := ListenerSpec.mk.inj same
  exact ⟨stream, group, (Text.numbered_injective consumer).1⟩

/-! ### Registering listeners -/

/-- The listeners of some consumer sets in their order, each where it is first listed. -/
def listed (sets : List ConsumerSet) : List ListenerSpec :=
  (sets.flatMap listenersOf).eraseDups

variable {container : Container} {specs : List ListenerSpec}

/-- What was registered once each, in the order in which it was first met, stays so. -/
theorem registered_register_of_eraseDups (told : container.registered = specs.eraseDups)
    (spec : ListenerSpec) : (container.register spec).registered = (specs ++ [spec]).eraseDups := by
  have listed : spec ∈ container.registered ↔ spec ∈ specs := told ▸ List.mem_eraseDups
  rw [register, List.eraseDups_append]
  by_cases member : spec ∈ specs
  · rw [if_pos (listed.mpr member), told]
    simp [List.removeAll, member]
  · rw [if_neg (mt listed.mp member), told]
    simp [List.removeAll, member, List.eraseDups_cons]

theorem registered_foldl_of_eraseDups (told : container.registered = specs.eraseDups)
    (more : List ListenerSpec) :
    (more.foldl register container).registered = (specs ++ more).eraseDups := by
  induction more generalizing container specs with
  | nil => rwa [List.append_nil]
  | cons spec rest inductionHypothesis =>
    rw [List.foldl_cons, inductionHypothesis (registered_register_of_eraseDups told spec),
      List.append_assoc, List.singleton_append]

/-- Listeners that are all registered change nothing. -/
theorem eraseDups_append_of_subset {more : List ListenerSpec} (known : more ⊆ specs) :
    (specs ++ more).eraseDups = specs.eraseDups := by
  have none : more.removeAll specs = [] :=
    List.filter_eq_nil_iff.mpr fun spec member => by simp [known member]
  rw [List.eraseDups_append, none, List.eraseDups_nil, List.append_nil]

/-- Of the consumer sets up to some place, registering another one of them changes nothing, and
registering the next one adds what is new in it. -/
theorem registered_registerSet_take {sets : List ConsumerSet} {count place : Nat}
    (told : container.registered = listed (sets.take count))
    (atMost : place ≤ count) (within : place < sets.length) :
    (container.registerSet sets[place]).registered =
      listed (sets.take (max count (place + 1))) := by
  rw [registerSet, registered_foldl_of_eraseDups told, listed]
  rcases Nat.lt_or_eq_of_le atMost with earlier | rfl
  · rw [Nat.max_eq_left earlier]
    refine eraseDups_append_of_subset fun spec member => ?_
    refine List.mem_flatMap.mpr ⟨sets[place], ?_, member⟩
    exact List.mem_take_iff_getElem.mpr ⟨place, by omega, rfl⟩
  · rw [Nat.max_eq_right (Nat.le_succ _), List.take_add_one, List.getElem?_eq_getElem within,
      Option.toList_some, List.flatMap_append, List.flatMap_singleton]

theorem nodup_eraseDups : ∀ specs : List ListenerSpec, specs.eraseDups.Nodup
  | [] => List.nodup_nil
  | spec :: rest => by
    rw [List.eraseDups_cons]
    refine List.nodup_cons.mpr ⟨fun again => ?_, nodup_eraseDups _⟩
    simpa using List.mem_eraseDups.mp again
termination_by specs => specs.length
decreasing_by exact Nat.lt_succ_of_le (List.length_filter_le _ _)

theorem length_foldl_register (more : List ListenerSpec) :
    (more.foldl register container).registered.length =
      container.registered.length + container.countNew more := by
  induction more generalizing container with
  | nil => rfl
  | cons spec rest inductionHypothesis =>
    rw [List.foldl_cons, inductionHypothesis, countNew, ← Nat.add_assoc]
    congr 1
    rw [register]
    split
    · rfl
    · exact List.length_append

end Container

/-! ### Calls that register listeners -/

/-- The consumer set that an action registers. -/
def ControlAction.registering? : ControlAction → Option ConsumerSet
  | .register set _ => some set
  | _ => none

namespace ControlCall

/-- The consumer sets that a call is yet to register. -/
def unregistered (call : ControlCall) : List ConsumerSet :=
  call.filterMap ControlAction.registering?

/-- The calls that a container with some consumer sets offers. -/
inductive Offered (sets : List ConsumerSet) : ControlCall → Prop
  | registerAll : Offered sets (.registerAll sets)
  | startUp : Offered sets (.startUp sets)
  | start : Offered sets .start
  | stop : Offered sets .stop
  | restart : Offered sets (.restart sets)

variable {sets : List ConsumerSet} {call : ControlCall}

theorem unregistered_append (call rest : ControlCall) :
    (call ++ rest : ControlCall).unregistered = call.unregistered ++ rest.unregistered :=
  List.filterMap_append

theorem unregistered_registerAll (sets : List ConsumerSet) :
    (registerAll sets).unregistered = sets := by
  rw [unregistered, registerAll, List.filterMap_map]
  exact List.filterMap_some

theorem unregistered_restart (sets : List ConsumerSet) : (restart sets).unregistered = [] := by
  refine List.filterMap_eq_nil_iff.mpr fun action member => ?_
  rcases List.mem_append.mp member with early | launch
  · rcases List.mem_cons.mp early with rfl | ensuring
    · rfl
    · obtain ⟨set, _, rfl⟩ := List.mem_map.mp ensuring
      rfl
  · obtain rfl := List.mem_singleton.mp launch
    rfl

/-- A call registers all consumer sets or none. -/
theorem Offered.unregistered (offered : Offered sets call) :
    call.unregistered = [] ∨ call.unregistered = sets := by
  cases offered with
  | registerAll => exact Or.inr (unregistered_registerAll sets)
  | startUp =>
    refine Or.inr ?_
    rw [ControlCall.startUp, unregistered_append, unregistered_registerAll]
    exact List.append_nil sets
  | start | stop => exact Or.inl rfl
  | restart => exact Or.inl (unregistered_restart sets)

/-- How many steps a call takes at most until it has registered its listeners. -/
def registerSteps : ControlCall → Nat
  | .register _ phase :: rest => phase.remaining + 1 + registerSteps rest
  | _ :: rest => registerSteps rest
  | [] => 0

/-- Whether a call does nothing but register listeners. -/
def OnlyRegisters (call : ControlCall) : Prop :=
  ∀ action ∈ call, ∃ set phase, action = .register set phase

theorem onlyRegisters_registerAll (sets : List ConsumerSet) :
    (registerAll sets).OnlyRegisters := by
  intro action member
  obtain ⟨set, _, rfl⟩ := List.mem_map.mp member
  exact ⟨set, _, rfl⟩

theorem registerSteps_registerAll (sets : List ConsumerSet) :
    (registerAll sets).registerSteps = 5 * sets.length := by
  induction sets with
  | nil => rfl
  | cons set rest inductionHypothesis =>
    show 5 + (registerAll rest).registerSteps = _
    rw [inductionHypothesis, List.length_cons]
    omega

end ControlCall

namespace Control

variable (grace now : Nat) (scope : Scope)

theorem ensure_of_unfinished (set : ConsumerSet) (message : String) {phase : EnsurePhase}
    (unfinished : ∀ result, phase ≠ .finished result) (pipeline : Pipeline) :
    ∃ later left, ensure set message phase pipeline = (some later, left) ∧
      later.remaining < phase.remaining := by
  have positive : phase.remaining ≠ 0 := by
    cases phase with
    | checking | seeding | listing | creating => simp [EnsurePhase.remaining]
    | finished result => exact absurd rfl (unfinished result)
  have fewer := EnsurePhase.remaining_step set.stream set.group phase pipeline positive
  cases phase with
  | checking | seeding | listing | creating => exact ⟨_, _, rfl, fewer⟩
  | finished result => exact absurd rfl (unfinished result)

theorem ensure_of_finished (set : ConsumerSet) (message : String)
    (result : Except Streams.StoreError Unit) (pipeline : Pipeline) :
    ∃ left, ensure set message (.finished result) pipeline = (none, left) := by
  cases result <;> exact ⟨_, rfl⟩

/-- An action that is left of registering a set registers its listeners when the group is ensured,
or could not be, and only ensures it until then. -/
theorem act_register (set : ConsumerSet) (phase : EnsurePhase) :
    (∃ result, phase = .finished result ∧
      (act grace now scope (.register set phase)).1 = [] ∧
      (act grace now scope (.register set phase)).2.container =
        scope.container.registerSet set) ∨
    (∀ result, phase ≠ .finished result) ∧ ∃ later, later.remaining < phase.remaining ∧
      (act grace now scope (.register set phase)).1 = [.register set later] ∧
      (act grace now scope (.register set phase)).2.container = scope.container := by
  by_cases finished : ∃ result, phase = .finished result
  · obtain ⟨result, rfl⟩ := finished
    obtain ⟨left, ensured⟩ :=
      ensure_of_finished set "Failed to ensure consumer group" result scope.pipeline
    refine Or.inl ⟨result, rfl, ?_⟩
    rw [act, ensured]
    exact ⟨rfl, rfl⟩
  · have unfinished : ∀ result, phase ≠ .finished result := fun result same =>
      finished ⟨result, same⟩
    obtain ⟨later, left, ensured, fewer⟩ :=
      ensure_of_unfinished set "Failed to ensure consumer group" unfinished scope.pipeline
    refine Or.inr ⟨unfinished, later, fewer, ?_⟩
    rw [act, ensured]
    exact ⟨rfl, rfl⟩

/-- Actions that register nothing leave what is registered, and none that would register something
take their place. -/
theorem act_aside {action : ControlAction} (aside : action.registering? = none) :
    ControlCall.unregistered (act grace now scope action).1 = [] ∧
      (act grace now scope action).2.container.registered = scope.container.registered := by
  cases action with
  | register => cases aside
  | ensure set phase =>
    dsimp only [act]
    generalize ensure set _ phase scope.pipeline = ensured
    obtain ⟨_ | phase, pipeline⟩ := ensured <;> exact ⟨rfl, rfl⟩
  | launch =>
    dsimp only [act, launch]
    split <;> exact ⟨rfl, rfl⟩
  | halt =>
    dsimp only [act]
    cases scope.container.running <;> exact ⟨rfl, rfl⟩
  | drain numbers deadline =>
    dsimp only [act]
    split
    · exact ⟨rfl, rfl⟩
    · split
      · exact ⟨rfl, (abortAll_spares numbers scope).2.2.1⟩
      · exact ⟨rfl, rfl⟩
  | rest millis => exact ⟨rfl, rfl⟩
  | resting until_ =>
    dsimp only [act]
    split <;> exact ⟨rfl, rfl⟩

end Control

/-! ### What is registered in a run -/

namespace System

/-- How many new listeners a call registers when something is done to a system. -/
def counts (system : System) (number : Nat) : Act → Nat
  | .step (.call other) =>
    if other = number then
      (system.calls[other]?.map fun call => call.newListeners system.container).getD 0
    else 0
  | _ => 0

/-- What becomes of the registered listeners, and of the calls that are to register more, when
something is done to a system. -/
inductive Enrols (before after : System) : Act → Prop
  | aside {act : Act} (made : List ControlCall) (calls : after.calls = before.calls ++ made)
      (own : ∀ call ∈ made, act = .call call ∨ call.unregistered = [])
      (same : after.container.registered = before.container.registered)
      (none : ∀ number, before.counts number act = 0) : Enrols before after act
  | turned {number : Nat} {call next : ControlCall} (present : before.calls[number]? = some call)
      (calls : after.calls = before.calls.set number next)
      (left : next.unregistered = call.unregistered)
      (same : after.container.registered = before.container.registered)
      (none : call.newListeners before.container = 0) : Enrols before after (.step (.call number))
  | enrolled {number : Nat} {set : ConsumerSet} {result : Except Streams.StoreError Unit}
      {rest : ControlCall}
      (present : before.calls[number]? = some (.register set (.finished result) :: rest))
      (calls : after.calls = before.calls.set number rest)
      (container : after.container = before.container.registerSet set) :
      Enrols before after (.step (.call number))

variable (system : System)

theorem unregistered_restartCall : system.restartCall.unregistered = [] := by
  rw [restartCall]
  cases system.rehearsal with
  | some => rfl
  | none => exact ControlCall.unregistered_restart _

theorem calls_startMonitor : system.startMonitor.calls = system.calls := by
  rw [startMonitor, Monitor.start]
  cases system.monitor.slot <;> rfl

/-- A probing task makes no call but one that restarts the container. -/
theorem calls_stepProbe (number : Nat) (probe : ProbeTask) :
    ∃ made, (system.stepProbe number probe).calls = system.calls ++ made ∧
      ∀ call ∈ made, call.unregistered = [] := by
  have unmade {after : System} (same : after.calls = system.calls) :
      ∃ made, after.calls = system.calls ++ made ∧ ∀ call ∈ made, call.unregistered = [] :=
    ⟨[], same.trans (List.append_nil _).symm, fun _ never => absurd never List.not_mem_nil⟩
  rw [stepProbe]
  cases probe.phase with
  | starting | ended | reading => exact unmade rfl
  | noting =>
    exact ⟨[system.restartCall], rfl, List.forall_mem_singleton.mpr system.unregistered_restartCall⟩
  | waiting due =>
    refine unmade ?_
    dsimp only
    split
    · rw [beginProbe]
      cases system.rehearsal <;> rfl
    · rfl
  | judging due report =>
    refine unmade ?_
    dsimp only
    rw [judge]
    split
    · split <;> rfl
    · rfl
  | restarting call =>
    refine unmade ?_
    dsimp only
    split <;> rfl
  | concluding =>
    refine unmade ?_
    dsimp only
    rw [concludeProbe]
    generalize system.monitor.conclude probe.generation = concluded
    obtain ⟨effect, monitor⟩ := concluded
    cases effect <;> rfl

theorem enrols_stepCall {number : Nat} {call : ControlCall}
    (present : system.calls[number]? = some call) :
    system.Enrols (system.stepCall number call) (.step (.call number)) := by
  cases call with
  | nil => exact .turned present rfl rfl rfl rfl
  | cons action rest =>
    let scope : Control.Scope := ⟨system.container, system.pipeline⟩
    have calls : (system.stepCall number (action :: rest)).calls = system.calls.set number
      ((Control.act system.settings.stopGrace system.now scope action).1 ++ rest) := rfl
    cases registering : action.registering? with
    | none =>
      obtain ⟨replaced, same⟩ := Control.act_aside system.settings.stopGrace system.now scope
        registering
      refine .turned present calls ?_ same ?_
      · rw [ControlCall.unregistered_append, replaced, List.nil_append, ControlCall.unregistered,
          ControlCall.unregistered, List.filterMap_cons_none registering]
      · cases action with
        | register => cases registering
        | ensure | launch | halt | drain | rest | resting => rfl
    | some set =>
      cases action with
      | ensure | launch | halt | drain | rest | resting => cases registering
      | register other phase =>
        rcases Control.act_register system.settings.stopGrace system.now scope other phase with
          ⟨result, rfl, replaced, container⟩ | ⟨unfinished, later, _, replaced, container⟩
        · rw [replaced] at calls
          exact .enrolled present calls container
        · rw [replaced] at calls
          refine .turned present calls rfl (congrArg Container.registered container) ?_
          cases phase with
          | checking | seeding | listing | creating => rfl
          | finished result => exact absurd rfl (unfinished result)

theorem enrols_perform (act : Act) : system.Enrols (system.perform act) act := by
  have aside {after : System} {act : Act} (calls : after.calls = system.calls)
      (same : after.container.registered = system.container.registered)
      (none : ∀ number, system.counts number act = 0) : system.Enrols after act :=
    .aside [] (calls.trans (List.append_nil _).symm) (fun _ never => absurd never List.not_mem_nil)
      same none
  cases act with
  | pass | others => exact aside rfl rfl fun _ => rfl
  | call call =>
    exact .aside [call] rfl (List.forall_mem_singleton.mpr (Or.inl rfl)) rfl fun _ => rfl
  | start =>
    exact aside system.calls_startMonitor
      (congrArg Container.registered system.spares_startMonitor.container) fun _ => rfl
  | stop =>
    dsimp only [perform, stopMonitor]
    cases system.monitor.slot <;> exact aside rfl rfl fun _ => rfl
  | step task =>
    dsimp only [perform, step]
    cases task with
    | call number =>
      dsimp only
      cases present : system.calls[number]? with
      | some call => exact system.enrols_stepCall present
      | none =>
        refine aside rfl rfl fun other => ?_
        rw [counts, present]
        exact ite_self 0
    | probe number =>
      dsimp only
      cases system.probes[number]? with
      | none => exact aside rfl rfl fun _ => rfl
      | some probe =>
        obtain ⟨made, calls, own⟩ := system.calls_stepProbe number probe
        exact .aside made calls (fun call member => Or.inr (own call member))
          (congrArg Container.registered (system.spares_stepProbe number probe).container)
          fun _ => rfl
    | loop number =>
      dsimp only
      cases system.container.loops[number]? with
      | none => exact aside rfl rfl fun _ => rfl
      | some loop =>
        dsimp only
        split <;> exact aside rfl rfl fun _ => rfl
    | bridge =>
      dsimp only [stepBridge]
      cases system.bridge with
      | absent => exact aside rfl rfl fun _ => rfl
      | waiting =>
        dsimp only
        cases system.pipeline.signal.take? <;> exact aside rfl rfl fun _ => rfl
      | holding event =>
        dsimp only
        rw [startMonitor_bridge]
        exact aside system.calls_startMonitor
          (congrArg Container.registered system.spares_startMonitor.container) fun _ => rfl

end System

end AccessFeed
