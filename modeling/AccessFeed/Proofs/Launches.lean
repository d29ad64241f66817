/-
This file tells when a listener has two loops.

A stop lets go of the running loops at once and waits for them afterwards, and
a start looks only at whether loops are running. A start that comes while a stop
still waits thus spawns a second loop for the listener of every loop that has
not ended yet. The file proves that nothing else does: every loop that has not
ended is one of those running or one that a stop waits for, so that two of one
listener are found at some time of a run exactly if some start of it spawned
loops while a stop waited for one that had not ended.
-/

import AccessFeed.Proofs.Attendance

namespace AccessFeed

/-! ### Loops at work -/

namespace Container

/-- Whether the loop of a number is one of a listener and has not ended. -/
def Works (container : Container) (number : Nat) (spec : ListenerSpec) : Prop :=
  ∃ loop, container.loops[number]? = some loop ∧ loop.isFinished = false ∧ loop.spec = spec

/-- Whether no two loops that have not ended are of the same listener. -/
def Single (container : Container) : Prop :=
  ∀ first second spec, container.Works first spec → container.Works second spec → first = second

/-- Whether a container has the loops of another one, of which some may have ended since, and runs
the same ones. -/
structure Continues (before after : Container) : Prop where
  working : ∀ number spec, after.Works number spec → before.Works number spec
  running : after.running = before.running
  specs : after.specs = before.specs
  registered : ∀ spec ∈ before.registered, spec ∈ after.registered
  distinct : before.registered.Nodup → after.registered.Nodup

variable (container : Container)

theorem continues_refl : container.Continues container :=
  ⟨fun _ _ => id, rfl, rfl, fun _ => id, id⟩

theorem Works.not_hasFinished {container : Container} {number : Nat} {spec : ListenerSpec}
    (works : container.Works number spec) : container.hasFinished number = false := by
  obtain ⟨loop, present, unfinished, _⟩ := works
  rw [hasFinished, present]
  exact unfinished

theorem works_of_not_hasFinished {number : Nat}
    (unfinished : container.hasFinished number = false) : ∃ spec, container.Works number spec := by
  rw [hasFinished] at unfinished
  cases present : container.loops[number]? with
  | none =>
    rw [present] at unfinished
    cases unfinished
  | some loop =>
    rw [present] at unfinished
    exact ⟨loop.spec, loop, present, unfinished, rfl⟩

/-- The listener of a loop at work is among those of all loops. -/
theorem Works.mem_specs {container : Container} {number : Nat} {spec : ListenerSpec}
    (works : container.Works number spec) : spec ∈ container.specs := by
  obtain ⟨loop, present, _, rfl⟩ := works
  exact List.mem_map_of_mem (List.mem_of_getElem? present)

theorem changeLoops_cons (number : Nat) (rest : List Nat)
    (change : ListenerLoop → ListenerLoop) :
    container.changeLoops (number :: rest) change =
      (container.changeLoops [number] change).changeLoops rest change := rfl

theorem loops_changeLoops_singleton (number place : Nat)
    (change : ListenerLoop → ListenerLoop) :
    (container.changeLoops [number] change).loops[place]? =
      if number = place then container.loops[place]?.map change else container.loops[place]? := by
  show (container.loops.modify number change)[place]? = _
  rw [List.getElem?_modify]
  split
  · rfl
  · exact Option.map_id'

/-- Changing loops sets none to work if the change does not. -/
theorem Works.of_changeLoops {container : Container} {numbers : List Nat}
    {change : ListenerLoop → ListenerLoop} {place : Nat} {spec : ListenerSpec}
    (works : (container.changeLoops numbers change).Works place spec)
    (same : ∀ loop, (change loop).spec = loop.spec)
    (ends : ∀ loop, (change loop).isFinished = false → loop.isFinished = false) :
    container.Works place spec := by
  induction numbers generalizing container with
  | nil => exact works
  | cons number rest inductionHypothesis =>
    rw [changeLoops_cons] at works
    obtain ⟨loop, present, unfinished, rfl⟩ := inductionHypothesis works
    rw [loops_changeLoops_singleton] at present
    split at present
    · obtain ⟨old, there, rfl⟩ := Option.map_eq_some_iff.mp present
      exact ⟨old, there, ends old unfinished, (same old).symm⟩
    · exact ⟨loop, present, unfinished, rfl⟩

/-- A loop that goes on sets none to work. -/
theorem Works.of_advance {container : Container} {number place : Nat} {phase : ListenerPhase}
    {spec : ListenerSpec}
    (works : (container.changeLoops [number] fun loop => { loop with phase }).Works place spec)
    {loop : ListenerLoop} (present : container.loops[number]? = some loop)
    (stays : loop.phase = .stopped → phase = .stopped) : container.Works place spec := by
  obtain ⟨changed, there, unfinished, rfl⟩ := works
  rw [loops_changeLoops_singleton] at there
  split at there
  · rename_i own
    subst own
    rw [present] at there
    obtain rfl := Option.some.inj there
    refine ⟨loop, present, ?_, rfl⟩
    rw [ListenerLoop.isFinished, Bool.or_eq_false_iff] at unfinished ⊢
    refine ⟨unfinished.1, beq_eq_false_iff_ne.mpr fun stopped => ?_⟩
    exact beq_eq_false_iff_ne.mp unfinished.2 (stays stopped)
  · exact ⟨changed, there, unfinished, rfl⟩

/-! ### Spawning -/

theorem works_spawnAll_old {number : Nat} {spec : ListenerSpec}
    (works : container.Works number spec) : container.spawnAll.Works number spec := by
  obtain ⟨loop, present, unfinished, same⟩ := works
  refine ⟨loop, ?_, unfinished, same⟩
  exact (List.getElem?_append_left (List.getElem?_eq_some_iff.mp present).1).trans present

theorem works_spawnAll_new {place : Nat} {spec : ListenerSpec}
    (registered : container.registered[place]? = some spec) :
    container.spawnAll.Works (container.loops.length + place) spec := by
  refine ⟨{ spec }, ?_, rfl, rfl⟩
  show (container.loops ++ container.registered.map fun spec : ListenerSpec =>
    ({ spec := spec } : ListenerLoop))[_]? = _
  rw [List.getElem?_append_right (Nat.le_add_right _ _), Nat.add_sub_cancel_left,
    List.getElem?_map, registered]
  rfl

/-- Behind the loops there were, the loops of the registered listeners are spawned. -/
theorem works_spawnAll {number : Nat} {spec : ListenerSpec}
    (works : container.spawnAll.Works number spec) :
    container.Works number spec ∨ ∃ place, number = container.loops.length + place ∧
      container.registered[place]? = some spec := by
  obtain ⟨loop, present, unfinished, rfl⟩ := works
  have present : (container.loops ++ container.registered.map fun spec : ListenerSpec =>
    ({ spec := spec } : ListenerLoop))[number]? = some loop := present
  by_cases old : number < container.loops.length
  · rw [List.getElem?_append_left old] at present
    exact Or.inl ⟨loop, present, unfinished, rfl⟩
  · rw [List.getElem?_append_right (Nat.le_of_not_lt old), List.getElem?_map] at present
    obtain ⟨spec, registered, rfl⟩ := Option.map_eq_some_iff.mp present
    exact Or.inr ⟨number - container.loops.length, by omega, registered⟩

theorem running_spawnAll {place : Nat} {spec : ListenerSpec}
    (registered : container.registered[place]? = some spec) :
    ∃ numbers, container.spawnAll.running = some numbers ∧
      container.loops.length + place ∈ numbers :=
  ⟨_, rfl, List.mem_map_of_mem (List.mem_range.mpr (List.getElem?_eq_some_iff.mp registered).1)⟩

theorem specs_spawnAll : container.spawnAll.specs = container.specs ++ container.registered := by
  show List.map _ (_ ++ _) = List.map _ _ ++ _
  rw [List.map_append, List.map_map]
  exact congrArg _ (List.map_id _)

/-- If no loop is at work, then those that are spawned are of different listeners. -/
theorem single_spawnAll (distinct : container.registered.Nodup)
    (ended : ∀ number spec, ¬ container.Works number spec) : container.spawnAll.Single := by
  intro first second spec working also
  rcases container.works_spawnAll working with old | ⟨place, rfl, registered⟩
  · exact absurd old (ended first spec)
  rcases container.works_spawnAll also with old | ⟨other, rfl, alsoRegistered⟩
  · exact absurd old (ended second spec)
  have bound := (List.getElem?_eq_some_iff.mp registered).1
  rw [(List.getElem?_inj bound distinct).mp (registered.trans alsoRegistered.symm)]

/-- If the listener of a loop at work is registered, then spawning gives it a second one. -/
theorem not_single_spawnAll {number : Nat} {spec : ListenerSpec}
    (works : container.Works number spec) (registered : spec ∈ container.registered) :
    ¬ container.spawnAll.Single := by
  intro single
  obtain ⟨place, there⟩ := List.getElem?_of_mem registered
  have same := single _ _ spec (container.works_spawnAll_old works)
    (container.works_spawnAll_new there)
  obtain ⟨loop, present, _⟩ := works
  have bound := (List.getElem?_eq_some_iff.mp present).1
  omega

/-! ### Registering -/

theorem continues_register (spec : ListenerSpec) :
    container.Continues (container.register spec) := by
  obtain ⟨kept, specs, running⟩ := container.registered_register spec
  refine ⟨fun number other works => ?_, running, specs, kept, fun distinct => ?_⟩ <;>
    rw [register] at *
  · split at works <;> exact works
  · split
    · exact distinct
    · rename_i absent
      refine List.nodup_append.mpr ⟨distinct, List.pairwise_singleton _ spec, ?_⟩
      rintro first member second last rfl
      exact absent (List.mem_singleton.mp last ▸ member)

theorem Continues.trans {before between after : Container} (first : before.Continues between)
    (second : between.Continues after) : before.Continues after where
  working := fun number spec works => first.working number spec (second.working number spec works)
  running := second.running.trans first.running
  specs := second.specs.trans first.specs
  registered := fun spec member => second.registered spec (first.registered spec member)
  distinct := fun distinct => second.distinct (first.distinct distinct)

theorem continues_registerSet (set : Settings.ConsumerSet) :
    container.Continues (container.registerSet set) := by
  rw [registerSet]
  generalize listenersOf set = listeners
  induction listeners generalizing container with
  | nil => exact container.continues_refl
  | cons spec rest inductionHypothesis =>
    exact (container.continues_register spec).trans (inductionHypothesis _)

end Container

/-! ### What becomes of the loops -/

/-- What becomes of the loops when an action of a call is taken, and which actions take its
place. -/
inductive LoopTurn (before : Container) :
    ControlAction → List ControlAction → Container → Prop
  | spawned (idle : before.running = none) : LoopTurn before .launch [] before.spawnAll
  | released {numbers : List Nat} {deadline : Nat} (running : before.running = some numbers) :
      LoopTurn before .halt [.drain numbers deadline] (before.release numbers)
  | waiting {numbers : List Nat} {deadline : Nat} :
      LoopTurn before (.drain numbers deadline) [.drain numbers deadline] before
  | drained {numbers : List Nat} {deadline : Nat} {after : Container}
      (continues : before.Continues after)
      (ended : ∀ number ∈ numbers, ∀ spec, ¬ after.Works number spec) :
      LoopTurn before (.drain numbers deadline) [] after
  | aside {action : ControlAction} {actions : List ControlAction} {after : Container}
      (continues : before.Continues after) (busy : action = .launch → before.running ≠ none)
      (undrained : ∀ numbers deadline, action ≠ .drain numbers deadline) :
      LoopTurn before action actions after

namespace Control

/-- What is aborted does not work any more. -/
theorem works_of_abortAll {numbers : List Nat} {scope : Scope} {place : Nat} {spec : ListenerSpec}
    (works : (abortAll numbers scope).container.Works place spec) :
    scope.container.Works place spec ∧ place ∉ numbers := by
  induction numbers generalizing scope with
  | nil => exact ⟨works, List.not_mem_nil⟩
  | cons number rest inductionHypothesis =>
    rw [abortAll] at works
    split at works
    · rename_i finished
      obtain ⟨still, spared⟩ := inductionHypothesis works
      refine ⟨still, fun member => ?_⟩
      rcases List.mem_cons.mp member with rfl | later
      · exact absurd (finished.symm.trans still.not_hasFinished) (by decide)
      · exact spared later
    · obtain ⟨still, spared⟩ := inductionHypothesis works
      refine ⟨?_, fun member => ?_⟩
      · refine still.of_changeLoops (fun _ => rfl) fun _ unfinished => ?_
        cases unfinished
      · rcases List.mem_cons.mp member with rfl | later
        · obtain ⟨loop, present, unfinished, _⟩ := still
          rw [Container.loops_changeLoops_singleton, if_pos rfl] at present
          obtain ⟨_, _, rfl⟩ := Option.map_eq_some_iff.mp present
          cases unfinished
        · exact spared later

theorem continues_abortAll (numbers : List Nat) (scope : Scope) :
    scope.container.Continues (abortAll numbers scope).container := by
  obtain ⟨specs, running, registered, _⟩ := abortAll_spares numbers scope
  exact ⟨fun _ _ works => (works_of_abortAll works).1, running, specs,
    fun _ member => registered ▸ member, fun distinct => registered ▸ distinct⟩

/-- An action of a call changes the loops in one of these ways. -/
theorem loopTurn_act (grace now : Nat) (scope : Scope) (action : ControlAction) :
    LoopTurn scope.container action (act grace now scope action).1
      (act grace now scope action).2.container := by
  have same := scope.container.continues_refl
  cases action with
  | register set phase =>
    dsimp only [act]
    generalize ensure set _ phase scope.pipeline = ensured
    obtain ⟨_ | phase, pipeline⟩ := ensured
    · exact .aside (scope.container.continues_registerSet set) (by simp) (by simp)
    · exact .aside same (by simp) (by simp)
  | ensure set phase =>
    dsimp only [act]
    generalize ensure set _ phase scope.pipeline = ensured
    obtain ⟨_ | phase, pipeline⟩ := ensured <;> exact .aside same (by simp) (by simp)
  | launch =>
    dsimp only [act, launch]
    cases running : scope.container.running with
    | some numbers => exact .aside same (by simp [running]) (by simp)
    | none => exact .spawned running
  | halt =>
    dsimp only [act]
    cases running : scope.container.running with
    | none => exact .aside same (by simp) (by simp)
    | some numbers => exact .released running
  | drain numbers deadline =>
    dsimp only [act]
    split
    · rename_i finished
      refine .drained same fun number member spec works => ?_
      have ended := List.all_eq_true.mp finished number member
      exact absurd (ended.symm.trans works.not_hasFinished) (by decide)
    · split
      · exact .drained (continues_abortAll numbers scope) fun number member spec works =>
          (works_of_abortAll works).2 member
      · exact .waiting
  | rest millis => exact .aside same (by simp) (by simp)
  | resting until_ =>
    dsimp only [act]
    split <;> exact .aside same (by simp) (by simp)

end Control

/-! ### Loops that are tended -/

namespace ControlCall

/-- Whether the next action of a call is to spawn loops. -/
def isLaunching : ControlCall → Bool
  | .launch :: _ => true
  | _ => false

/-- The loops that a call waits for. -/
def awaited : ControlCall → List Nat
  | .drain numbers _ :: _ => numbers
  | _ => []

end ControlCall

namespace System

/-- The loops that calls wait for. -/
def awaited (system : System) : List Nat :=
  system.calls.flatMap ControlCall.awaited

/-- Whether something done to a system spawns loops while a stop waits for one that has not
ended. -/
def Hastens (system : System) : Act → Prop
  | .step (.call number) =>
    (system.calls[number]?.map ControlCall.isLaunching).getD false = true ∧
      system.container.running = none ∧
      ∃ loop ∈ system.awaited, system.container.hasFinished loop = false
  | _ => False

instance (system : System) (act : Act) : Decidable (system.Hastens act) :=
  match act with
  | .step (.call _) => inferInstanceAs (Decidable (_ ∧ _ ∧ _))
  | .step (.probe _) | .step (.loop _) | .step .bridge | .start | .stop | .call _ | .pass _
  | .others _ => isFalse id

/-- What holds of the loops at any time: their listeners are registered, once each, and each loop
that has not ended is running or awaited. -/
structure Tended (system : System) : Prop where
  distinct : system.container.registered.Nodup
  registered : ∀ spec ∈ system.container.specs, spec ∈ system.container.registered
  tended : ∀ number spec, system.container.Works number spec →
    (∃ numbers, system.container.running = some numbers ∧ number ∈ numbers) ∨
      number ∈ system.awaited

variable {system after : System}

/-- What a call waits for is still waited for when the call is replaced, or it waited itself. -/
theorem mem_awaited_set {number : Nat} {action : ControlAction} {rest call : ControlCall}
    (present : system.calls[number]? = some (action :: rest))
    (calls : after.calls = system.calls.set number call) {loop : Nat}
    (awaits : loop ∈ system.awaited) :
    loop ∈ after.awaited ∨ ∃ numbers deadline, action = .drain numbers deadline ∧
      loop ∈ numbers := by
  obtain ⟨waiting, member, among⟩ := List.mem_flatMap.mp awaits
  obtain ⟨place, there⟩ := List.getElem?_of_mem member
  by_cases own : number = place
  · subst own
    obtain rfl := Option.some.inj (present.symm.trans there)
    cases action with
    | drain numbers deadline => exact Or.inr ⟨numbers, deadline, rfl, among⟩
    | register | ensure | launch | halt | rest | resting => exact absurd among List.not_mem_nil
  · refine Or.inl (List.mem_flatMap.mpr ⟨waiting, ?_, among⟩)
    rw [calls]
    exact List.mem_of_getElem? ((List.getElem?_set_ne own).trans there)

theorem mem_awaited_of_call {place : Nat} {call : ControlCall}
    (present : system.calls[place]? = some call) {loop : Nat} (awaits : loop ∈ call.awaited) :
    loop ∈ system.awaited :=
  List.mem_flatMap.mpr ⟨call, List.mem_of_getElem? present, awaits⟩

/-- A change at which loops only end, and which keeps the calls that wait for others. -/
theorem Tended.continue (tended : system.Tended)
    (continues : system.container.Continues after.container)
    (awaits : ∀ number spec, after.container.Works number spec → number ∈ system.awaited →
      number ∈ after.awaited) : after.Tended where
  distinct := continues.distinct tended.distinct
  registered := fun spec member =>
    continues.registered spec (tended.registered spec (continues.specs ▸ member))
  tended := fun number spec works => by
    rw [continues.running]
    exact (tended.tended number spec (continues.working number spec works)).imp_right
      (awaits number spec works)

end System

theorem Container.Single.of_working {before after : Container} (single : before.Single)
    (working : ∀ number spec, after.Works number spec → before.Works number spec) :
    after.Single :=
  fun first second spec firstWorks secondWorks =>
    single first second spec (working first spec firstWorks) (working second spec secondWorks)

theorem Container.Works.of_release {container : Container} {numbers : List Nat} {number : Nat}
    {spec : ListenerSpec} (works : (container.release numbers).Works number spec) :
    container.Works number spec := by
  have changed : ({ container with running := none }.changeLoops numbers _).Works number spec :=
    works
  exact changed.of_changeLoops (fun _ => rfl) fun _ => id

theorem Container.specs_release (container : Container) (numbers : List Nat) :
    (container.release numbers).specs = container.specs :=
  { container with running := none }.specs_changeLoops numbers fun _ => rfl

/-! ### Steps of calls -/

section Turn

variable {system after : System} {number : Nat} {action : ControlAction}
  {actions : List ControlAction} {rest : ControlCall} {container : Container}

/-- Where no loops were running, those that have not ended are still awaited when others are spawned
and run. -/
theorem System.Tended.spawn (tended : system.Tended) (idle : system.container.running = none)
    (arrived : after.container = system.container.spawnAll)
    (still : ∀ loop ∈ system.awaited, loop ∈ after.awaited) : after.Tended := by
  refine ⟨?_, ?_, ?_⟩ <;> rw [arrived]
  · exact tended.distinct
  · intro spec member
    rw [Container.specs_spawnAll] at member
    exact (List.mem_append.mp member).elim (tended.registered spec) id
  · intro loop spec works
    rcases system.container.works_spawnAll works with old | ⟨place, rfl, registered⟩
    · refine Or.inr (still loop ((tended.tended loop spec old).resolve_left ?_))
      rintro ⟨numbers, running, _⟩
      rw [idle] at running
      cases running
    · exact Or.inl (system.container.running_spawnAll registered)

/-- Loops that were running and are let go of are awaited. -/
theorem System.Tended.release {numbers : List Nat} (tended : system.Tended)
    (running : system.container.running = some numbers)
    (arrived : after.container = system.container.release numbers)
    (still : ∀ loop ∈ system.awaited, loop ∈ after.awaited)
    (taken : ∀ loop ∈ numbers, loop ∈ after.awaited) : after.Tended := by
  refine ⟨?_, ?_, ?_⟩ <;> rw [arrived]
  · exact tended.distinct
  · intro spec member
    rw [Container.specs_release] at member
    exact tended.registered spec member
  · intro loop spec works
    refine Or.inr ?_
    rcases tended.tended loop spec works.of_release with ⟨found, there, member⟩ | awaits
    · rw [running] at there
      obtain rfl := Option.some.inj there
      exact taken loop member
    · exact still loop awaits

/-- However an action is taken, each loop at work is running or awaited afterwards. -/
theorem System.Tended.turn (tended : system.Tended)
    (turn : LoopTurn system.container action actions container)
    (same : after.container = container)
    (present : system.calls[number]? = some (action :: rest))
    (calls : after.calls = system.calls.set number (actions ++ rest)) : after.Tended := by
  have bound := (List.getElem?_eq_some_iff.mp present).1
  have own : after.calls[number]? = some (actions ++ rest) := by
    rw [calls, List.getElem?_set_self bound]
  have others (undrained : ∀ numbers deadline, action ≠ .drain numbers deadline) :
      ∀ loop ∈ system.awaited, loop ∈ after.awaited := by
    intro loop awaits
    rcases System.mem_awaited_set present calls awaits with still | ⟨numbers, deadline, drain, _⟩
    · exact still
    · exact absurd drain (undrained numbers deadline)
  subst same
  generalize arrived : after.container = container at turn
  cases turn with
  | spawned idle => exact tended.spawn idle arrived (others (by simp))
  | @released numbers deadline running =>
    exact tended.release running arrived (others (by simp)) fun loop member =>
      System.mem_awaited_of_call own member
  | @waiting numbers deadline =>
    refine tended.continue (arrived ▸ system.container.continues_refl)
      fun loop spec works awaits => ?_
    rcases System.mem_awaited_set present calls awaits with still | ⟨_, _, drain, member⟩
    · exact still
    · cases drain
      exact System.mem_awaited_of_call own member
  | @drained numbers deadline _ continues ended =>
    subst arrived
    refine tended.continue continues fun loop spec works awaits => ?_
    rcases System.mem_awaited_set present calls awaits with still | ⟨_, _, drain, member⟩
    · exact still
    · cases drain
      exact absurd works (ended loop member spec)
  | aside continues busy undrained =>
    subst arrived
    exact tended.continue continues fun loop _ _ => others undrained loop

/-- An action that does not spawn loops while one that has not ended is awaited leaves the loops at
work of different listeners. -/
theorem System.Tended.single_turn (tended : system.Tended) (single : system.container.Single)
    (turn : LoopTurn system.container action actions container)
    (present : system.calls[number]? = some (action :: rest))
    (patient : ¬ system.Hastens (.step (.call number))) : container.Single := by
  cases turn with
  | spawned idle =>
    refine system.container.single_spawnAll tended.distinct fun loop spec works => patient ?_
    refine ⟨by rw [present]; rfl, idle, loop, ?_, works.not_hasFinished⟩
    refine (tended.tended loop spec works).resolve_left ?_
    rintro ⟨numbers, running, _⟩
    rw [idle] at running
    cases running
  | released => exact single.of_working fun _ _ works => works.of_release
  | waiting => exact single
  | drained continues | aside continues => exact single.of_working continues.working

end Turn

namespace System

variable {system : System}

theorem stepCall_nil {number : Nat} (present : system.calls[number]? = some []) :
    system.stepCall number [] = system := by
  obtain ⟨bound, listed⟩ := List.getElem?_eq_some_iff.mp present
  have same : system.calls.set number [] = system.calls := listed ▸ List.set_getElem_self bound
  show { system with calls := system.calls.set number [] } = system
  rw [same]

theorem Tended.stepCall (tended : system.Tended) {number : Nat} {call : ControlCall}
    (present : system.calls[number]? = some call) : (system.stepCall number call).Tended := by
  cases call with
  | nil =>
    rw [stepCall_nil present]
    exact tended
  | cons action rest =>
    exact tended.turn (Control.loopTurn_act _ _ ⟨system.container, system.pipeline⟩ action) rfl
      present rfl

theorem Tended.single_stepCall (tended : system.Tended) (single : system.container.Single)
    {number : Nat} {call : ControlCall} (present : system.calls[number]? = some call)
    (patient : ¬ system.Hastens (.step (.call number))) :
    (system.stepCall number call).container.Single := by
  cases call with
  | nil =>
    rw [stepCall_nil present]
    exact single
  | cons action rest =>
    exact tended.single_turn single
      (Control.loopTurn_act _ _ ⟨system.container, system.pipeline⟩ action) present patient

/-- Spawning loops while one that has not ended is awaited gives its listener a second one. -/
theorem Tended.not_single (tended : system.Tended) {act : Act} (hastens : system.Hastens act) :
    ¬ (system.perform act).container.Single := by
  cases act with
  | start | stop | call | pass | others => exact hastens.elim
  | step task =>
    cases task with
    | probe | loop | bridge => exact hastens.elim
    | call number =>
      obtain ⟨launching, idle, loop, _, unfinished⟩ := hastens
      cases present : system.calls[number]? with
      | none =>
        rw [present] at launching
        cases launching
      | some call =>
        rw [present] at launching
        cases call with
        | nil => cases launching
        | cons action rest =>
          cases action with
          | register | ensure | halt | drain | rest | resting => cases launching
          | launch =>
            have container : (system.perform (.step (.call number))).container =
                system.container.spawnAll := by
              dsimp only [perform, step]
              rw [present]
              dsimp only [System.stepCall, Control.step, Control.act, Control.launch]
              rw [if_neg (by simp [idle])]
            obtain ⟨spec, works⟩ := system.container.works_of_not_hasFinished unfinished
            rw [container]
            exact system.container.not_single_spawnAll works
              (tended.registered spec works.mem_specs)

/-! ### Other steps -/

variable (system)

theorem continues_stepLoop {number : Nat} {loop : ListenerLoop}
    (present : system.container.loops[number]? = some loop) :
    system.container.Continues (system.stepLoop number loop).container where
  working := fun place spec works => by
    refine Container.Works.of_advance works present fun stopped => ?_
    rw [stopped]
  running := rfl
  specs := Container.specs_changeLoops _ _ fun _ => rfl
  registered := fun _ => id
  distinct := id

/-- What is not a step of a call lets loops end at most, and leaves the calls there are. -/
theorem continues_perform {act : Act} (free : ∀ number, act ≠ .step (.call number)) :
    system.container.Continues (system.perform act).container ∧
      ∃ made, (system.perform act).calls = system.calls ++ made := by
  have same := system.container.continues_refl
  have unmade : ∃ made, system.calls = system.calls ++ made := ⟨[], (List.append_nil _).symm⟩
  have spared {after : System} (spares : system.Spares after) :
      system.container.Continues after.container ∧ ∃ made, after.calls = system.calls ++ made :=
    ⟨spares.container ▸ same, spares.calls⟩
  cases act with
  | pass | others => exact ⟨same, unmade⟩
  | call call => exact ⟨same, [call], rfl⟩
  | start => exact spared system.spares_startMonitor
  | stop =>
    dsimp only [perform, stopMonitor]
    cases system.monitor.slot <;> exact ⟨same, unmade⟩
  | step task =>
    dsimp only [perform, step]
    cases task with
    | call number => exact absurd rfl (free number)
    | probe number =>
      dsimp only
      cases system.probes[number]? with
      | none => exact ⟨same, unmade⟩
      | some probe => exact spared (system.spares_stepProbe number probe)
    | loop number =>
      dsimp only
      cases present : system.container.loops[number]? with
      | none => exact ⟨same, unmade⟩
      | some loop =>
        dsimp only
        split
        · exact ⟨same, unmade⟩
        · exact ⟨system.continues_stepLoop present, unmade⟩
    | bridge =>
      dsimp only [stepBridge]
      cases system.bridge with
      | absent => exact ⟨same, unmade⟩
      | waiting =>
        dsimp only
        cases system.pipeline.signal.take? <;> exact ⟨same, unmade⟩
      | holding event =>
        dsimp only
        rw [startMonitor_bridge]
        obtain ⟨continues, made⟩ := spared system.spares_startMonitor
        exact ⟨continues, made⟩

variable {system}

theorem Tended.perform (tended : system.Tended) (act : Act) : (system.perform act).Tended := by
  by_cases call : ∃ number, act = .step (.call number)
  · obtain ⟨number, rfl⟩ := call
    dsimp only [System.perform, step]
    cases present : system.calls[number]? with
    | none => exact tended
    | some call => exact tended.stepCall present
  · obtain ⟨continues, made, calls⟩ :=
      system.continues_perform fun number same => call ⟨number, same⟩
    refine tended.continue continues fun loop spec _ awaits => ?_
    rw [awaited, calls, List.flatMap_append]
    exact List.mem_append_left _ awaits

theorem Tended.single_perform (tended : system.Tended) (single : system.container.Single)
    {act : Act} (patient : ¬ system.Hastens act) : (system.perform act).container.Single := by
  by_cases call : ∃ number, act = .step (.call number)
  · obtain ⟨number, rfl⟩ := call
    dsimp only [System.perform, step]
    cases present : system.calls[number]? with
    | none => exact single
    | some call => exact tended.single_stepCall single present patient
  · exact single.of_working
      (system.continues_perform fun number same => call ⟨number, same⟩).1.working

/-! ### Runs -/

/-- The system after several things were done to it. -/
def through (system : System) (acts : List Act) : System :=
  acts.foldl System.perform system

theorem through_take_succ {acts : List Act} {count : Nat} {act : Act}
    (next : acts[count]? = some act) (system : System) :
    system.through (acts.take (count + 1)) =
      (system.through (acts.take count)).perform act := by
  rw [through, List.take_add_one, next, Option.toList_some, List.foldl_append]
  rfl

theorem Tended.through (tended : system.Tended) (acts : List Act) :
    (system.through acts).Tended := by
  induction acts generalizing system with
  | nil => exact tended
  | cons act rest inductionHypothesis => exact inductionHypothesis (tended.perform act)

theorem tended_of_unspawned (distinct : system.container.registered.Nodup)
    (unspawned : system.container.loops = []) : system.Tended := by
  refine ⟨distinct, fun spec member => ?_, fun number spec works => ?_⟩
  · rw [Container.specs, unspawned] at member
    exact absurd member List.not_mem_nil
  · obtain ⟨loop, present, _⟩ := works
    rw [unspawned] at present
    cases present

/-- In every run of a system that begins without loops: at all times those that have not ended are
of different listeners, exactly if no call ever spawns loops while another one waits for a loop that
has not ended. -/
theorem single_iff_patient (start : System) (distinct : start.container.registered.Nodup)
    (unspawned : start.container.loops = []) (acts : List Act) :
    (∀ count, (start.through (acts.take count)).container.Single) ↔
      ∀ count act, acts[count]? = some act →
        ¬ (start.through (acts.take count)).Hastens act := by
  have tended := tended_of_unspawned distinct unspawned
  constructor
  · intro single count act next hastens
    refine (tended.through (acts.take count)).not_single hastens ?_
    rw [← through_take_succ next]
    exact single (count + 1)
  · intro patient count
    induction count with
    | zero =>
      intro first second spec ⟨loop, present, _⟩
      rw [List.take_zero, through, List.foldl_nil, unspawned] at present
      cases present
    | succ count inductionHypothesis =>
      cases next : acts[count]? with
      | none =>
        have ended := List.getElem?_eq_none_iff.mp next
        rw [List.take_of_length_le (Nat.le_succ_of_le ended), ← List.take_of_length_le ended]
        exact inductionHypothesis
      | some act =>
        rw [through_take_succ next]
        exact (tended.through (acts.take count)).single_perform inductionHypothesis
          (patient count act next)

end System

/-! ### A loop that is still busy -/

/-- A listener whose handler takes a second for the first record. -/
def staffed : System where
  pipeline :=
    { service := ⟨Streams.Store.empty.after [.appendWithId "orders" ⟨6, 0⟩ [],
        .createGroup "orders" "audit", .appendWithId "orders" ⟨7, 0⟩ [("type", "ACCESS")]], []⟩
      archive := .empty .memory
      wall := ⟨0, 0⟩
      handlers := Table.empty.set .access .rehearsed
      script := [.pause 1000] }
  settings := {}
  period := 1
  container := { registered := [⟨"orders", "audit", "worker"⟩] }

/-- The container is started, its loop comes to the handler, and the container is stopped, which has
to wait. -/
def busyStop : List Act :=
  [.call .start, .step (.call 0)] ++ List.replicate 6 (.step (.loop 0)) ++
    [.call .stop, .step (.call 1)]

/-- The container is started again when the loop has ended. -/
def patientStart : List Act :=
  busyStop ++ [.pass 1000] ++ List.replicate 5 (.step (.loop 0)) ++
    [.step (.call 1), .call .start, .step (.call 2)]

theorem patientStart_stays_single :
    staffed.container.registered.Nodup ∧ staffed.container.loops = [] ∧
      (staffed.through patientStart).container.loops.map ListenerLoop.isFinished = [true, false] ∧
      ∀ count, (staffed.through (patientStart.take count)).container.Single := by
  have patient : ∀ count, (bound : count < patientStart.length) →
      ¬ (staffed.through (patientStart.take count)).Hastens patientStart[count] := by
    decide +kernel
  have distinct : staffed.container.registered.Nodup := by decide
  refine ⟨distinct, rfl, rfl, (System.single_iff_patient staffed distinct rfl patientStart).mpr ?_⟩
  intro count act next
  obtain ⟨bound, rfl⟩ := List.getElem?_eq_some_iff.mp next
  exact patient count bound

/-- The container is started again at once. -/
def hastyStart : List Act :=
  busyStop ++ [.call .start, .step (.call 2)]

/-- The loop of the handler at work, asked to shut down, is then one of two of its listener. -/
theorem hastyStart_doubles_loop :
    (∃ next record rest tombstones, (staffed.through hastyStart).container.loops =
      [⟨⟨"orders", "audit", "worker"⟩,
        .dispatching next record (.pausing .access 1000) rest tombstones, true, false⟩,
        { spec := ⟨"orders", "audit", "worker"⟩ }]) ∧
      ¬ (staffed.through hastyStart).container.Single := by
  refine ⟨⟨_, _, _, _, rfl⟩, fun single => ?_⟩
  have first : (staffed.through hastyStart).container.Works 0 ⟨"orders", "audit", "worker"⟩ :=
    ⟨_, rfl, rfl, rfl⟩
  have second : (staffed.through hastyStart).container.Works 1 ⟨"orders", "audit", "worker"⟩ :=
    ⟨_, rfl, rfl, rfl⟩
  exact absurd (single 0 1 _ first second) (by decide)

end AccessFeed
