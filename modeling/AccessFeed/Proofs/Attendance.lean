/-
This file proves that no listener dies unnoticed.

A loop that meets a critical error signals it as it ends. The event waits until
the bridge takes it, and the bridge starts the monitor for it. From then on the
monitor is at work until its restart has spawned a loop for every registered
listener: a restart lets go of the loops there are and spawns new ones later on,
unless somebody else did so in the meantime. A loop that fails after that
signals again, and the monitor is started again before it can become idle.
-/

import AccessFeed.Proofs.Listeners
import AccessFeed.Proofs.Recoveries

namespace AccessFeed

open Streams (Record StoreError)

/-! ### Signals of listeners -/

theorem Dispatch.signal_step (group : String) (record : Record) (now : Nat) (pipeline : Pipeline)
    (dispatch : DispatchPhase) :
    (step group record now dispatch pipeline).2.signal = pipeline.signal := by
  by_cases acknowledging : dispatch = .acknowledging
  · subst acknowledging
    show (acknowledge group record pipeline).2.signal = pipeline.signal
    dsimp only [acknowledge, Pipeline.ask]
    obtain ⟨answer, service⟩ := pipeline.service.acknowledge record.stream group [record.id]
    cases answer <;> rfl
  · exact (spares_step group record now pipeline acknowledging).1.signal

theorem Pipeline.signal_emit (pipeline : Pipeline) (event : CriticalEvent) :
    (pipeline.emit event).signal = (pipeline.signal.emit? event).getD pipeline.signal := by
  rw [emit]
  cases pipeline.signal.emit? event <;> rfl

namespace Listener

variable (settings : ListenerSettings) (spec : ListenerSpec) (shutdown : Bool) (now : Nat)
  (pipeline : Pipeline)

/-- A step of a listener leaves the signal alone, or it meets a critical error, which it signals as
it ends. -/
theorem signal_cases (phase : ListenerPhase) :
    (criticalError? settings spec shutdown phase pipeline = none ∧
      (step settings spec shutdown now phase pipeline).2.signal = pipeline.signal) ∨
    ∃ error, criticalError? settings spec shutdown phase pipeline = some error ∧
      (step settings spec shutdown now phase pipeline).1 = .stopping ∧
      (step settings spec shutdown now phase pipeline).2.signal =
        (pipeline.signal.emit? ⟨spec, error⟩).getD pipeline.signal := by
  cases phase with
  | starting | delivering | stopping | stopped => exact Or.inl ⟨rfl, rfl⟩
  | reading offset =>
    cases shutdown with
    | true => exact Or.inl ⟨rfl, rfl⟩
    | false =>
      dsimp only [criticalError?, step, read, Pipeline.ask]
      rw [if_neg Bool.false_ne_true, if_neg Bool.false_ne_true]
      obtain ⟨answer, service⟩ := pipeline.service.readGroup spec.stream spec.group
        spec.consumer offset settings.readCount
      cases answer with
      | ok batch =>
        cases batch with
        | nil => cases offset <;> exact Or.inl ⟨rfl, rfl⟩
        | cons => exact Or.inl ⟨rfl, rfl⟩
      | error error =>
        dsimp only [Pipeline.cancelOnError]
        by_cases critical : error.isCritical = true
        · rw [if_pos critical, if_pos critical]
          exact Or.inr ⟨error, rfl, rfl, Pipeline.signal_emit _ _⟩
        · rw [if_neg critical, if_neg critical]
          exact Or.inl ⟨rfl, rfl⟩
  | dispatching next record dispatch rest tombstones =>
    refine Or.inl ⟨rfl, ?_⟩
    rw [pipeline_step_dispatching]
    exact Dispatch.signal_step _ _ _ _ _
  | sweeping next tombstones =>
    refine Or.inl ⟨rfl, ?_⟩
    show (pipeline.dropTombstones spec tombstones).signal = _
    dsimp only [Pipeline.dropTombstones, Pipeline.ask]
    obtain ⟨answer, service⟩ :=
      pipeline.service.acknowledge spec.stream spec.group tombstones
    cases answer <;> rfl
  | idle offset until_ =>
    refine Or.inl ⟨rfl, ?_⟩
    dsimp only [step]
    split
    · rfl
    · split <;> rfl

end Listener

theorem CriticalSignal.emit?_of_heard {signal : CriticalSignal} (heard : signal ≠ .unheard)
    (event : CriticalEvent) : ∃ left, signal.emit? event = some left ∧ left ≠ .unheard ∧
      left.events = signal.events ++ [event] := by
  cases signal with
  | unheard => exact absurd rfl heard
  | queued events => exact ⟨_, rfl, by simp, rfl⟩

theorem CriticalSignal.of_take? {signal left : CriticalSignal} {event : CriticalEvent}
    (taken : signal.take? = some (event, left)) :
    left ≠ .unheard ∧ signal.events = event :: left.events := by
  cases signal with
  | unheard => cases taken
  | queued events =>
    cases events with
    | nil => cases taken
    | cons first rest =>
      cases taken
      exact ⟨by simp, rfl⟩

/-! ### Calls that control the container -/

/-- The listeners of all loops ever spawned. -/
def Container.specs (container : Container) : List ListenerSpec :=
  container.loops.map ListenerLoop.spec

/-- What a change leaves alone of every loop stays as it was. -/
theorem Container.map_changeLoops {Value : Type} (container : Container) (numbers : List Nat)
    {change : ListenerLoop → ListenerLoop} {view : ListenerLoop → Value}
    (same : ∀ loop, view (change loop) = view loop) :
    (container.changeLoops numbers change).loops.map view = container.loops.map view := by
  have once : ∀ (loops : List ListenerLoop) (number : Nat),
      (loops.modify number change).map view = loops.map view := by
    intro loops number
    refine List.ext_getElem? fun place => ?_
    rw [List.getElem?_map, List.getElem?_map, List.getElem?_modify]
    cases loops[place]? with
    | none => rfl
    | some loop =>
      show some (view (if number = place then change loop else loop)) = some (view loop)
      split
      · rw [same]
      · rfl
  show List.map view (List.foldl _ _ _) = List.map view _
  generalize container.loops = loops
  induction numbers generalizing loops with
  | nil => rfl
  | cons number rest inductionHypothesis =>
    rw [List.foldl_cons, inductionHypothesis, once]

theorem Container.specs_changeLoops (container : Container) (numbers : List Nat)
    {change : ListenerLoop → ListenerLoop} (same : ∀ loop, (change loop).spec = loop.spec) :
    (container.changeLoops numbers change).specs = container.specs :=
  container.map_changeLoops numbers same

/-- Ensuring a group works on nothing but the streams. -/
theorem EnsurePhase.exists_service (stream group : String) (phase : EnsurePhase)
    (pipeline : Pipeline) :
    ∃ service, (phase.step stream group pipeline).2 = { pipeline with service } := by
  cases phase with
  | checking | seeding | listing | creating =>
    dsimp only [step, Pipeline.ask]
    split <;>
      rename_i answered <;>
      exact ⟨_, (congrArg Prod.snd answered).symm⟩
  | finished => exact ⟨pipeline.service, rfl⟩

namespace Control

/-- Ensuring a group emits no shutdown and counts nothing. -/
theorem ensure_spares (set : Settings.ConsumerSet) (message : String) (phase : EnsurePhase)
    (pipeline : Pipeline) :
    (ensure set message phase pipeline).2.signal = pipeline.signal ∧
      (ensure set message phase pipeline).2.metrics = pipeline.metrics := by
  obtain ⟨service, stepped⟩ := EnsurePhase.exists_service set.stream set.group phase pipeline
  have signal : (phase.step set.stream set.group pipeline).2.signal = pipeline.signal := by
    rw [stepped]
  have metrics : (phase.step set.stream set.group pipeline).2.metrics = pipeline.metrics := by
    rw [stepped]
  cases phase with
  | checking | seeding | listing | creating => exact ⟨signal, metrics⟩
  | finished result => cases result <;> exact ⟨rfl, rfl⟩

/-- Aborting loops changes nothing else. -/
theorem abortAll_spares (numbers : List Nat) (scope : Scope) :
    (abortAll numbers scope).container.specs = scope.container.specs ∧
      (abortAll numbers scope).container.running = scope.container.running ∧
      (abortAll numbers scope).container.registered = scope.container.registered ∧
      (abortAll numbers scope).pipeline.signal = scope.pipeline.signal := by
  induction numbers generalizing scope with
  | nil => exact ⟨rfl, rfl, rfl, rfl⟩
  | cons number rest inductionHypothesis =>
    rw [abortAll]
    split
    · exact inductionHypothesis scope
    · obtain ⟨specs, running, registered, signal⟩ := inductionHypothesis
        { container := scope.container.changeLoops [number] fun loop =>
            { loop with aborted := true }
          pipeline := scope.pipeline.warn "Listener did not stop in time, aborting" }
      exact ⟨specs.trans (scope.container.specs_changeLoops [number] fun _ => rfl), running,
        registered, signal⟩

end Control

/-- What becomes of the container when an action of a call is taken: all loops are spawned anew, or
none is. -/
inductive ControlTurn (before : Container) : ControlAction → Container → Prop
  | launched (idle : before.running = none) : ControlTurn before .launch before.spawnAll
  | kept {action : ControlAction} {after : Container} (specs : after.specs = before.specs)
      (registered : ∀ spec ∈ before.registered, spec ∈ after.registered)
      (idle : before.running = none ∨ action = .halt → after.running = none)
      (busy : action = .launch → before.running ≠ none) : ControlTurn before action after

theorem Container.registered_register (container : Container) (spec : ListenerSpec) :
    (∀ other ∈ container.registered, other ∈ (container.register spec).registered) ∧
      (container.register spec).specs = container.specs ∧
      (container.register spec).running = container.running := by
  rw [register]
  split
  · exact ⟨fun _ => id, rfl, rfl⟩
  · exact ⟨fun _ member => List.mem_append_left _ member, rfl, rfl⟩

/-- Registering listeners leaves the loops alone. -/
theorem Container.registered_registerSet (container : Container) (set : Settings.ConsumerSet) :
    (∀ other ∈ container.registered, other ∈ (container.registerSet set).registered) ∧
      (container.registerSet set).specs = container.specs ∧
      (container.registerSet set).running = container.running := by
  rw [registerSet]
  generalize listenersOf set = listeners
  induction listeners generalizing container with
  | nil => exact ⟨fun _ => id, rfl, rfl⟩
  | cons spec rest inductionHypothesis =>
    obtain ⟨kept, specs, running⟩ := container.registered_register spec
    obtain ⟨later, same, still⟩ := inductionHypothesis (container.register spec)
    exact ⟨fun other member => later other (kept other member), same.trans specs,
      still.trans running⟩

namespace Control

variable (grace now : Nat) (scope : Scope)

/-- An action of a call changes the container in one of these ways, and the signal in none. -/
theorem turn_act (action : ControlAction) :
    ControlTurn scope.container action (act grace now scope action).2.container ∧
      (act grace now scope action).2.pipeline.signal = scope.pipeline.signal := by
  have aside : ∀ {after : Container}, after.specs = scope.container.specs →
      (∀ spec ∈ scope.container.registered, spec ∈ after.registered) →
      after.running = scope.container.running → action ≠ .halt → action ≠ .launch →
      ControlTurn scope.container action after := fun specs registered running noHalt noLaunch =>
    .kept specs registered (fun idle => running.trans (idle.resolve_right noHalt))
      fun launch => absurd launch noLaunch
  have same := aside rfl (fun _ => id) rfl
  cases action with
  | register set phase =>
    dsimp only [act]
    have signal :=
      (ensure_spares set "Failed to ensure consumer group" phase scope.pipeline).1
    generalize ensure set _ phase scope.pipeline = ensured at signal ⊢
    obtain ⟨_ | phase, pipeline⟩ := ensured
    · obtain ⟨registered, specs, running⟩ := scope.container.registered_registerSet set
      exact ⟨aside specs registered running (by simp) (by simp), signal⟩
    · exact ⟨same (by simp) (by simp), signal⟩
  | ensure set phase =>
    dsimp only [act]
    have signal :=
      (ensure_spares set "Failed to ensure consumer group on restart" phase scope.pipeline).1
    generalize ensure set _ phase scope.pipeline = ensured at signal ⊢
    obtain ⟨_ | phase, pipeline⟩ := ensured <;> exact ⟨same (by simp) (by simp), signal⟩
  | launch =>
    dsimp only [act, launch]
    cases running : scope.container.running with
    | some numbers =>
      refine ⟨.kept rfl (fun _ => id) (fun idle => ?_) fun _ => by rw [running]; simp, rfl⟩
      exact idle.resolve_right (by simp)
    | none =>
      refine ⟨.launched running, ?_⟩
      show (ite _ _ _ : Pipeline).signal = _
      split <;> rfl
  | halt =>
    dsimp only [act]
    cases running : scope.container.running with
    | none => exact ⟨.kept rfl (fun _ => id) (fun _ => running) (by simp), rfl⟩
    | some numbers =>
      exact ⟨.kept (Container.specs_changeLoops _ _ fun _ => rfl) (fun _ => id) (fun _ => rfl)
        (by simp), rfl⟩
  | drain numbers deadline =>
    dsimp only [act]
    split
    · exact ⟨same (by simp) (by simp), rfl⟩
    · split
      · obtain ⟨specs, running, registered, signal⟩ := abortAll_spares numbers scope
        exact ⟨aside specs (fun _ member => registered ▸ member) running (by simp) (by simp),
          signal⟩
      · exact ⟨same (by simp) (by simp), rfl⟩
  | rest millis => exact ⟨same (by simp) (by simp), rfl⟩
  | resting until_ =>
    dsimp only [act]
    split <;> exact ⟨same (by simp) (by simp), rfl⟩

end Control

/-! ### What the monitor leaves alone -/

theorem Pipeline.signal_probeCluster (pipeline : Pipeline) :
    pipeline.probeCluster.2.signal = pipeline.signal := by
  dsimp only [probeCluster, ask]
  obtain ⟨answer, service⟩ := pipeline.service.clusterState
  cases answer <;> rfl

theorem Pipeline.signal_probeStream (pipeline : Pipeline) (stream : String) :
    (pipeline.probeStream stream).2.signal = pipeline.signal := by
  dsimp only [probeStream, ask]
  obtain ⟨answer, service⟩ := pipeline.service.range stream .least .greatest 1
  cases answer <;> rfl

namespace System

/-- Whether the container, the signal and the bridge are as they were, and so are the calls but for
those made since. -/
structure Spares (before after : System) : Prop where
  container : after.container = before.container
  signal : after.pipeline.signal = before.pipeline.signal
  bridge : after.bridge = before.bridge
  unrehearsed : before.rehearsal = none → after.rehearsal = none
  calls : ∃ made, after.calls = before.calls ++ made

variable (system : System)

theorem spares_refl : system.Spares system :=
  ⟨rfl, rfl, rfl, id, [], (List.append_nil _).symm⟩

theorem spares_startMonitor : system.Spares system.startMonitor := by
  rw [startMonitor, Monitor.start]
  cases system.monitor.slot <;> exact ⟨rfl, rfl, rfl, id, [], (List.append_nil _).symm⟩

theorem spares_stepProbe (number : Nat) (probe : ProbeTask) :
    system.Spares (system.stepProbe number probe) := by
  have unmade : system.calls = system.calls ++ [] := (List.append_nil _).symm
  rw [stepProbe]
  cases probe.phase with
  | starting | ended => exact ⟨rfl, rfl, rfl, id, [], unmade⟩
  | noting => exact ⟨rfl, rfl, rfl, id, [system.restartCall], rfl⟩
  | reading due cluster =>
    exact ⟨rfl, system.pipeline.signal_probeStream _, rfl, id, [], unmade⟩
  | waiting due =>
    dsimp only
    split
    · rw [beginProbe]
      cases rehearsal : system.rehearsal with
      | none => exact ⟨rfl, system.pipeline.signal_probeCluster, rfl, fun _ => rfl, [], unmade⟩
      | some reports =>
        refine ⟨rfl, rfl, rfl, fun impossible => ?_, [], unmade⟩
        rw [rehearsal] at impossible
        cases impossible
    · exact system.spares_refl
  | judging due report =>
    dsimp only
    rw [judge]
    split
    · split <;> exact ⟨rfl, rfl, rfl, id, [], unmade⟩
    · exact ⟨rfl, rfl, rfl, id, [], unmade⟩
  | restarting call =>
    dsimp only
    split
    · exact ⟨rfl, rfl, rfl, id, [], unmade⟩
    · exact system.spares_refl
  | concluding =>
    dsimp only
    rw [concludeProbe]
    generalize system.monitor.conclude probe.generation = concluded
    obtain ⟨effect, monitor⟩ := concluded
    cases effect <;> exact ⟨rfl, rfl, rfl, id, [], unmade⟩

/-! ### Listeners that are lost -/

/-- Whether a critical error of a listener waits to be taken, or was just taken, by the bridge. -/
def Noticed (spec : ListenerSpec) : Prop :=
  (∃ event ∈ system.pipeline.signal.events, event.listener = spec) ∨
    ∃ event, system.bridge = .holding event ∧ event.listener = spec

/-- Whether a call is going to spawn the loops anew: it has not let go of them yet, or nobody has
spawned any since. -/
def WillLaunch (number : Nat) : Prop :=
  ∃ call : ControlCall, system.calls[number]? = some call ∧ .launch ∈ call ∧
    (call.head? = some .halt ∨ system.container.running = none)

/-- Whether the monitor will have the loops spawned anew. -/
def WillRecover : Prop :=
  Recovers system.monitor system.probes fun _ call => system.WillLaunch call

end System

theorem System.WillLaunch.not_returned {system : System} {number : Nat}
    (launching : system.WillLaunch number) : system.hasReturned number ≠ true := by
  obtain ⟨call, present, launch, _⟩ := launching
  rw [System.hasReturned, present]
  cases call with
  | nil => exact absurd launch List.not_mem_nil
  | cons => exact Bool.false_ne_true

namespace Chronicle

/-- Whether a loop failed and its listener has had no other loop since. -/
structure Lost (chronicle : Chronicle) (number : Nat) (spec : ListenerSpec) : Prop where
  failed : .failed number ∈ chronicle.log
  present : chronicle.system.container.specs[number]? = some spec
  latest : ∀ later, number < later → chronicle.system.container.specs[later]? ≠ some spec

/-- What holds of the listeners at any time as long as nobody stops the monitor. -/
structure Attended (chronicle : Chronicle) : Prop where
  heard : chronicle.system.pipeline.signal ≠ .unheard
  unrehearsed : chronicle.system.rehearsal = none
  registered : ∀ spec ∈ chronicle.system.container.specs,
    spec ∈ chronicle.system.container.registered
  spawned : ∀ number, .failed number ∈ chronicle.log →
    number < chronicle.system.container.specs.length
  attended : ∀ number spec, chronicle.Lost number spec →
    chronicle.system.Noticed spec ∨ chronicle.system.WillRecover

namespace Attended

variable {chronicle : Chronicle} {done : List Moment} {after : System}

/-- A change that spawns no loops, forgets no event, and leaves the calls on their way. -/
theorem carry (attended : chronicle.Attended)
    (numbered : Numbered chronicle.system.monitor chronicle.system.probes)
    (turn : Turn chronicle.system done after.monitor after.probes) (unstopped : .stopped ∉ done)
    (heard : after.pipeline.signal ≠ .unheard) (unrehearsed : after.rehearsal = none)
    (specs : after.container.specs = chronicle.system.container.specs)
    (registered : ∀ spec ∈ chronicle.system.container.registered,
      spec ∈ after.container.registered)
    (noticed : ∀ spec, chronicle.system.Noticed spec → after.Noticed spec)
    (launching : ∀ call, chronicle.system.WillLaunch call → after.WillLaunch call)
    (begins : ∀ number, .began number ∈ done →
      after.WillLaunch chronicle.system.calls.length)
    (fails : ∀ number, .failed number ∈ done →
      ∃ spec, after.container.specs[number]? = some spec ∧ after.Noticed spec) :
    Attended ⟨after, done ++ chronicle.log⟩ where
  heard := heard
  unrehearsed := unrehearsed
  registered := fun spec member => registered spec (attended.registered spec (specs ▸ member))
  spawned := by
    intro number failed
    rcases List.mem_append.mp failed with new | old
    · obtain ⟨_, present, _⟩ := fails number new
      exact (List.getElem?_eq_some_iff.mp present).1
    · exact specs ▸ attended.spawned number old
  attended := by
    rintro number spec ⟨failed, present, latest⟩
    rcases List.mem_append.mp failed with new | old
    · obtain ⟨found, listed, noticed⟩ := fails number new
      obtain rfl := Option.some.inj (present.symm.trans listed)
      exact Or.inl noticed
    · have lost : chronicle.Lost number spec :=
        ⟨old, specs ▸ present, fun later behind => specs ▸ latest later behind⟩
      rcases attended.attended number spec lost with waiting | recovers
      · exact Or.inl (noticed spec waiting)
      · rcases Recovers.turn recovers numbered turn unstopped
          (fun _ call => launching call) begins with still | ⟨_, call, _, _, _, stage, returned⟩
        · exact Or.inr still
        · exact absurd returned stage.not_returned

/-- A change at which nothing happens. -/
theorem carry_nothing (attended : chronicle.Attended)
    (numbered : Numbered chronicle.system.monitor chronicle.system.probes)
    (turn : Turn chronicle.system [] after.monitor after.probes)
    (heard : after.pipeline.signal ≠ .unheard) (unrehearsed : after.rehearsal = none)
    (specs : after.container.specs = chronicle.system.container.specs)
    (registered : ∀ spec ∈ chronicle.system.container.registered,
      spec ∈ after.container.registered)
    (noticed : ∀ spec, chronicle.system.Noticed spec → after.Noticed spec)
    (launching : ∀ call, chronicle.system.WillLaunch call → after.WillLaunch call) :
    Attended ⟨after, [] ++ chronicle.log⟩ :=
  attended.carry numbered turn List.not_mem_nil heard unrehearsed specs registered noticed
    launching (fun _ never => absurd never List.not_mem_nil)
    fun _ never => absurd never List.not_mem_nil

/-- A change that leaves the container, the signal and the bridge alone. -/
theorem spares (attended : chronicle.Attended)
    (numbered : Numbered chronicle.system.monitor chronicle.system.probes)
    (spares : chronicle.system.Spares after)
    (turn : Turn chronicle.system done after.monitor after.probes) (unstopped : .stopped ∉ done)
    (begins : ∀ number, .began number ∈ done → after.WillLaunch chronicle.system.calls.length)
    (fails : ∀ number, .failed number ∉ done) : Attended ⟨after, done ++ chronicle.log⟩ := by
  refine attended.carry numbered turn unstopped (spares.signal ▸ attended.heard)
    (spares.unrehearsed attended.unrehearsed) (by rw [spares.container])
    (by rw [spares.container]; exact fun _ => id) (fun spec noticed => ?_) (fun call => ?_)
    begins (fun number failed => absurd failed (fails number))
  · rw [System.Noticed, spares.signal, spares.bridge]
    exact noticed
  · rintro ⟨actions, present, launch, stage⟩
    obtain ⟨made, calls⟩ := spares.calls
    refine ⟨actions, ?_, launch, spares.container ▸ stage⟩
    rw [calls, List.getElem?_append_left (List.getElem?_eq_some_iff.mp present).1]
    exact present

end Attended

end Chronicle

/-! ### Steps -/

namespace System

theorem mem_probeMoments {system : System} {number : Nat} {probe : ProbeTask} {moment : Moment}
    (member : moment ∈ system.probeMoments number probe) : moment.probe? = some number := by
  rw [probeMoments] at member
  cases phase : probe.phase with
  | starting | waiting | reading | concluding | ended =>
    rw [phase] at member
    exact absurd member List.not_mem_nil
  | judging | noting =>
    rw [phase] at member
    obtain rfl := List.mem_singleton.mp member
    rfl
  | restarting call =>
    rw [phase] at member
    dsimp only at member
    split at member
    · obtain rfl := List.mem_singleton.mp member
      rfl
    · exact absurd member List.not_mem_nil

/-- A restart that begins is going to spawn the loops anew. -/
theorem willLaunch_of_began {system : System} {number : Nat} {probe : ProbeTask}
    (present : system.probes[number]? = some probe) (unrehearsed : system.rehearsal = none)
    {other : Nat} (began : .began other ∈ system.probeMoments number probe) :
    (system.stepProbe number probe).WillLaunch system.calls.length := by
  obtain rfl : number = other := (Option.some.inj (mem_probeMoments began)).symm
  obtain ⟨found, there, noting⟩ := (system.turn_stepProbe present).of_began began
  obtain rfl := Option.some.inj (present.symm.trans there)
  rw [stepProbe, noting]
  refine ⟨system.restartCall, List.getElem?_concat_length, ?_, Or.inl ?_⟩ <;>
    rw [restartCall, unrehearsed]
  · exact List.mem_append_right _ (List.mem_singleton.mpr rfl)
  · rfl

end System

/-- A loop that fails met a critical error. -/
theorem System.mem_loopMoments (system : System) {number : Nat} {loop : ListenerLoop}
    {moment : Moment} (member : moment ∈ system.loopMoments number loop) :
    moment = .failed number ∧ ∃ error, Listener.criticalError? system.listenerSettings loop.spec
      loop.shutdown loop.phase system.pipeline = some error := by
  rw [loopMoments] at member
  split at member
  · rename_i error critical
    exact ⟨List.mem_singleton.mp member, error, critical⟩
  · exact absurd member List.not_mem_nil

namespace Chronicle

namespace Attended

variable {chronicle : Chronicle} (attended : chronicle.Attended)

include attended

/-- Once the loops are spawned anew no listener is lost. -/
theorem launched {after : System} (heard : after.pipeline.signal ≠ .unheard)
    (unrehearsed : after.rehearsal = none)
    (container : after.container = chronicle.system.container.spawnAll) :
    Attended ⟨after, chronicle.log⟩ := by
  have specs : after.container.specs =
      chronicle.system.container.specs ++ chronicle.system.container.registered := by
    rw [container]
    show List.map _ (_ ++ _) = List.map _ _ ++ _
    rw [List.map_append, List.map_map]
    exact congrArg _ (List.map_id _)
  have registered : after.container.registered = chronicle.system.container.registered := by
    rw [container]
    rfl
  refine ⟨heard, unrehearsed, fun spec member => ?_, fun number failed => ?_, ?_⟩
  · rw [specs] at member
    rw [registered]
    exact (List.mem_append.mp member).elim (attended.registered spec) id
  · rw [specs, List.length_append]
    exact Nat.lt_add_right _ (attended.spawned number failed)
  · rintro number spec ⟨failed, present, latest⟩
    have bound := attended.spawned number failed
    have present : chronicle.system.container.specs[number]? = some spec := by
      rw [← List.getElem?_append_left bound, ← specs]
      exact present
    obtain ⟨place, again⟩ := List.getElem?_of_mem
      (attended.registered spec (List.mem_of_getElem? present))
    refine absurd ?_ (latest (chronicle.system.container.specs.length + place)
      (Nat.lt_add_right _ bound))
    rw [specs, List.getElem?_append_right (Nat.le_add_right _ _), Nat.add_sub_cancel_left]
    exact again

variable (numbered : Numbered chronicle.system.monitor chronicle.system.probes)

include numbered

theorem aside {after : System} (spares : chronicle.system.Spares after)
    (turn : Turn chronicle.system [] after.monitor after.probes) :
    Attended ⟨after, [] ++ chronicle.log⟩ :=
  attended.spares numbered spares turn List.not_mem_nil
    (fun _ never => absurd never List.not_mem_nil) fun _ => List.not_mem_nil

theorem unchanged : Attended ⟨chronicle.system, [] ++ chronicle.log⟩ :=
  attended.aside numbered chronicle.system.spares_refl (.nothing _)

theorem startMonitor :
    Attended ⟨chronicle.system.startMonitor, [.started] ++ chronicle.log⟩ :=
  attended.spares numbered chronicle.system.spares_startMonitor chronicle.system.turn_startMonitor
    (by simp) (by simp) (by simp)

theorem stepProbe {number : Nat} {probe : ProbeTask}
    (present : chronicle.system.probes[number]? = some probe) :
    Attended ⟨chronicle.system.stepProbe number probe,
      chronicle.system.probeMoments number probe ++ chronicle.log⟩ := by
  refine attended.spares numbered (chronicle.system.spares_stepProbe number probe)
    (chronicle.system.turn_stepProbe present) (fun member => ?_)
    (fun _ => System.willLaunch_of_began present attended.unrehearsed) (fun _ member => ?_) <;>
    cases System.mem_probeMoments member

/-- A loop that fails is noticed at once. -/
theorem stepLoop {number : Nat} {loop : ListenerLoop}
    (present : chronicle.system.container.loops[number]? = some loop) :
    Attended ⟨chronicle.system.stepLoop number loop,
      chronicle.system.loopMoments number loop ++ chronicle.log⟩ := by
  have specs : (chronicle.system.stepLoop number loop).container.specs =
      chronicle.system.container.specs :=
    chronicle.system.container.specs_changeLoops [number] fun _ => rfl
  have mute : ∀ {moment : Moment}, moment ∈ chronicle.system.loopMoments number loop →
      moment = .failed number ∧ ∃ error, Listener.criticalError? chronicle.system.listenerSettings
        loop.spec loop.shutdown loop.phase chronicle.system.pipeline = some error :=
    fun member => chronicle.system.mem_loopMoments member
  have quiet : Turn chronicle.system (chronicle.system.loopMoments number loop)
      (chronicle.system.stepLoop number loop).monitor
      (chronicle.system.stepLoop number loop).probes := .quiet fun moment member =>
    ⟨number, (mute member).1⟩
  -- The events there were are still there, and the loop's own one if it fails.
  have signal : (chronicle.system.stepLoop number loop).pipeline.signal ≠ .unheard ∧
      (∀ event ∈ chronicle.system.pipeline.signal.events,
        event ∈ (chronicle.system.stepLoop number loop).pipeline.signal.events) ∧
      (.failed number ∈ chronicle.system.loopMoments number loop →
        ∃ event ∈ (chronicle.system.stepLoop number loop).pipeline.signal.events,
          event.listener = loop.spec) := by
    rcases Listener.signal_cases chronicle.system.listenerSettings loop.spec loop.shutdown
      chronicle.system.now chronicle.system.pipeline loop.phase with
      ⟨none, same⟩ | ⟨error, _, _, emitted⟩
    · have same : (chronicle.system.stepLoop number loop).pipeline.signal =
          chronicle.system.pipeline.signal := same
      rw [same]
      refine ⟨attended.heard, fun _ => id, fun failed => ?_⟩
      obtain ⟨_, error, critical⟩ := mute failed
      rw [none] at critical
      cases critical
    · obtain ⟨left, emit, heard, events⟩ :=
        CriticalSignal.emit?_of_heard attended.heard ⟨loop.spec, error⟩
      have emitted : (chronicle.system.stepLoop number loop).pipeline.signal = left := by
        rw [emit] at emitted
        exact emitted
      rw [emitted, events]
      exact ⟨heard, fun event member => List.mem_append_left _ member, fun _ =>
        ⟨_, List.mem_append_right _ (List.mem_singleton.mpr rfl), rfl⟩⟩
  obtain ⟨heard, kept, own⟩ := signal
  refine attended.carry numbered quiet (fun member => ?_) heard attended.unrehearsed specs
    (fun _ => id) (fun spec noticed => ?_) (fun call launching => launching)
    (fun other member => ?_) (fun other failed => ?_)
  · cases (mute member).1
  · exact noticed.imp_left fun ⟨event, member, same⟩ => ⟨event, kept event member, same⟩
  · cases (mute member).1
  · cases (mute failed).1
    refine ⟨loop.spec, ?_, Or.inl (own failed)⟩
    rw [specs, Container.specs, List.getElem?_map, present]
    rfl

/-- What the bridge takes it holds, and what it holds starts the monitor. -/
theorem stepBridge :
    Attended (chronicle.act (.step .bridge)) := by
  show Attended ⟨chronicle.system.stepBridge,
    chronicle.system.moments (.step .bridge) ++ chronicle.log⟩
  dsimp only [System.stepBridge, System.moments]
  cases bridge : chronicle.system.bridge with
  | absent => exact attended.unchanged numbered
  | waiting =>
    dsimp only
    cases taken : chronicle.system.pipeline.signal.take? with
    | none => exact attended.unchanged numbered
    | some pair =>
      obtain ⟨event, signal⟩ := pair
      obtain ⟨heard, events⟩ := CriticalSignal.of_take? taken
      refine attended.carry_nothing numbered (.nothing _) heard attended.unrehearsed rfl
        (fun _ => id) (fun spec noticed => ?_) fun call launching => launching
      rcases noticed with ⟨waiting, member, same⟩ | ⟨held, impossible, _⟩
      · rw [events] at member
        rcases List.mem_cons.mp member with rfl | later
        · exact Or.inr ⟨waiting, rfl, same⟩
        · exact Or.inl ⟨waiting, later, same⟩
      · rw [bridge] at impossible
        cases impossible
  | holding event =>
    dsimp only
    rw [System.startMonitor_bridge]
    obtain ⟨heard, unrehearsed, registered, spawned, _⟩ := attended.startMonitor numbered
    refine ⟨heard, unrehearsed, registered, spawned, fun _ _ _ => Or.inr ?_⟩
    exact chronicle.system.turn_startMonitor.recovers_of_started (List.mem_singleton.mpr rfl)

/-- An action of a call leaves those calls on their way that will spawn the loops anew, or it has
just done so. -/
theorem stepCall {number : Nat} {call : ControlCall}
    (present : chronicle.system.calls[number]? = some call) :
    Attended ⟨chronicle.system.stepCall number call, [] ++ chronicle.log⟩ := by
  obtain ⟨bound, listed⟩ := List.getElem?_eq_some_iff.mp present
  cases call with
  | nil =>
    have same : chronicle.system.calls.set number [] = chronicle.system.calls :=
      listed ▸ List.set_getElem_self bound
    show Attended ⟨{ chronicle.system with calls := chronicle.system.calls.set number [] }, _⟩
    rw [same]
    exact attended.unchanged numbered
  | cons action rest =>
    obtain ⟨turn, signal⟩ := Control.turn_act chronicle.system.settings.stopGrace
      chronicle.system.now ⟨chronicle.system.container, chronicle.system.pipeline⟩ action
    dsimp only [System.stepCall, Control.step]
    generalize Control.act _ _ _ action = acted at turn signal ⊢
    obtain ⟨actions, container, pipeline⟩ := acted
    dsimp only at turn signal ⊢
    have heard : pipeline.signal ≠ .unheard := signal ▸ attended.heard
    cases turn with
    | launched => exact attended.launched heard attended.unrehearsed rfl
    | kept specs registered idle busy =>
      refine attended.carry_nothing numbered (.nothing _) heard attended.unrehearsed specs
        registered (fun spec noticed => ?_) fun other => ?_
      · rw [System.Noticed] at noticed ⊢
        rw [signal]
        exact noticed
      · rintro ⟨call, there, launch, stage⟩
        by_cases own : number = other
        · subst own
          obtain rfl := Option.some.inj (present.symm.trans there)
          have still : container.running = none := idle <| stage.symm.imp_right fun halt =>
            Option.some.inj halt
          refine ⟨actions ++ rest, List.getElem?_set_self bound, ?_, Or.inr still⟩
          rcases List.mem_cons.mp launch with rfl | later
          · rcases stage with halt | unlaunched
            · cases halt
            · exact absurd unlaunched (busy rfl)
          · exact List.mem_append_right _ later
        · exact ⟨call, (List.getElem?_set_ne own).trans there, launch,
            stage.imp_right fun unlaunched => idle (Or.inl unlaunched)⟩

/-- Whatever is done, but for stopping the monitor, no listener that failed is forgotten. -/
theorem act (act : Act) (unstopped : .stopped ∉ chronicle.system.moments act) :
    (chronicle.act act).Attended := by
  cases act with
  | stop => exact absurd (List.mem_singleton.mpr rfl) unstopped
  | start => exact attended.startMonitor numbered
  | call call => exact attended.aside numbered ⟨rfl, rfl, rfl, id, [call], rfl⟩ (.nothing _)
  | pass | others =>
    exact attended.aside numbered ⟨rfl, rfl, rfl, id, [], (List.append_nil _).symm⟩ (.nothing _)
  | step task =>
    cases task with
    | bridge => exact attended.stepBridge numbered
    | call number =>
      dsimp only [Chronicle.act, System.perform, System.step, System.moments]
      cases present : chronicle.system.calls[number]? with
      | none => exact attended.unchanged numbered
      | some call => exact attended.stepCall numbered present
    | probe number =>
      dsimp only [Chronicle.act, System.perform, System.step, System.moments]
      cases present : chronicle.system.probes[number]? with
      | none => exact attended.unchanged numbered
      | some probe => exact attended.stepProbe numbered present
    | loop number =>
      dsimp only [Chronicle.act, System.perform, System.step, System.moments]
      cases present : chronicle.system.container.loops[number]? with
      | none => exact attended.unchanged numbered
      | some loop =>
        dsimp only
        split
        · exact attended.unchanged numbered
        · exact attended.stepLoop numbered present

end Attended

variable {start : System} {chronicle : Chronicle}

theorem Reached.attended (reached : Reached start chronicle) (fresh : start.Unmonitored)
    (heard : start.pipeline.signal ≠ .unheard) (unrehearsed : start.rehearsal = none)
    (unspawned : start.container.loops = []) (unstopped : .stopped ∉ chronicle.log) :
    chronicle.Attended := by
  induction reached with
  | start =>
    refine ⟨heard, unrehearsed, fun spec member => ?_, fun _ never => ?_, fun _ _ lost => ?_⟩
    · rw [Container.specs, unspawned] at member
      exact absurd member List.not_mem_nil
    · exact absurd never List.not_mem_nil
    · exact absurd lost.failed List.not_mem_nil
  | @act chronicle reached act inductionHypothesis =>
    have before : .stopped ∉ chronicle.log := fun member =>
      unstopped (List.mem_append_right _ member)
    exact (inductionHypothesis before).act (reached.watched fresh).numbered act fun member =>
      unstopped (List.mem_append_left _ member)

/-- In every run of the system in which the monitor is not stopped: if a loop failed, and its
listener has had no other loop since, then a critical error of that listener waits to be taken, or
is held, by the bridge, or the monitor is monitoring or restarting. -/
theorem Reached.failure_is_noticed (reached : Reached start chronicle)
    (fresh : start.Unmonitored) (heard : start.pipeline.signal ≠ .unheard)
    (unrehearsed : start.rehearsal = none) (unspawned : start.container.loops = [])
    (unstopped : .stopped ∉ chronicle.log) {number : Nat} {loop : ListenerLoop}
    (failed : .failed number ∈ chronicle.log)
    (present : chronicle.system.container.loops[number]? = some loop)
    (latest : ∀ later ∈ chronicle.system.container.loops.drop (number + 1),
      later.spec ≠ loop.spec) :
    (∃ event ∈ chronicle.system.pipeline.signal.events, event.listener = loop.spec) ∨
      (∃ event, chronicle.system.bridge = .holding event ∧ event.listener = loop.spec) ∨
      chronicle.system.monitor.state = .monitoring ∨
      chronicle.system.monitor.state = .restarting := by
  have lost : chronicle.Lost number loop.spec := by
    refine ⟨failed, ?_, fun later behind again => ?_⟩
    · rw [Container.specs, List.getElem?_map, present]
      rfl
    · rw [Container.specs, List.getElem?_map] at again
      obtain ⟨found, there, same⟩ := Option.map_eq_some_iff.mp again
      refine latest found (List.mem_of_getElem? (?_ : _[later - (number + 1)]? = _)) same
      rw [List.getElem?_drop, Nat.add_sub_cancel' behind]
      exact there
  rcases (reached.attended fresh heard unrehearsed unspawned unstopped).attended number loop.spec
    lost with (waiting | held) | recovers
  · exact Or.inl waiting
  · exact Or.inr (Or.inl held)
  · rcases recovers with ⟨_, slot⟩ | ⟨_, slot⟩ | ⟨_, _, _, slot, _⟩ <;>
      rw [Monitor.state, slot]
    · exact Or.inr (Or.inr (Or.inl rfl))
    · exact Or.inr (Or.inr (Or.inr rfl))
    · exact Or.inr (Or.inr (Or.inr rfl))

end Chronicle

/-! ### A listener that fails while others do -/

/-- Two listeners of a group that is not there, over a store that is healthy. -/
def crewed : System where
  pipeline :=
    { service := ⟨(Streams.Store.empty.append 0 "EVENT_STREAM" [("note", "kept")]).2, []⟩
      archive := .empty .memory
      wall := ⟨0, 0⟩ }
  settings := {}
  period := 1
  container := { registered := [⟨"EVENT_STREAM", "audit", "a"⟩, ⟨"EVENT_STREAM", "audit", "b"⟩] }
  bridge := .waiting

/-- The first listener fails, and the second one while the monitor is about to restart the
container, which lets go of both. -/
def halfway : Chronicle :=
  Chronicle.after ⟨crewed, []⟩
    [.call .start, .step (.call 0), .step (.loop 0), .step (.loop 0), .step .bridge, .step .bridge,
      .step (.probe 0), .pass 1, .step (.probe 0), .step (.probe 0), .step (.probe 0),
      .step (.loop 1), .step (.loop 1), .step (.probe 0), .step (.call 1)]

theorem halfway_failure_is_noticed :
    halfway.log = [.began 0, .failed 1, .judged 0 ⟨true, true, none⟩ true, .started, .failed 0] ∧
      halfway.system.container.running = none ∧
      ((∃ event ∈ halfway.system.pipeline.signal.events,
          event.listener = ⟨"EVENT_STREAM", "audit", "a"⟩) ∨
        (∃ event, halfway.system.bridge = .holding event ∧
          event.listener = ⟨"EVENT_STREAM", "audit", "a"⟩) ∨
        halfway.system.monitor.state = .monitoring ∨
        halfway.system.monitor.state = .restarting) :=
  have reached : Chronicle.Reached crewed halfway := Chronicle.Reached.start.after _
  have log : halfway.log =
      [.began 0, .failed 1, .judged 0 ⟨true, true, none⟩ true, .started, .failed 0] := rfl
  have failed : .failed 0 ∈ halfway.log := by simp [log]
  have ended : halfway.system.container.loops[0]? =
      some ⟨⟨"EVENT_STREAM", "audit", "a"⟩, .stopping, true, false⟩ := rfl
  ⟨log, rfl, reached.failure_is_noticed ⟨rfl, rfl⟩ (by decide) rfl rfl (by simp [log]) failed
    ended (by decide)⟩

end AccessFeed
