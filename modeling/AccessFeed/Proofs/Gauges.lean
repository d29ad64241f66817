/-
This file proves what the gauges of running listeners show.

A loop adds itself to the gauge of its stream and group when it begins, and
takes itself off as it ends. Nothing else touches the gauges, so that they show
at all times the loops that have begun and not ended by themselves. A loop that
is aborted takes no further step and never takes itself off. A gauge is thus
above the number of loops that live by those that were aborted while they were
at it, and right only where there are none of these.
-/

import AccessFeed.Proofs.Launches

namespace AccessFeed

open Streams (ReadOffset Record)

/-! ### Counted numbers -/

namespace Metrics

variable (metrics : Metrics) {series : Series} {amount : Int}

theorem enabled_add : (metrics.add series amount).enabled = metrics.enabled := by
  rw [add]
  split <;> rfl

theorem number_add_self (enabled : metrics.enabled = true) :
    (metrics.add series amount).number series = metrics.number series + amount := by
  rw [add, if_pos enabled]
  show ((metrics.numbers.set series _).get? series).getD 0 = _
  rw [Table.get?_set_self]
  rfl

theorem number_add_of_ne {other : Series} (different : other ≠ series) :
    (metrics.add series amount).number other = metrics.number other := by
  rw [add]
  split
  · show ((metrics.numbers.set series _).get? other).getD 0 = _
    rw [Table.get?_set_of_ne _ different]
    rfl
  · rfl

end Metrics

namespace Pipeline

/-- What the gauge of the running listeners of a group shows. -/
def gauge (pipeline : Pipeline) (stream group : String) : Int :=
  pipeline.metrics.number (.activeListeners stream group)

/-- Whether the gauges show what they did, and counting is enabled if it was. -/
structure SparesGauges (before after : Pipeline) : Prop where
  enabled : after.metrics.enabled = before.metrics.enabled
  gauge : ∀ stream group, after.gauge stream group = before.gauge stream group

theorem sparesGauges_of_metrics {before after : Pipeline} (same : after.metrics = before.metrics) :
    before.SparesGauges after :=
  ⟨congrArg Metrics.enabled same, fun _ _ => congrArg (Metrics.number · _) same⟩

theorem SparesGauges.trans {first second third : Pipeline} (earlier : first.SparesGauges second)
    (later : second.SparesGauges third) : first.SparesGauges third :=
  ⟨later.enabled.trans earlier.enabled, fun stream group =>
    (later.gauge stream group).trans (earlier.gauge stream group)⟩

/-- Counting anything else leaves the gauges alone. -/
theorem sparesGauges_count (pipeline : Pipeline) {series : Series} (amount : Int)
    (other : series.family ≠ .activeListeners) :
    pipeline.SparesGauges (pipeline.count series amount) :=
  ⟨pipeline.metrics.enabled_add, fun _ _ =>
    pipeline.metrics.number_add_of_ne fun same => other (same ▸ rfl)⟩

theorem metrics_emit (pipeline : Pipeline) (event : CriticalEvent) :
    (pipeline.emit event).metrics = pipeline.metrics := by
  rw [emit]
  cases pipeline.signal.emit? event <;> rfl

end Pipeline

/-! ### Steps of listeners -/

namespace Dispatch

variable (group : String) (record : Record) (pipeline : Pipeline)

theorem sparesGauges_finish {reached : Pipeline} (same : reached.metrics = pipeline.metrics)
    (outcome : DispatchOutcome) :
    pipeline.SparesGauges (finish group record reached outcome).2 :=
  (Pipeline.sparesGauges_of_metrics same).trans
    (reached.sparesGauges_count 1 (by simp [Series.recordsDispatched]))

theorem sparesGauges_handled (eventType : Event.EventType)
    (result : Except Event.HandlerError Unit) :
    pipeline.SparesGauges (handled group record pipeline eventType result).2 := by
  have counted : pipeline.SparesGauges (pipeline.count (.handlerDuration eventType.tag) 1) :=
    pipeline.sparesGauges_count 1 (by simp [Series.handlerDuration])
  cases result with
  | ok => exact counted
  | error failure =>
    dsimp only [handled]
    split <;> exact counted.trans (sparesGauges_finish group record _ (by rfl) _)

theorem sparesGauges_step (now : Nat) (dispatch : DispatchPhase) :
    pipeline.SparesGauges (step group record now dispatch pipeline).2 := by
  have same : pipeline.SparesGauges pipeline := Pipeline.sparesGauges_of_metrics rfl
  cases dispatch with
  | routing =>
    dsimp only [step, route]
    cases (record.field? Event.fieldNames.eventType).bind Event.EventType.classify with
    | none => exact sparesGauges_finish group record pipeline (by rfl) _
    | some eventType =>
      dsimp only
      cases pipeline.handlers.get? eventType with
      | none => exact sparesGauges_finish group record pipeline (by rfl) _
      | some handler => exact same
  | handling eventType handler =>
    have spared := pipeline.sparesNumbers_handle handler record
    dsimp only [step]
    generalize pipeline.handle handler record = run at spared ⊢
    obtain ⟨progress, reached⟩ := run
    have kept := Pipeline.sparesGauges_of_metrics spared.metrics
    cases progress with
    | done result => exact kept.trans (sparesGauges_handled group record reached eventType result)
    | pausing => exact kept
  | pausing eventType until_ =>
    dsimp only [step]
    split
    · exact sparesGauges_handled group record pipeline eventType (.ok ())
    · exact same
  | acknowledging =>
    dsimp only [step, acknowledge, Pipeline.ask]
    obtain ⟨answer, service⟩ := pipeline.service.acknowledge record.stream group [record.id]
    cases answer <;> exact sparesGauges_finish group record pipeline (by rfl) _
  | finished => exact same

end Dispatch

/-- Whether a listener has begun and not ended. -/
def ListenerPhase.isUnderway : ListenerPhase → Bool
  | .starting | .stopped => false
  | _ => true

/-- What a listener is in the gauge of a group while it is in a phase. -/
def ListenerSpec.share (spec : ListenerSpec) (stream group : String) (phase : ListenerPhase) :
    Nat :=
  if spec.stream = stream ∧ spec.group = group ∧ phase.isUnderway then 1 else 0

theorem ListenerSpec.share_of_idle (spec : ListenerSpec) (stream group : String)
    {phase : ListenerPhase} (idle : phase.isUnderway = false) :
    spec.share stream group phase = 0 := by
  simp [share, idle]

/-- Counting a listener that is under way changes the gauge of its group, and no other one. -/
theorem Pipeline.gauge_count (pipeline : Pipeline) (enabled : pipeline.metrics.enabled = true)
    (spec : ListenerSpec) (amount : Int) {phase : ListenerPhase}
    (underway : phase.isUnderway = true) (stream group : String) :
    (pipeline.count (.activeListeners spec.stream spec.group) amount).gauge stream group =
      pipeline.gauge stream group + amount * spec.share stream group phase := by
  by_cases own : spec.stream = stream ∧ spec.group = group
  · obtain ⟨rfl, rfl⟩ := own
    rw [ListenerSpec.share, if_pos ⟨rfl, rfl, underway⟩, Int.natCast_one, Int.mul_one]
    exact pipeline.metrics.number_add_self enabled
  · rw [ListenerSpec.share, if_neg fun all => own ⟨all.1, all.2.1⟩, Int.natCast_zero,
      Int.mul_zero, Int.add_zero]
    refine pipeline.metrics.number_add_of_ne fun same => own ?_
    have values : [group, stream] = [spec.group, spec.stream] := congrArg Series.values same
    obtain ⟨groups, streams⟩ := List.cons.inj values
    exact ⟨(List.cons.inj streams).1.symm, groups.symm⟩

namespace Listener

variable (settings : ListenerSettings) (spec : ListenerSpec) (shutdown : Bool) (now : Nat)
  (pipeline : Pipeline)

theorem spares_read (offset : ReadOffset) :
    (read settings spec now offset pipeline).1.isUnderway = true ∧
      pipeline.SparesGauges (read settings spec now offset pipeline).2 := by
  dsimp only [read, Pipeline.ask]
  obtain ⟨answer, service⟩ := pipeline.service.readGroup spec.stream spec.group spec.consumer
    offset settings.readCount
  cases answer with
  | ok batch =>
    cases batch with
    | nil => cases offset <;> exact ⟨rfl, Pipeline.sparesGauges_of_metrics rfl⟩
    | cons => exact ⟨rfl, Pipeline.sparesGauges_of_metrics rfl⟩
  | error error =>
    have asked : pipeline.SparesGauges { pipeline with service } :=
      Pipeline.sparesGauges_of_metrics rfl
    have spared := asked.trans (Pipeline.sparesGauges_count _ 1
      (by simp [Series.listenerErrors] :
        (Series.listenerErrors spec.stream spec.group error.label).family ≠ .activeListeners))
    dsimp only [Pipeline.cancelOnError]
    by_cases critical : error.isCritical = true
    · rw [if_pos critical]
      exact ⟨rfl, spared.trans (Pipeline.sparesGauges_of_metrics (Pipeline.metrics_emit _ _))⟩
    · rw [if_neg critical]
      exact ⟨rfl, spared.trans (Pipeline.sparesGauges_of_metrics rfl)⟩

/-- A listener counts itself in when it begins and out when it ends, and otherwise it is under way
or not as before. -/
theorem step_cases (phase : ListenerPhase) :
    (phase = .starting ∧ step settings spec shutdown now phase pipeline =
      (.reading settings.firstOffset,
        pipeline.count (.activeListeners spec.stream spec.group) 1)) ∨
    (phase = .stopping ∧ step settings spec shutdown now phase pipeline =
      (.stopped, pipeline.count (.activeListeners spec.stream spec.group) (-1))) ∨
    (step settings spec shutdown now phase pipeline).1.isUnderway = phase.isUnderway ∧
      pipeline.SparesGauges (step settings spec shutdown now phase pipeline).2 := by
  have same : pipeline.SparesGauges pipeline := Pipeline.sparesGauges_of_metrics rfl
  cases phase with
  | starting => exact Or.inl ⟨rfl, rfl⟩
  | stopping => exact Or.inr (Or.inl ⟨rfl, rfl⟩)
  | stopped => exact Or.inr (Or.inr ⟨rfl, same⟩)
  | reading offset =>
    refine Or.inr (Or.inr ?_)
    dsimp only [step]
    split
    · exact ⟨rfl, same⟩
    · exact spares_read settings spec now pipeline offset
  | delivering next batch tombstones =>
    refine Or.inr (Or.inr ⟨?_, same⟩)
    dsimp only [step]
    cases batch with
    | nil =>
      rw [takeUp]
      split <;> rfl
    | cons record rest =>
      rw [takeUp]
      split <;> rfl
  | dispatching next record dispatch rest tombstones =>
    refine Or.inr (Or.inr ⟨?_, ?_⟩)
    · dsimp only [step]
      obtain ⟨following, reached⟩ := Dispatch.step spec.group record now dispatch pipeline
      cases following <;> rfl
    · rw [pipeline_step_dispatching]
      exact Dispatch.sparesGauges_step spec.group record pipeline now dispatch
  | sweeping next tombstones =>
    refine Or.inr (Or.inr ⟨rfl, Pipeline.sparesGauges_of_metrics ?_⟩)
    show (pipeline.dropTombstones spec tombstones).metrics = _
    dsimp only [Pipeline.dropTombstones, Pipeline.ask]
    obtain ⟨answer, service⟩ := pipeline.service.acknowledge spec.stream spec.group tombstones
    cases answer <;> rfl
  | idle offset until_ =>
    refine Or.inr (Or.inr ?_)
    dsimp only [step]
    split
    · exact ⟨rfl, same⟩
    · split <;> exact ⟨rfl, same⟩

/-- A step changes the gauge of the listener's group by as much as it changes whether the listener
is under way. -/
theorem gauge_step (enabled : pipeline.metrics.enabled = true) (phase : ListenerPhase) :
    (step settings spec shutdown now phase pipeline).2.metrics.enabled = true ∧
      ∀ stream group,
        (step settings spec shutdown now phase pipeline).2.gauge stream group +
            spec.share stream group phase =
          pipeline.gauge stream group +
            spec.share stream group (step settings spec shutdown now phase pipeline).1 := by
  rcases step_cases settings spec shutdown now pipeline phase with
    ⟨rfl, stepped⟩ | ⟨rfl, stepped⟩ | ⟨same, spared⟩
  · rw [stepped]
    refine ⟨pipeline.metrics.enabled_add.trans enabled, fun stream group => ?_⟩
    have underway : (ListenerPhase.reading settings.firstOffset).isUnderway = true := rfl
    dsimp only
    rw [pipeline.gauge_count enabled spec 1 underway,
      spec.share_of_idle stream group (rfl : ListenerPhase.isUnderway .starting = false)]
    omega
  · rw [stepped]
    refine ⟨pipeline.metrics.enabled_add.trans enabled, fun stream group => ?_⟩
    rw [pipeline.gauge_count enabled spec (-1) (rfl : ListenerPhase.isUnderway .stopping = true),
      spec.share_of_idle stream group (rfl : ListenerPhase.isUnderway .stopped = false)]
    omega
  · refine ⟨spared.enabled.trans enabled, fun stream group => ?_⟩
    rw [spared.gauge, ListenerSpec.share, ListenerSpec.share, same]

end Listener

/-! ### Loops by their groups -/

theorem countP_modify {loops : List ListenerLoop} {number : Nat} {loop : ListenerLoop}
    (present : loops[number]? = some loop) (change : ListenerLoop → ListenerLoop)
    (condition : ListenerLoop → Bool) :
    (loops.modify number change).countP condition + (if condition loop then 1 else 0) =
      loops.countP condition + if condition (change loop) then 1 else 0 := by
  induction loops generalizing number with
  | nil => cases present
  | cons first rest inductionHypothesis =>
    cases number with
    | zero =>
      obtain rfl := Option.some.inj present
      rw [List.modify_zero_cons, List.countP_cons, List.countP_cons]
      omega
    | succ number =>
      have there : rest[number]? = some loop := present
      have later := inductionHypothesis there
      rw [List.modify_succ_cons, List.countP_cons, List.countP_cons]
      omega

namespace Container

/-- How many loops of the listeners of a group meet a condition. -/
def countOf (container : Container) (stream group : String) (condition : ListenerLoop → Bool) :
    Nat :=
  container.loops.countP fun loop =>
    loop.spec.stream = stream ∧ loop.spec.group = group ∧ condition loop

variable (container : Container) {stream group : String} {condition : ListenerLoop → Bool}

/-- Changing loops leaves the counts that do not look at what is changed. -/
theorem countOf_changeLoops (numbers : List Nat) {change : ListenerLoop → ListenerLoop}
    (spec : ∀ loop, (change loop).spec = loop.spec)
    (same : ∀ loop, condition (change loop) = condition loop) :
    (container.changeLoops numbers change).countOf stream group condition =
      container.countOf stream group condition := by
  let view : ListenerLoop → Bool := fun loop =>
    loop.spec.stream = stream ∧ loop.spec.group = group ∧ condition loop
  have viewed : (container.changeLoops numbers change).loops.map view =
      container.loops.map view :=
    container.map_changeLoops numbers fun loop => by simp only [view, spec, same]
  have counted (loops : List ListenerLoop) : loops.countP view = (loops.map view).countP id :=
    (List.countP_map (p := id)).symm
  show List.countP view _ = List.countP view _
  rw [counted, viewed, ← counted]

theorem countOf_spawnAll (fresh : ∀ spec : ListenerSpec, condition { spec := spec } = false) :
    container.spawnAll.countOf stream group condition =
      container.countOf stream group condition := by
  show List.countP _ (container.loops ++ container.registered.map fun spec : ListenerSpec =>
    ({ spec := spec } : ListenerLoop)) = _
  rw [List.countP_append, List.countP_map]
  refine Nat.add_eq_left.mpr (List.countP_eq_zero.mpr fun spec _ => ?_)
  simp [fresh]

theorem loops_registerSet (set : Settings.ConsumerSet) :
    (container.registerSet set).loops = container.loops := by
  rw [registerSet]
  generalize listenersOf set = listeners
  induction listeners generalizing container with
  | nil => rfl
  | cons spec rest inductionHypothesis =>
    rw [List.foldl_cons, inductionHypothesis, register]
    split <;> rfl

/-- Changing a loop changes the count by that loop. -/
theorem countOf_modify {number : Nat} {loop : ListenerLoop}
    (present : container.loops[number]? = some loop) (change : ListenerLoop → ListenerLoop) :
    (container.changeLoops [number] change).countOf stream group condition +
        (if loop.spec.stream = stream ∧ loop.spec.group = group ∧ condition loop then 1 else 0) =
      container.countOf stream group condition +
        if (change loop).spec.stream = stream ∧ (change loop).spec.group = group ∧
          condition (change loop) then 1 else 0 := by
  have modified := countP_modify present change fun loop =>
    loop.spec.stream = stream ∧ loop.spec.group = group ∧ condition loop
  simp only [decide_eq_true_iff] at modified
  exact modified

end Container

/-- Whether a loop has begun and not ended by itself. -/
def ListenerLoop.isUnderway (loop : ListenerLoop) : Bool :=
  loop.phase.isUnderway

/-! ### Steps of calls -/

namespace Control

/-- Aborting loops leaves the counted numbers alone, and which loops are under way. -/
theorem underway_abortAll (numbers : List Nat) (scope : Scope) (stream group : String) :
    (abortAll numbers scope).pipeline.metrics = scope.pipeline.metrics ∧
      (abortAll numbers scope).container.countOf stream group ListenerLoop.isUnderway =
        scope.container.countOf stream group ListenerLoop.isUnderway := by
  induction numbers generalizing scope with
  | nil => exact ⟨rfl, rfl⟩
  | cons number rest inductionHypothesis =>
    rw [abortAll]
    split
    · exact inductionHypothesis scope
    · obtain ⟨metrics, underway⟩ := inductionHypothesis
        { container := scope.container.changeLoops [number] fun loop =>
            { loop with aborted := true }
          pipeline := scope.pipeline.warn "Listener did not stop in time, aborting" }
      exact ⟨metrics, underway.trans
        (scope.container.countOf_changeLoops [number] (fun _ => rfl) fun _ => rfl)⟩

/-- No action of a call counts anything, and none lets a loop begin or end by itself. -/
theorem underway_act (grace now : Nat) (scope : Scope) (action : ControlAction)
    (stream group : String) :
    (act grace now scope action).2.pipeline.metrics = scope.pipeline.metrics ∧
      (act grace now scope action).2.container.countOf stream group ListenerLoop.isUnderway =
        scope.container.countOf stream group ListenerLoop.isUnderway := by
  cases action with
  | register set phase =>
    dsimp only [act]
    have metrics :=
      (ensure_spares set "Failed to ensure consumer group" phase scope.pipeline).2
    generalize ensure set _ phase scope.pipeline = ensured at metrics ⊢
    obtain ⟨_ | phase, pipeline⟩ := ensured
    · refine ⟨metrics, ?_⟩
      show List.countP _ (scope.container.registerSet set).loops = _
      rw [Container.loops_registerSet]
      rfl
    · exact ⟨metrics, rfl⟩
  | ensure set phase =>
    dsimp only [act]
    have metrics :=
      (ensure_spares set "Failed to ensure consumer group on restart" phase scope.pipeline).2
    generalize ensure set _ phase scope.pipeline = ensured at metrics ⊢
    obtain ⟨_ | phase, pipeline⟩ := ensured <;> exact ⟨metrics, rfl⟩
  | launch =>
    dsimp only [act, launch]
    split
    · exact ⟨rfl, rfl⟩
    · refine ⟨?_, scope.container.countOf_spawnAll fun _ => rfl⟩
      show (ite _ _ _ : Pipeline).metrics = _
      split <;> rfl
  | halt =>
    dsimp only [act]
    cases scope.container.running with
    | none => exact ⟨rfl, rfl⟩
    | some numbers =>
      exact ⟨rfl, { scope.container with running := none }.countOf_changeLoops numbers
        (fun _ => rfl) fun _ => rfl⟩
  | drain numbers deadline =>
    dsimp only [act]
    split
    · exact ⟨rfl, rfl⟩
    · split
      · exact underway_abortAll numbers scope stream group
      · exact ⟨rfl, rfl⟩
  | rest millis => exact ⟨rfl, rfl⟩
  | resting until_ =>
    dsimp only [act]
    split <;> exact ⟨rfl, rfl⟩

end Control

/-! ### Steps of the system -/

namespace System

variable (system : System)

theorem sparesGauges_countTransition (source target : MonitorState) :
    system.pipeline.SparesGauges (system.countTransition source target).pipeline :=
  system.pipeline.sparesGauges_count 1 (by simp [Series.monitorTransitions])

theorem sparesGauges_startMonitor :
    system.pipeline.SparesGauges system.startMonitor.pipeline := by
  rw [startMonitor, Monitor.start]
  cases system.monitor.slot with
  | idle => exact sparesGauges_countTransition _ .idle .monitoring
  | monitoring | restarting => exact Pipeline.sparesGauges_of_metrics rfl

theorem sparesGauges_stopMonitor :
    system.pipeline.SparesGauges system.stopMonitor.pipeline := by
  rw [stopMonitor]
  cases system.monitor.slot with
  | idle => exact Pipeline.sparesGauges_of_metrics rfl
  | monitoring => exact sparesGauges_countTransition _ .monitoring .idle
  | restarting => exact sparesGauges_countTransition _ .restarting .idle

theorem sparesGauges_stepProbe (number : Nat) (probe : ProbeTask) :
    system.pipeline.SparesGauges (system.stepProbe number probe).pipeline := by
  have same : system.pipeline.SparesGauges system.pipeline := Pipeline.sparesGauges_of_metrics rfl
  rw [stepProbe]
  cases probe.phase with
  | starting | ended => exact same
  | noting => exact sparesGauges_countTransition _ .monitoring .restarting
  | reading due cluster =>
    refine Pipeline.sparesGauges_of_metrics ?_
    dsimp only [Pipeline.probeStream, Pipeline.ask, setProbe]
    obtain ⟨answer, service⟩ :=
      system.pipeline.service.range system.settings.eventStream .least .greatest 1
    cases answer <;> rfl
  | waiting due =>
    dsimp only
    split
    · refine Pipeline.sparesGauges_of_metrics ?_
      rw [beginProbe]
      cases system.rehearsal with
      | some => rfl
      | none =>
        dsimp only [Pipeline.probeCluster, Pipeline.ask, setProbe]
        obtain ⟨answer, service⟩ := system.pipeline.service.clusterState
        cases answer <;> rfl
    · exact same
  | judging due report =>
    refine Pipeline.sparesGauges_of_metrics ?_
    dsimp only
    rw [judge]
    split
    · split <;> rfl
    · rfl
  | restarting call =>
    dsimp only
    split
    · exact system.pipeline.sparesGauges_count 1 (by simp [Series.listenerRestarts])
    · exact same
  | concluding =>
    dsimp only
    rw [concludeProbe]
    generalize system.monitor.conclude probe.generation = concluded
    obtain ⟨effect, monitor⟩ := concluded
    cases effect with
    | scheduled => exact sparesGauges_countTransition _ .restarting .monitoring
    | idle => exact sparesGauges_countTransition _ .restarting .idle
    | none => exact Pipeline.sparesGauges_of_metrics rfl

/-- Whether something done to a system by others leaves the gauges alone. -/
def LeavesGauges (system : System) : Act → Prop
  | .others pipeline => system.pipeline.SparesGauges pipeline
  | _ => True

/-- Whether the gauges show how many loops are under way. -/
structure Gauged (system : System) : Prop where
  enabled : system.pipeline.metrics.enabled = true
  gauge : ∀ stream group, system.pipeline.gauge stream group =
    system.container.countOf stream group ListenerLoop.isUnderway

variable {system}

theorem Gauged.of_spares (gauged : system.Gauged) {after : System}
    (spares : system.pipeline.SparesGauges after.pipeline)
    (same : ∀ stream group, after.container.countOf stream group ListenerLoop.isUnderway =
      system.container.countOf stream group ListenerLoop.isUnderway) : after.Gauged :=
  ⟨spares.enabled.trans gauged.enabled, fun stream group => by
    rw [spares.gauge, gauged.gauge, same]⟩

theorem Gauged.stepLoop (gauged : system.Gauged) {number : Nat} {loop : ListenerLoop}
    (present : system.container.loops[number]? = some loop) :
    (system.stepLoop number loop).Gauged := by
  obtain ⟨enabled, changed⟩ := Listener.gauge_step system.listenerSettings loop.spec loop.shutdown
    system.now system.pipeline gauged.enabled loop.phase
  rw [System.stepLoop]
  generalize Listener.step _ loop.spec loop.shutdown system.now loop.phase system.pipeline =
    stepped at enabled changed ⊢
  obtain ⟨phase, pipeline⟩ := stepped
  refine ⟨enabled, fun stream group => ?_⟩
  have before := gauged.gauge stream group
  have shown := changed stream group
  have counted : (system.container.changeLoops [number] fun loop => { loop with phase }).countOf
      stream group ListenerLoop.isUnderway + loop.spec.share stream group loop.phase =
        system.container.countOf stream group ListenerLoop.isUnderway +
          loop.spec.share stream group phase := system.container.countOf_modify present _
  dsimp only at shown ⊢
  omega

theorem Gauged.stepCall (gauged : system.Gauged) {number : Nat} {call : ControlCall}
    (present : system.calls[number]? = some call) : (system.stepCall number call).Gauged := by
  cases call with
  | nil =>
    rw [stepCall_nil present]
    exact gauged
  | cons action rest =>
    have acted := Control.underway_act system.settings.stopGrace system.now
      ⟨system.container, system.pipeline⟩ action
    exact gauged.of_spares (Pipeline.sparesGauges_of_metrics (acted "" "").1) fun stream group =>
      (acted stream group).2

/-- Whatever is done, the gauges show how many loops are under way. -/
theorem Gauged.perform (gauged : system.Gauged) {act : Act} (leaves : system.LeavesGauges act) :
    (system.perform act).Gauged := by
  have spared {after : System} (spares : system.pipeline.SparesGauges after.pipeline)
      (same : after.container = system.container) : after.Gauged :=
    gauged.of_spares spares fun stream group => by rw [same]
  have quiet {after : System} (metrics : after.pipeline.metrics = system.pipeline.metrics)
      (same : after.container = system.container) : after.Gauged :=
    spared (Pipeline.sparesGauges_of_metrics metrics) same
  cases act with
  | call | pass => exact quiet rfl rfl
  | others pipeline => exact spared ⟨leaves.enabled, leaves.gauge⟩ rfl
  | start => exact spared system.sparesGauges_startMonitor system.spares_startMonitor.container
  | stop =>
    refine spared system.sparesGauges_stopMonitor ?_
    dsimp only [System.perform, stopMonitor]
    cases system.monitor.slot <;> rfl
  | step task =>
    dsimp only [System.perform, step]
    cases task with
    | call number =>
      dsimp only
      cases present : system.calls[number]? with
      | none => exact gauged
      | some call => exact gauged.stepCall present
    | probe number =>
      dsimp only
      cases system.probes[number]? with
      | none => exact gauged
      | some probe =>
        exact spared (system.sparesGauges_stepProbe number probe)
          (system.spares_stepProbe number probe).container
    | loop number =>
      dsimp only
      cases present : system.container.loops[number]? with
      | none => exact gauged
      | some loop =>
        dsimp only
        split
        · exact gauged
        · exact gauged.stepLoop present
    | bridge =>
      dsimp only [stepBridge]
      cases system.bridge with
      | absent => exact gauged
      | waiting =>
        dsimp only
        cases system.pipeline.signal.take? with
        | none => exact gauged
        | some => exact quiet rfl rfl
      | holding event =>
        dsimp only
        rw [startMonitor_bridge]
        exact spared system.sparesGauges_startMonitor system.spares_startMonitor.container

theorem Gauged.through (gauged : system.Gauged) {acts : List Act}
    (leaves : ∀ count act, acts[count]? = some act →
      (system.through (acts.take count)).LeavesGauges act) : (system.through acts).Gauged := by
  induction acts generalizing system with
  | nil => exact gauged
  | cons act rest inductionHypothesis =>
    refine inductionHypothesis (gauged.perform (leaves 0 act rfl)) fun count other next => ?_
    exact leaves (count + 1) other next

end System

/-! ### Loops that live -/

namespace ListenerLoop

/-- Whether a loop was aborted after it had begun, before it ended by itself. -/
def isAbandoned (loop : ListenerLoop) : Bool :=
  loop.aborted && loop.isUnderway

/-- Whether a loop has not begun, although nobody aborted it. -/
def isAwaited (loop : ListenerLoop) : Bool :=
  !loop.aborted && loop.phase == .starting

end ListenerLoop

theorem ListenerLoop.underway_or_awaited (loop : ListenerLoop) :
    (if loop.isUnderway then 1 else 0) + (if loop.isAwaited then 1 else 0) =
      (if !loop.isFinished then 1 else 0) + if loop.isAbandoned then 1 else 0 := by
  obtain ⟨spec, phase, shutdown, aborted⟩ := loop
  cases aborted <;> cases phase <;> rfl

/-- The loops that are under way and those that have yet to begin are the ones that have not ended
and the ones that were abandoned. -/
theorem Container.countOf_isUnderway (container : Container) (stream group : String) :
    container.countOf stream group ListenerLoop.isUnderway +
        container.countOf stream group ListenerLoop.isAwaited =
      container.countOf stream group (fun loop => !loop.isFinished) +
        container.countOf stream group ListenerLoop.isAbandoned := by
  rw [countOf, countOf, countOf, countOf]
  induction container.loops with
  | nil => rfl
  | cons loop rest inductionHypothesis =>
    have either := loop.underway_or_awaited
    simp only [List.countP_cons, decide_eq_true_iff]
    by_cases own : loop.spec.stream = stream ∧ loop.spec.group = group
    · simp only [own, true_and]
      omega
    · have another : ∀ condition : Prop,
          ¬ (loop.spec.stream = stream ∧ loop.spec.group = group ∧ condition) :=
        fun _ all => own ⟨all.1, all.2.1⟩
      simp only [another, if_false]
      exact inductionHypothesis

/-- In every run of a system that begins without loops, with counting enabled, and in which others
leave the gauges alone: at all times the gauge of a group shows the loops of its listeners that have
not ended, but for those that have yet to begin, and the abandoned ones. Once all loops have begun
it shows those that have not ended exactly if no loop of the group was abandoned. -/
theorem System.gauge_shows_abandoned {start : System}
    (enabled : start.pipeline.metrics.enabled = true)
    (unshown : ∀ stream group, start.pipeline.gauge stream group = 0)
    (unspawned : start.container.loops = []) {acts : List Act}
    (leaves : ∀ count act, acts[count]? = some act →
      (start.through (acts.take count)).LeavesGauges act) (stream group : String) :
    let system := start.through acts
    let live := system.container.countOf stream group fun loop => !loop.isFinished
    let abandoned := system.container.countOf stream group ListenerLoop.isAbandoned
    system.pipeline.gauge stream group +
        system.container.countOf stream group ListenerLoop.isAwaited = live + abandoned ∧
      ((∀ loop ∈ system.container.loops, loop.isAwaited = false) →
        system.pipeline.gauge stream group = live + abandoned ∧
        (system.pipeline.gauge stream group = live ↔
          ∀ loop ∈ system.container.loops, loop.spec.stream = stream → loop.spec.group = group →
            loop.isAbandoned = false)) := by
  have fresh : start.Gauged := by
    refine ⟨enabled, fun stream group => ?_⟩
    rw [unshown, Container.countOf, unspawned]
    rfl
  intro system live abandoned
  have shown : system.pipeline.gauge stream group =
      system.container.countOf stream group ListenerLoop.isUnderway :=
    (fresh.through leaves).gauge stream group
  have parted := system.container.countOf_isUnderway stream group
  have whole : system.pipeline.gauge stream group +
      system.container.countOf stream group ListenerLoop.isAwaited = live + abandoned := by omega
  refine ⟨whole, fun begun => ?_⟩
  have none : system.container.countOf stream group ListenerLoop.isAwaited = 0 :=
    List.countP_eq_zero.mpr fun loop member => by simp [begun loop member]
  have settled : system.pipeline.gauge stream group = live + abandoned := by
    rw [none] at whole
    omega
  refine ⟨settled, ?_⟩
  have none_abandoned : abandoned = 0 ↔ ∀ loop ∈ system.container.loops, loop.spec.stream = stream →
      loop.spec.group = group → loop.isAbandoned = false :=
    List.countP_eq_zero.trans (by simp)
  rw [settled, ← none_abandoned]
  omega

/-! ### A loop that is abandoned -/

/-- A listener whose handler takes a second, in a container that waits for half a second. -/
def gauged : System :=
  { staffed with pipeline.metrics := .fresh true, settings.stopGrace := 500 }

/-- The container is stopped while the handler is at work, and the loop is aborted. -/
def abruptStop : List Act :=
  busyStop ++ [.pass 500, .step (.call 1)]

/-- The container is started again. -/
def abruptRestart : List Act :=
  abruptStop ++ [.call .start, .step (.call 2), .step (.loop 1)]

/-- Whether something is done to a system by others. -/
def Act.isForeign : Act → Bool
  | .others _ => true
  | _ => false

theorem System.leavesGauges_of_alone (start : System) {acts : List Act}
    (alone : acts.any Act.isForeign = false) : ∀ count act, acts[count]? = some act →
      (start.through (acts.take count)).LeavesGauges act := by
  intro count act next
  have own := List.any_eq_false.mp alone act (List.mem_of_getElem? next)
  cases act with
  | others => exact absurd rfl own
  | step | start | stop | call | pass => trivial

/-- The abandoned loop is in the gauge along with the one that was spawned after it. -/
theorem restarted_shows_both :
    gauged.pipeline.metrics.enabled = true ∧
      (∀ stream group, gauged.pipeline.gauge stream group = 0) ∧ gauged.container.loops = [] ∧
      abruptRestart.any Act.isForeign = false ∧
      (∀ loop ∈ (gauged.through abruptRestart).container.loops, loop.isAwaited = false) ∧
      (gauged.through abruptRestart).container.countOf "orders" "audit"
        (fun loop => !loop.isFinished) = 1 ∧
      (gauged.through abruptRestart).container.countOf "orders" "audit"
        ListenerLoop.isAbandoned = 1 ∧
      (gauged.through abruptRestart).pipeline.gauge "orders" "audit" = 2 := by
  have alone : abruptRestart.any Act.isForeign = false := rfl
  have begun : ∀ loop ∈ (gauged.through abruptRestart).container.loops,
      loop.isAwaited = false := by decide +kernel
  have live : (gauged.through abruptRestart).container.countOf "orders" "audit"
      (fun loop => !loop.isFinished) = 1 := by decide +kernel
  have abandoned : (gauged.through abruptRestart).container.countOf "orders" "audit"
      ListenerLoop.isAbandoned = 1 := by decide +kernel
  obtain ⟨_, settled⟩ := System.gauge_shows_abandoned (rfl : gauged.pipeline.metrics.enabled = true)
    (fun _ _ => rfl) rfl (gauged.leavesGauges_of_alone alone) "orders" "audit"
  have shown := (settled begun).1
  rw [live, abandoned] at shown
  exact ⟨rfl, fun _ _ => rfl, rfl, alone, begun, live, abandoned, shown⟩

/-- Both calls have returned and no loop lives, but the gauge shows one. -/
theorem abandoned_loop_stays_in_gauge :
    (gauged.through abruptStop).calls = [[], []] ∧
      (∀ loop ∈ (gauged.through abruptStop).container.loops, loop.isFinished = true) ∧
      (gauged.through abruptStop).container.countOf "orders" "audit"
        (fun loop => !loop.isFinished) = 0 ∧
      (gauged.through abruptStop).pipeline.gauge "orders" "audit" = 1 ∧
      ¬ ∀ (start : System) (acts : List Act), start.pipeline.metrics.enabled = true →
        (∀ stream group, start.pipeline.gauge stream group = 0) → start.container.loops = [] →
        (∀ count act, acts[count]? = some act →
          (start.through (acts.take count)).LeavesGauges act) →
        (∀ call ∈ (start.through acts).calls, call.hasReturned = true) →
        (∀ loop ∈ (start.through acts).container.loops, loop.isAwaited = false) →
        ∀ stream group, (start.through acts).pipeline.gauge stream group =
          (start.through acts).container.countOf stream group fun loop => !loop.isFinished := by
  have calls : (gauged.through abruptStop).calls = [[], []] := rfl
  have live : (gauged.through abruptStop).container.countOf "orders" "audit"
      (fun loop => !loop.isFinished) = 0 := by decide +kernel
  have shown : (gauged.through abruptStop).pipeline.gauge "orders" "audit" = 1 := by
    decide +kernel
  refine ⟨calls, by decide +kernel, live, shown, fun exact => ?_⟩
  have same := exact gauged abruptStop rfl (fun _ _ => rfl) rfl
    (gauged.leavesGauges_of_alone rfl) (by rw [calls]; decide) (by decide +kernel) "orders" "audit"
  rw [live, shown] at same
  cases same

end AccessFeed
