/-
This file says what happens in a run of the system.

Tasks take their steps in any order; the monitor is started and stopped from
outside at any time, calls are made, time passes, and others use the streams and
the archive. What happens is written down, the last moment first. A task that
was aborted may still take steps, and a restart takes as long as its call does.
Whatever is done, the monitor and its probing tasks change in one of a few ways;
these are told once here, and everything that holds of the monitor along a run
is derived from them.
-/

import AccessFeed.System.Basic

namespace AccessFeed

open Streams (StoreError)

/-! ### Runs -/

/-- What happens in a run of the system: the monitor was started or stopped, a probing task judged a
report while the monitor's slot was its own or not, its restart began or was completed, and a loop
failed. -/
inductive Moment
  | started
  | stopped
  | judged (number : Nat) (report : HealthReport) (current : Bool)
  | began (number : Nat)
  | completed (number : Nat)
  | failed (number : Nat)

/-- The number of the probing task that a moment is one of. -/
def Moment.probe? : Moment → Option Nat
  | .judged number _ _ => some number
  | .began number => some number
  | .completed number => some number
  | _ => none

/-- What is done to a system. Others may change whatever the tasks share with them, but for the
signal of critical errors. -/
inductive Act
  | step (task : Task)
  | start
  | stop
  | call (call : ControlCall)
  | pass (now : Nat)
  | others (pipeline : Pipeline)

/-- The critical error that the next step of a listener meets. -/
def Listener.criticalError? (settings : ListenerSettings) (spec : ListenerSpec) (shutdown : Bool)
    (phase : ListenerPhase) (pipeline : Pipeline) : Option StoreError :=
  match phase with
  | .reading offset =>
    if shutdown then none
    else
      match (pipeline.service.readGroup spec.stream spec.group spec.consumer offset
        settings.readCount).1 with
      | .ok _ => none
      | .error error => if error.isCritical then some error else none
  | _ => none

namespace System

/-- What happens at the next step of a probing task. -/
def probeMoments (system : System) (number : Nat) (probe : ProbeTask) : List Moment :=
  match probe.phase with
  | .judging _ report =>
    [.judged number report (system.monitor.slot = .monitoring probe.generation)]
  | .noting => [.began number]
  | .restarting call => if system.hasReturned call then [.completed number] else []
  | _ => []

/-- What happens at the next step of a loop. -/
def loopMoments (system : System) (number : Nat) (loop : ListenerLoop) : List Moment :=
  match Listener.criticalError? system.listenerSettings loop.spec loop.shutdown loop.phase
    system.pipeline with
  | some _ => [.failed number]
  | none => []

/-- What happens when something is done to a system. -/
def moments (system : System) : Act → List Moment
  | .step (.probe number) =>
    match system.probes[number]? with
    | none => []
    | some probe => system.probeMoments number probe
  | .step (.loop number) =>
    match system.container.loops[number]? with
    | none => []
    | some loop => if loop.aborted then [] else system.loopMoments number loop
  | .step .bridge =>
    match system.bridge with
    | .holding _ => [.started]
    | _ => []
  | .start => [.started]
  | .stop => [.stopped]
  | _ => []

/-- The system after something was done to it. -/
def perform (system : System) : Act → System
  | .step task => system.step task
  | .start => system.startMonitor
  | .stop => system.stopMonitor
  | .call call => system.makeCall call
  | .pass now => { system with now }
  | .others pipeline =>
    { system with pipeline := { pipeline with signal := system.pipeline.signal } }

end System

/-- A system with what happened in it, the last moment first. -/
structure Chronicle where
  system : System
  log : List Moment

namespace Chronicle

/-- A chronicle after something was done. -/
def act (chronicle : Chronicle) (act : Act) : Chronicle :=
  ⟨chronicle.system.perform act, chronicle.system.moments act ++ chronicle.log⟩

/-- The chronicles of all runs that begin with a system. -/
inductive Reached (start : System) : Chronicle → Prop
  | start : Reached start ⟨start, []⟩
  | act {chronicle : Chronicle} (reached : Reached start chronicle) (act : Act) :
      Reached start (chronicle.act act)

/-- A chronicle after several things were done. -/
def after (chronicle : Chronicle) (acts : List Act) : Chronicle :=
  acts.foldl Chronicle.act chronicle

theorem Reached.after {start : System} {chronicle : Chronicle}
    (reached : Reached start chronicle) (acts : List Act) :
    Reached start (chronicle.after acts) := by
  induction acts generalizing chronicle with
  | nil => exact reached
  | cons act rest inductionHypothesis => exact inductionHypothesis (reached.act act)

end Chronicle

/-! ### The slot of the monitor -/

namespace MonitorSlot

/-- The generation of the task that holds a slot. -/
def holder? : MonitorSlot → Option Nat
  | .idle => none
  | .monitoring generation => some generation
  | .restarting generation _ => some generation

theorem state_eq_idle {slot : MonitorSlot} : slot.state = .idle ↔ slot = .idle := by
  cases slot <;> simp [state]

end MonitorSlot

/-- Whether a task has been given the slot for restarting. -/
def ProbePhase.isRecovering : ProbePhase → Bool
  | .noting => true
  | .restarting _ => true
  | .concluding => true
  | _ => false

/-! ### What becomes of the monitor -/

/-- What becomes of the monitor and its probing tasks when something is done to a system. -/
inductive Turn (before : System) : List Moment → Monitor → List ProbeTask → Prop
  | quiet {done : List Moment} (mute : ∀ moment ∈ done, ∃ number, moment = .failed number) :
      Turn before done before.monitor before.probes
  | probing {number count : Nat} {probe : ProbeTask} {phase : ProbePhase} {done : List Moment}
      (present : before.probes[number]? = some probe) (was : probe.phase.isRecovering = false)
      (becomes : phase.isRecovering = false)
      (mute : ∀ moment ∈ done, ∃ report current, moment = .judged number report current) :
      Turn before done { before.monitor with probes := count }
        (before.probes.set number { probe with phase })
  | claimed {number due : Nat} {probe : ProbeTask} {report : HealthReport}
      (present : before.probes[number]? = some probe) (judging : probe.phase = .judging due report)
      (healthy : report.isHealthy = true)
      (own : before.monitor.slot = .monitoring probe.generation) :
      Turn before [.judged number report true]
        { before.monitor with slot := .restarting probe.generation false }
        (before.probes.set number { probe with phase := .noting })
  | began {number : Nat} {probe : ProbeTask} (present : before.probes[number]? = some probe)
      (noting : probe.phase = .noting) :
      Turn before [.began number]
        { before.monitor.record .monitoring .restarting with begun := before.monitor.begun + 1 }
        (before.probes.set number { probe with phase := .restarting before.calls.length })
  | completed {number call : Nat} {probe : ProbeTask}
      (present : before.probes[number]? = some probe) (restarting : probe.phase = .restarting call)
      (returned : before.hasReturned call = true) :
      Turn before [.completed number]
        { before.monitor with completed := before.monitor.completed + 1 }
        (before.probes.set number { probe with phase := .concluding })
  | rearmed {number : Nat} {probe : ProbeTask} (present : before.probes[number]? = some probe)
      (concluding : probe.phase = .concluding)
      (own : before.monitor.slot = .restarting probe.generation true) :
      Turn before [] (before.monitor.schedule.record .restarting .monitoring)
        (before.probes.set number { probe with phase := .ended } ++
          [{ generation := before.monitor.generation + 1 }])
  | recovered {number : Nat} {probe : ProbeTask} (present : before.probes[number]? = some probe)
      (concluding : probe.phase = .concluding)
      (own : before.monitor.slot = .restarting probe.generation false) :
      Turn before [] ({ before.monitor with slot := .idle }.record .restarting .idle)
        (before.probes.set number { probe with phase := .ended })
  | superseded {number : Nat} {probe : ProbeTask} (present : before.probes[number]? = some probe)
      (concluding : probe.phase = .concluding)
      (foreign : ∀ rearm, before.monitor.slot ≠ .restarting probe.generation rearm) :
      Turn before [] before.monitor (before.probes.set number { probe with phase := .ended })
  | scheduled (idle : before.monitor.slot = .idle) :
      Turn before [.started] (before.monitor.schedule.record .idle .monitoring)
        (before.probes ++ [{ generation := before.monitor.generation + 1 }])
  | running {generation : Nat} (monitoring : before.monitor.slot = .monitoring generation) :
      Turn before [.started] before.monitor before.probes
  | remembered {generation : Nat} {rearm : Bool}
      (restarting : before.monitor.slot = .restarting generation rearm) :
      Turn before [.started] { before.monitor with slot := .restarting generation true }
        before.probes
  | stopped (idle : before.monitor.slot = .idle) :
      Turn before [.stopped] before.monitor before.probes
  | cancelled {generation : Nat} (monitoring : before.monitor.slot = .monitoring generation) :
      Turn before [.stopped] ({ before.monitor with slot := .idle }.record .monitoring .idle)
        (before.probes.map fun probe =>
          if probe.generation = generation then { probe with aborted := true } else probe)
  | abandoned {generation : Nat} {rearm : Bool}
      (restarting : before.monitor.slot = .restarting generation rearm) :
      Turn before [.stopped] ({ before.monitor with slot := .idle }.record .restarting .idle)
        before.probes

theorem Turn.nothing (before : System) : Turn before [] before.monitor before.probes :=
  .quiet fun _ never => absurd never List.not_mem_nil

namespace System

variable (system : System)

theorem set_probes {number : Nat} {probe : ProbeTask}
    (present : system.probes[number]? = some probe) (phase : ProbePhase) :
    (system.probes.modify number fun probe => { probe with phase }) =
      system.probes.set number { probe with phase } := by
  rw [@List.modify_eq_set _ ⟨probe⟩, present]
  rfl

/-- Whom the bridge serves is nothing to the monitor. -/
theorem startMonitor_bridge (bridge : Bridge) :
    { system with bridge }.startMonitor = { system.startMonitor with bridge } := by
  rw [startMonitor, startMonitor, Monitor.start]
  cases system.monitor.slot <;> rfl

theorem turn_startMonitor :
    Turn system [.started] system.startMonitor.monitor system.startMonitor.probes := by
  rw [startMonitor, Monitor.start]
  cases slot : system.monitor.slot with
  | idle => exact .scheduled slot
  | monitoring generation => exact .running slot
  | restarting generation rearm => exact .remembered slot

theorem turn_stopMonitor :
    Turn system [.stopped] system.stopMonitor.monitor system.stopMonitor.probes := by
  rw [stopMonitor, Monitor.stop]
  cases slot : system.monitor.slot with
  | idle => exact .stopped slot
  | monitoring generation => exact .cancelled slot
  | restarting generation rearm => exact .abandoned slot

section Probe

variable {number : Nat} {probe : ProbeTask} (present : system.probes[number]? = some probe)

include present

/-- A task that goes on probing. -/
theorem turn_probing {after : System} {phase : ProbePhase} {done : List Moment}
    (was : probe.phase.isRecovering = false) (becomes : phase.isRecovering = false)
    (mute : ∀ moment ∈ done, ∃ report current, moment = .judged number report current)
    (count : Nat) (monitor : after.monitor = { system.monitor with probes := count })
    (probes : after.probes =
      system.probes.modify number fun probe => { probe with phase }) :
    Turn system done after.monitor after.probes := by
  rw [monitor, probes, system.set_probes present]
  exact .probing present was becomes mute

theorem turn_beginProbe {due : Nat} (waiting : probe.phase = .waiting due) :
    Turn system [] (system.beginProbe number due).monitor
      (system.beginProbe number due).probes := by
  have was : probe.phase.isRecovering = false := by rw [waiting]; rfl
  have mute : ∀ moment ∈ ([] : List Moment), ∃ report current,
      moment = .judged number report current := fun _ never => absurd never List.not_mem_nil
  rw [beginProbe]
  cases system.rehearsal with
  | none => exact system.turn_probing present was rfl mute _ rfl rfl
  | some rehearsal => exact system.turn_probing present was rfl mute _ rfl rfl

theorem turn_judge {due : Nat} {report : HealthReport}
    (judging : probe.phase = .judging due report) :
    Turn system [.judged number report (system.monitor.slot = .monitoring probe.generation)]
      (system.judge number probe.generation due report).monitor
      (system.judge number probe.generation due report).probes := by
  have was : probe.phase.isRecovering = false := by rw [judging]; rfl
  have mute : ∀ current, ∀ moment ∈ [Moment.judged number report current],
      ∃ report current, moment = .judged number report current :=
    fun current moment member => ⟨report, current, List.mem_singleton.mp member⟩
  rw [judge, Monitor.claim?]
  by_cases healthy : report.isHealthy = true
  · rw [if_pos healthy]
    by_cases own : system.monitor.slot = .monitoring probe.generation
    · rw [if_pos own, decide_eq_true own]
      show Turn system _ _ (system.probes.modify number _)
      rw [system.set_probes present]
      exact .claimed present judging healthy own
    · rw [if_neg own]
      exact system.turn_probing present was rfl (mute _) _ rfl rfl
  · rw [if_neg healthy]
    exact system.turn_probing present was rfl (mute _) _ rfl rfl

theorem turn_concludeProbe (concluding : probe.phase = .concluding) :
    Turn system [] (system.concludeProbe number probe.generation).monitor
      (system.concludeProbe number probe.generation).probes := by
  have set := system.set_probes present .ended
  by_cases own : ∃ rearm, system.monitor.slot = .restarting probe.generation rearm
  · obtain ⟨rearm, slot⟩ := own
    rw [concludeProbe, Monitor.conclude, slot]
    dsimp only
    rw [if_pos rfl]
    cases rearm with
    | true =>
      show Turn system _ _ (system.probes.modify number _ ++ _)
      rw [set]
      exact .rearmed present concluding slot
    | false =>
      show Turn system _ _ (system.probes.modify number _)
      rw [set]
      exact .recovered present concluding slot
  · have foreign : system.monitor.conclude probe.generation = (.none, system.monitor) := by
      rw [Monitor.conclude]
      cases slot : system.monitor.slot with
      | idle | monitoring => rfl
      | restarting holder rearm =>
        dsimp only
        rw [if_neg]
        rintro rfl
        exact own ⟨rearm, slot⟩
    rw [concludeProbe, foreign]
    show Turn system _ _ (system.probes.modify number _)
    rw [set]
    exact .superseded present concluding fun rearm slot => own ⟨rearm, slot⟩

theorem turn_stepProbe :
    Turn system (system.probeMoments number probe) (system.stepProbe number probe).monitor
      (system.stepProbe number probe).probes := by
  have silent : ∀ moment ∈ ([] : List Moment), ∃ report current,
      moment = .judged number report current := fun _ never => absurd never List.not_mem_nil
  have quiet := Turn.nothing system
  rw [probeMoments, stepProbe]
  cases phase : probe.phase with
  | starting =>
    have becomes : ProbePhase.isRecovering
        (if system.period = 0 then .ended else .waiting (system.now + system.period)) = false := by
      split <;> rfl
    exact system.turn_probing present (by rw [phase]; rfl) becomes silent _ rfl rfl
  | waiting due =>
    dsimp only
    by_cases ready : due ≤ system.now
    · rw [if_pos ready]
      exact system.turn_beginProbe present phase
    · rw [if_neg ready]
      exact quiet
  | reading due cluster =>
    exact system.turn_probing present (by rw [phase]; rfl) rfl silent _ rfl rfl
  | judging due report => exact system.turn_judge present phase
  | noting =>
    show Turn system _ _ (system.probes.modify number _)
    rw [system.set_probes present]
    exact .began present phase
  | restarting call =>
    dsimp only
    by_cases returned : system.hasReturned call = true
    · rw [if_pos returned, if_pos returned]
      show Turn system _ _ (system.probes.modify number _)
      rw [system.set_probes present]
      exact .completed present phase returned
    · rw [if_neg returned, if_neg returned]
      exact quiet
  | concluding => exact system.turn_concludeProbe present phase
  | ended => exact quiet

end Probe

/-- Whatever is done, the monitor changes in one of these ways. -/
theorem turn_perform (act : Act) :
    Turn system (system.moments act) (system.perform act).monitor (system.perform act).probes := by
  have quiet := Turn.nothing system
  cases act with
  | call | pass | others => exact quiet
  | start => exact system.turn_startMonitor
  | stop => exact system.turn_stopMonitor
  | step task =>
    dsimp only [moments, perform, step]
    cases task with
    | call number =>
      dsimp only
      cases system.calls[number]? <;> exact quiet
    | probe number =>
      dsimp only
      cases present : system.probes[number]? with
      | none => exact quiet
      | some probe => exact system.turn_stepProbe present
    | loop number =>
      dsimp only
      cases system.container.loops[number]? with
      | none => exact quiet
      | some loop =>
        dsimp only
        cases loop.aborted with
        | true => exact quiet
        | false =>
          refine .quiet fun moment member => ⟨number, ?_⟩
          rw [if_neg Bool.false_ne_true, loopMoments] at member
          split at member
          · exact List.mem_singleton.mp member
          · exact absurd member List.not_mem_nil
    | bridge =>
      dsimp only [stepBridge]
      cases system.bridge with
      | absent => exact quiet
      | waiting =>
        dsimp only
        cases system.pipeline.signal.take? <;> exact quiet
      | holding event =>
        dsimp only
        rw [startMonitor_bridge]
        exact system.turn_startMonitor

end System

end AccessFeed
