/-
This file says what the tasks of the system do to the stream store: they make
calls, and gentle ones.

No task deletes an entry, and none gives an entry an id of its own choice; only
cleanups delete. So whatever the tasks do in whatever order, an entry that is
there stays there until a cleanup takes it away, and a stream is never created
without an entry.
-/

import AccessFeed.Pipeline.Publishing
import AccessFeed.Proofs.Attendance
import AccessFeed.Proofs.CleanupCalls

namespace AccessFeed

open Streams (StoreCall)

/-! ### Ensuring, publishing and probing -/

/-- Every step of ensuring a group makes a call. -/
theorem EnsurePhase.leads_step (stream group : String) (phase : EnsurePhase)
    (pipeline : Pipeline) :
    Leads StoreCall.Gentle pipeline (phase.step stream group pipeline).2 := by
  cases phase with
  | checking =>
    dsimp only [step]
    split <;>
      rename_i answered <;>
      exact Leads.of_ask (.hasStream stream) trivial answered fun _ => rfl
  | seeding =>
    dsimp only [step]
    split <;>
      rename_i answered <;>
      exact Leads.of_ask (.append ..) trivial answered fun _ => rfl
  | listing =>
    dsimp only [step]
    split <;>
      rename_i answered <;>
      exact Leads.of_ask (.groupNames stream) trivial answered fun _ => rfl
  | creating =>
    dsimp only [step]
    split <;>
      rename_i answered <;>
      exact Leads.of_ask (.createGroup stream group) trivial answered fun _ => rfl
  | finished result => exact Leads.of_service rfl

namespace Pipeline

variable (pipeline : Pipeline)

/-- Publishing an event makes one call. -/
theorem leads_publish (zone : Calendar.Zone) (stream : String) (event : Event.AccessEvent) :
    Leads StoreCall.Gentle pipeline (pipeline.publish zone stream event) := by
  dsimp only [publish]
  split <;>
    rename_i answered <;>
    exact (Leads.of_ask (.append ..) trivial answered fun _ => rfl).trans (Leads.of_service rfl)

theorem leads_probeCluster : Leads StoreCall.Gentle pipeline pipeline.probeCluster.2 := by
  dsimp only [probeCluster]
  split <;>
    rename_i answered <;>
    exact Leads.of_ask .cluster trivial answered fun _ => rfl

theorem leads_probeStream (stream : String) :
    Leads StoreCall.Gentle pipeline (pipeline.probeStream stream).2 := by
  dsimp only [probeStream]
  split <;>
    rename_i answered <;>
    exact Leads.of_ask (.range ..) trivial answered fun _ => rfl

end Pipeline

/-! ### Controlling the container -/

namespace Control

theorem leads_ensure (set : Settings.ConsumerSet) (message : String) (phase : EnsurePhase)
    (pipeline : Pipeline) :
    Leads StoreCall.Gentle pipeline (ensure set message phase pipeline).2 := by
  have made := EnsurePhase.leads_step set.stream set.group phase pipeline
  cases phase with
  | checking | seeding | listing | creating => exact made
  | finished result => cases result <;> exact Leads.of_service rfl

theorem service_abortAll (numbers : List Nat) (scope : Scope) :
    (abortAll numbers scope).pipeline.service = scope.pipeline.service := by
  induction numbers generalizing scope with
  | nil => rfl
  | cons number rest inductionHypothesis =>
    rw [abortAll]
    split
    · exact inductionHypothesis scope
    · exact inductionHypothesis _

/-- An action of a call makes a call on the store at most. -/
theorem leads_act (grace now : Nat) (scope : Scope) (action : ControlAction) :
    Leads StoreCall.Gentle scope.pipeline (act grace now scope action).2.pipeline := by
  cases action with
  | register set phase =>
    have made := leads_ensure set "Failed to ensure consumer group" phase scope.pipeline
    dsimp only [act]
    generalize ensure set _ phase scope.pipeline = ensured at made ⊢
    obtain ⟨_ | phase, pipeline⟩ := ensured <;> exact made
  | ensure set phase =>
    have made := leads_ensure set "Failed to ensure consumer group on restart" phase scope.pipeline
    dsimp only [act]
    generalize ensure set _ phase scope.pipeline = ensured at made ⊢
    obtain ⟨_ | phase, pipeline⟩ := ensured <;> exact made
  | launch =>
    refine Leads.of_service ?_
    dsimp only [act, launch]
    split
    · rfl
    · dsimp only
      split <;> rfl
  | halt =>
    refine Leads.of_service ?_
    dsimp only [act]
    split <;> rfl
  | drain numbers deadline =>
    refine Leads.of_service ?_
    dsimp only [act]
    split
    · rfl
    · split
      · exact service_abortAll numbers scope
      · rfl
  | rest millis => exact Leads.of_service rfl
  | resting until_ =>
    refine Leads.of_service ?_
    dsimp only [act]
    split <;> rfl

theorem leads_step (grace now : Nat) (call : ControlCall) (scope : Scope) :
    Leads StoreCall.Gentle scope.pipeline (step grace now call scope).2.pipeline := by
  cases call with
  | nil => exact Leads.of_service rfl
  | cons action rest => exact leads_act grace now scope action

end Control

/-! ### Listening -/

/-- A step of a listener makes a call at most. -/
theorem Listener.leads_step (settings : ListenerSettings) (spec : ListenerSpec) (shutdown : Bool)
    (now : Nat) (phase : ListenerPhase) (pipeline : Pipeline) :
    Leads StoreCall.Gentle pipeline (step settings spec shutdown now phase pipeline).2 := by
  cases phase with
  | starting | delivering | stopping | stopped => exact Leads.of_service rfl
  | reading offset =>
    cases shutdown with
    | true => exact Leads.of_service rfl
    | false =>
      exact Leads.of_call
        (.readGroup spec.stream spec.group spec.consumer offset settings.readCount) trivial
        (service_read settings spec now pipeline offset) fun _ => rfl
  | dispatching next record dispatch rest tombstones =>
    rw [pipeline_step_dispatching]
    by_cases acknowledging : dispatch = .acknowledging
    · subst acknowledging
      exact Leads.of_call (.acknowledge record.stream spec.group [record.id]) trivial
        (Dispatch.service_acknowledge spec.group record pipeline) fun _ => rfl
    · exact Leads.of_service
        (Dispatch.spares_step spec.group record now pipeline acknowledging).1.service
  | sweeping next tombstones =>
    exact Leads.of_call (.acknowledge spec.stream spec.group tombstones) trivial
      (service_dropTombstones spec pipeline tombstones) fun _ => rfl
  | idle offset until_ =>
    refine Leads.of_service ?_
    dsimp only [step]
    split
    · rfl
    · split <;> rfl

/-! ### The system -/

namespace System

variable (system : System)

theorem service_startMonitor : system.startMonitor.pipeline.service = system.pipeline.service := by
  rw [startMonitor, Monitor.start]
  cases system.monitor.slot <;> rfl

theorem service_stopMonitor : system.stopMonitor.pipeline.service = system.pipeline.service := by
  rw [stopMonitor]
  cases system.monitor.slot <;> rfl

/-- A step of a probing task makes a call at most. -/
theorem leads_stepProbe (number : Nat) (probe : ProbeTask) :
    Leads StoreCall.Gentle system.pipeline (system.stepProbe number probe).pipeline := by
  rw [stepProbe]
  cases probe.phase with
  | starting | noting | ended => exact Leads.of_service rfl
  | reading due cluster => exact system.pipeline.leads_probeStream _
  | waiting due =>
    dsimp only
    split
    · rw [beginProbe]
      cases system.rehearsal with
      | none => exact system.pipeline.leads_probeCluster
      | some reports => exact Leads.of_service rfl
    · exact Leads.of_service rfl
  | judging due report =>
    refine Leads.of_service ?_
    dsimp only
    rw [judge]
    split
    · split <;> rfl
    · rfl
  | restarting call =>
    refine Leads.of_service ?_
    dsimp only
    split <;> rfl
  | concluding =>
    refine Leads.of_service ?_
    dsimp only
    rw [concludeProbe]
    generalize system.monitor.conclude probe.generation = concluded
    obtain ⟨effect, monitor⟩ := concluded
    cases effect <;> rfl

theorem settings_startMonitor : system.startMonitor.settings = system.settings := by
  rw [startMonitor, Monitor.start]
  cases system.monitor.slot <;> rfl

theorem settings_stepProbe (number : Nat) (probe : ProbeTask) :
    (system.stepProbe number probe).settings = system.settings := by
  rw [stepProbe]
  cases probe.phase with
  | starting | noting | ended | reading => rfl
  | waiting due =>
    dsimp only
    split
    · rw [beginProbe]
      cases system.rehearsal <;> rfl
    · rfl
  | judging due report =>
    dsimp only
    rw [judge]
    split
    · split <;> rfl
    · rfl
  | restarting call =>
    dsimp only
    split <;> rfl
  | concluding =>
    dsimp only
    rw [concludeProbe]
    generalize system.monitor.conclude probe.generation = concluded
    obtain ⟨effect, monitor⟩ := concluded
    cases effect <;> rfl

/-- No task changes the settings. -/
theorem settings_step (task : Task) : (system.step task).settings = system.settings := by
  cases task with
  | call number =>
    dsimp only [step]
    split <;> rfl
  | probe number =>
    dsimp only [step]
    split
    · rfl
    · exact system.settings_stepProbe number _
  | loop number =>
    dsimp only [step]
    split
    · rfl
    · split <;> rfl
  | bridge =>
    dsimp only [step, stepBridge]
    split
    · rfl
    · split <;> rfl
    · rw [startMonitor_bridge]
      exact system.settings_startMonitor

theorem getElem?_calls_of_made {after : System} {number : Nat} {call : ControlCall}
    (present : system.calls[number]? = some call)
    (later : ∃ made, after.calls = system.calls ++ made) : after.calls[number]? = some call := by
  obtain ⟨made, later⟩ := later
  rw [later, List.getElem?_append_left (List.getElem?_eq_some_iff.mp present).1, present]

/-- A call stays as it is when another task takes a step. -/
theorem getElem?_calls_step {number : Nat} {call : ControlCall}
    (present : system.calls[number]? = some call) {task : Task} (other : task ≠ .call number) :
    (system.step task).calls[number]? = some call := by
  cases task with
  | bridge =>
    dsimp only [step, stepBridge]
    split
    · exact present
    · split <;> exact present
    · rw [startMonitor_bridge]
      exact system.getElem?_calls_of_made present system.spares_startMonitor.calls
  | probe probing =>
    dsimp only [step]
    split
    · exact present
    · exact system.getElem?_calls_of_made present (system.spares_stepProbe probing _).calls
  | loop looping =>
    dsimp only [step]
    split
    · exact present
    · split <;> exact present
  | call calling =>
    dsimp only [step]
    split
    · exact present
    · exact (List.getElem?_set_ne fun same => other (congrArg Task.call same)).trans present

/-- A step of a task makes gentle calls only. -/
theorem leads_step (task : Task) :
    Leads StoreCall.Gentle system.pipeline (system.step task).pipeline := by
  cases task with
  | call number =>
    dsimp only [step]
    split
    · exact Leads.of_service rfl
    · exact Control.leads_step system.settings.stopGrace system.now _
        ⟨system.container, system.pipeline⟩
  | probe number =>
    dsimp only [step]
    split
    · exact Leads.of_service rfl
    · exact system.leads_stepProbe number _
  | loop number =>
    dsimp only [step]
    split
    · exact Leads.of_service rfl
    · split
      · exact Leads.of_service rfl
      · exact Listener.leads_step ..
  | bridge =>
    refine Leads.of_service ?_
    dsimp only [step, stepBridge]
    split
    · rfl
    · split <;> rfl
    · rw [startMonitor_bridge]
      exact system.service_startMonitor

end System

end AccessFeed
