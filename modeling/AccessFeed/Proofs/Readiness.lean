/-
This file tells when a store that works is seen as healthy.

The store is healthy when its cluster is and the event stream has an entry. Of
the entries of a stream all tasks leave every one alone, and a cleanup spares the
first, unless the stream holds dead letters. So the event stream keeps an entry
once it has one. It is given one when the listeners of a consumer set of it are
registered; but no setting keeps the event stream from being one that no consumer
set reads, and such a stream is empty until something is published to it.
-/

import AccessFeed.Proofs.Ensuring
import AccessFeed.Proofs.Survivors
import AccessFeed.Proofs.TaskCalls
import Mathlib.Tactic.IntervalCases

namespace AccessFeed

open Calendar (Instant)
open Retention (Cleaner CleanupReport)
open Settings (ConsumerSet)
open Streams (Content Fields IdMap Store StoreCall StreamId)

/-! ### Streams with entries -/

namespace Streams

/-- Whether a stream has an entry. -/
def Stocked (held : Option Content) : Prop :=
  ∃ id, id ∈ (held.getD .empty).entries.ids

/-- Whether a stream has an entry if it is there at all. -/
def Ready (held : Option Content) : Prop :=
  held = none ∨ Stocked held

theorem stocked_add (content : Content) (id : StreamId) (fields : Fields) :
    Stocked (some (content.add id fields)) :=
  ⟨id, IdMap.mem_ids_insert.mpr (Or.inl rfl)⟩

theorem Stocked.effect {held : Option Content} (stocked : Stocked held) {call : StoreCall}
    (gentle : call.Gentle) : Stocked (call.effect held) :=
  stocked.imp fun _ => StoreCall.mem_ids_effect gentle

/-- No gentle call creates a stream without an entry. -/
theorem Ready.effect {held : Option Content} (ready : Ready held) {call : StoreCall}
    (gentle : call.Gentle) : Ready (call.effect held) := by
  rcases ready with rfl | stocked
  · cases call with
    | append now stream fields => exact Or.inr (stocked_add _ _ _)
    | createGroup | readGroup | acknowledge | hasStream | groupNames | pending | range | cluster
    | inject | clear | setClusterState => exact Or.inl rfl
    | delete | appendWithId => exact gentle.elim
  · exact Or.inr (stocked.effect gentle)

theorem Store.size_eq (store : Store) (stream : String) :
    store.size stream = ((store.content? stream).getD .empty).entries.entries.length := by
  rw [size]
  cases store.content? stream <;> rfl

theorem Store.size_pos_iff {store : Store} {stream : String} :
    0 < store.size stream ↔ Stocked (store.content? stream) := by
  rw [size_eq, List.length_pos_iff_exists_mem]
  constructor
  · rintro ⟨entry, member⟩
    exact ⟨entry.1, List.mem_map_of_mem member⟩
  · rintro ⟨id, member⟩
    obtain ⟨entry, listed, -⟩ := List.mem_map.mp member
    exact ⟨entry, listed⟩

/-- Of a stream with entries at least one is read when one may be. -/
theorem Store.isEmpty_listed (store : Store) (stream : String) :
    (store.listed stream .least .greatest 1).isEmpty = decide (store.size stream = 0) := by
  rw [listed, size]
  cases store.content? stream with
  | none => rfl
  | some content =>
    have all : content.entries.between .least .greatest = content.entries.entries :=
      List.filter_eq_self.mpr fun entry _ => by
        simp [StreamId.least_le, StreamId.le_greatest]
    dsimp only
    rw [all]
    show _ = decide (content.entries.entries.length = 0)
    cases content.entries.entries <;> rfl

end Streams

open Streams (Ready Service Stocked)

/-- A stream with entries in order has a first one. -/
theorem Pipeline.exists_first {pipeline : Pipeline} {calls : List StoreCall}
    (stored : pipeline.service.store = Store.empty.after calls) {stream : String}
    (stocked : Stocked (pipeline.service.store.content? stream)) :
    ∃ id fields, pipeline.IsFirst stream id fields := by
  have ascending : ((pipeline.service.store.content? stream).getD .empty).entries.Ascending := by
    rw [stored]
    exact (Streams.orderly_after calls stream).ascending
  have inOrder := ascending.ids
  cases listed : ((pipeline.service.store.content? stream).getD .empty).entries.ids with
  | nil =>
    obtain ⟨id, member⟩ := stocked
    rw [listed] at member
    cases member
  | cons id rest =>
    rw [listed] at inOrder
    obtain ⟨fields, present⟩ := Cleaner.mem_ids_iff_fieldsAt?.mp (listed ▸ List.mem_cons_self)
    refine ⟨id, fields, present, fun other held there => ?_⟩
    have among := Cleaner.mem_ids_iff_fieldsAt?.mpr ⟨held, there⟩
    rw [listed] at among
    rcases List.mem_cons.mp among with rfl | later
    · exact StreamId.le_refl _
    · exact StreamId.le_of_lt ((List.pairwise_cons.mp inOrder).1 other later)

/-! ### Cleanups -/

namespace Retention.Cleaner

variable {cleaner : Cleaner} {pipeline ended : Pipeline} {now : Instant} {report : CleanupReport}
  {calls : List StoreCall} {stream : String}

/-- A cleanup leaves a stream without dead letters stocked. -/
theorem stocked_run (stored : pipeline.service.store = Store.empty.after calls)
    (apart : cleaner.settings.deadLetterEnabled = true → ∀ source ∈ cleaner.consumers,
      cleaner.settings.deadLetterStream source.stream ≠ stream)
    (ran : cleaner.run? now pipeline = some (report, ended))
    (stocked : Stocked (pipeline.service.store.content? stream)) :
    Stocked (ended.service.store.content? stream) := by
  obtain ⟨threshold, limit, -⟩ := Option.map_eq_some_iff.mp ran
  obtain ⟨id, fields, first⟩ := Pipeline.exists_first stored stocked
  exact ⟨id, mem_ids_iff_fieldsAt?.mpr
    ⟨fields, first_survives stored limit ran first apart⟩⟩

/-- A cleanup creates no stream, but for dead letters. -/
theorem ready_run (stored : pipeline.service.store = Store.empty.after calls)
    (apart : cleaner.settings.deadLetterEnabled = true → ∀ source ∈ cleaner.consumers,
      cleaner.settings.deadLetterStream source.stream ≠ stream)
    (ran : cleaner.run? now pipeline = some (report, ended))
    (ready : Ready (pipeline.service.store.content? stream)) :
    Ready (ended.service.store.content? stream) := by
  rcases ready with missing | stocked
  · refine Or.inl ((leads_run ran).holds (· = none) (fun call made named held absent => ?_) missing)
    subst absent
    cases made with
    | delete => rfl
    | copy copies =>
      cases copies with
      | append member enabled => exact absurd (Option.some.inj named) (apart enabled _ member)
      | range | pending | acknowledge => rfl
  · exact Or.inr (stocked_run stored apart ran stocked)

end Retention.Cleaner

/-! ### Registering listeners -/

/-- Whether a phase comes before all that rely on the stream. -/
def EnsurePhase.isEarly : EnsurePhase → Bool
  | .checking => true
  | .seeding => true
  | _ => false

/-- Where no call fails, the stream has an entry as soon as an early phase is left. -/
theorem EnsurePhase.stocked_step {pipeline : Pipeline} (working : pipeline.service.Working)
    {stream : String} (group : String) {phase : EnsurePhase} (early : phase.isEarly = true)
    (ready : Ready (pipeline.service.store.content? stream)) :
    (phase.step stream group pipeline).1.isEarly = true ∨
      Stocked ((phase.step stream group pipeline).2.service.store.content? stream) := by
  have next : phase.Next pipeline.service.store stream group (phase.step stream group pipeline).1 :=
    next_step working fun used => by cases phase <;> simp [remaining, isEarly] at used early
  have made := service_step working stream group phase
  rw [made]
  generalize (phase.step stream group pipeline).1 = left at next ⊢
  cases next with
  | found present =>
    have stocked := ready.resolve_left fun missing => by simp [missing] at present
    have gentle : ∀ call ∈ [StoreCall.hasStream stream], call.Gentle := by simp [StoreCall.Gentle]
    exact Or.inr (Store.content?_after (fun call member _ _ there => there.effect
      (gentle call member)) stocked)
  | missing => exact Or.inl rfl
  | seeded =>
    have added := StoreCall.content?_append working.2 pipeline.wallMillis stream stream placeholder
    rw [if_pos rfl] at added
    exact Or.inr (added ▸ Streams.stocked_add _ _ _)
  | listed | unlisted | created | idle => cases early

/-- Whether an action registers listeners of a stream that it may still find missing. -/
def ControlAction.Awaits (stream : String) : ControlAction → Prop
  | .register set phase => set.stream = stream ∧ phase.isEarly = true
  | _ => False

/-- Where no call fails, a call that registers listeners of a stream goes on to do so until the
stream has an entry. -/
theorem Control.awaits_step {scope : Scope} (working : scope.pipeline.service.Working)
    {stream : String} (ready : Ready (scope.pipeline.service.store.content? stream))
    {call : ControlCall} (awaits : ∃ action ∈ call, action.Awaits stream) (grace now : Nat) :
    (∃ action ∈ (step grace now call scope).1, action.Awaits stream) ∨
      Stocked ((step grace now call scope).2.pipeline.service.store.content? stream) := by
  obtain ⟨action, member, waits⟩ := awaits
  cases call with
  | nil => cases member
  | cons first rest =>
    rcases List.mem_cons.mp member with rfl | later
    · cases action with
      | register set phase =>
        obtain ⟨rfl, early⟩ := waits
        have made := EnsurePhase.stocked_step working set.group early ready
        dsimp only [step, act]
        cases phase with
        | checking | seeding =>
          exact made.imp_left fun still => ⟨_, List.mem_cons_self, rfl, still⟩
        | listing | creating | finished => cases early
      | ensure | launch | halt | drain | rest | resting => exact waits.elim
    · exact Or.inl ⟨action, List.mem_append_right _ later, waits⟩

/-! ### Probing -/

namespace Pipeline

variable {pipeline : Pipeline}

/-- Where no call fails, a probe finds nothing wrong with a healthy cluster. -/
theorem probeCluster_of_working (working : pipeline.service.Working)
    (ok : pipeline.service.store.clusterState.getD "ok" = healthyState) :
    pipeline.probeCluster = (none, pipeline) := by
  have answered : pipeline.service.clusterState = (.ok healthyState, pipeline.service) := by
    rw [Service.clusterState, Service.call_of_working working, Store.cluster,
      Store.guarded_of_working working.2, Service.of_store_eq working rfl, ok]
  rw [probeCluster, ask, answered]
  exact congrArg (·, pipeline) (if_pos rfl)

/-- Where no call fails, a probe finds something wrong with a stream exactly if it has no entry. -/
theorem probeStream_of_working (working : pipeline.service.Working) (stream : String) :
    pipeline.probeStream stream =
      (if 0 < pipeline.service.store.size stream then none
        else some ("stream " ++ stream ++ " is empty"), pipeline) := by
  rw [probeStream, ask, Service.range_of_working working]
  dsimp only
  rw [Store.isEmpty_listed]
  by_cases stocked : 0 < pipeline.service.store.size stream
  · rw [if_pos stocked, if_neg (by simpa using Nat.ne_of_gt stocked)]
  · rw [if_neg stocked, if_pos (by simpa using stocked)]

/-- Where no call fails and the cluster is healthy, the store is healthy exactly if the event stream
has an entry. -/
theorem isHealthy_iff (working : pipeline.service.Working)
    (ok : pipeline.service.store.clusterState.getD "ok" = healthyState) (stream : String) :
    (pipeline.checkHealth stream).1.isHealthy = true ↔
      0 < pipeline.service.store.size stream := by
  rw [checkHealth, probeCluster_of_working working ok]
  dsimp only
  rw [probeStream_of_working working]
  by_cases stocked : 0 < pipeline.service.store.size stream
  · rw [if_pos stocked]
    exact iff_of_true rfl stocked
  · rw [if_neg stocked]
    exact iff_of_false (fun impossible => by cases impossible) stocked

end Pipeline

namespace System

variable {system : System} {number due : Nat} {probe : ProbeTask}

/-- Whether a probing task comes to a phase, and the monitor, the pipeline and the settings are as
they were. -/
structure Comes (before after : System) (number : Nat) (probe : ProbeTask) : Prop where
  probe : after.probes[number]? = some probe
  slot : after.monitor.slot = before.monitor.slot
  pipeline : after.pipeline = before.pipeline
  settings : after.settings = before.settings

theorem comes_setProbe (present : system.probes[number]? = some probe) (phase : ProbePhase) :
    system.Comes (system.setProbe number phase) number { probe with phase } := by
  refine ⟨?_, rfl, rfl, rfl⟩
  show (system.probes.modify number fun probe => { probe with phase })[number]? = _
  rw [List.getElem?_modify, present]
  exact congrArg some (if_pos rfl)

theorem comes_waiting (working : system.pipeline.service.Working)
    (ok : system.pipeline.service.store.clusterState.getD "ok" = Pipeline.healthyState)
    (unrehearsed : system.rehearsal = none) (present : system.probes[number]? = some probe)
    (waiting : probe.phase = .waiting due) (ready : due ≤ system.now) :
    system.Comes (system.step (.probe number)) number
      { probe with phase := .reading due none } := by
  rw [step, present]
  dsimp only
  rw [stepProbe, waiting]
  dsimp only
  rw [if_pos ready, beginProbe, unrehearsed, Pipeline.probeCluster_of_working working ok]
  obtain ⟨probe, slot, pipeline, settings⟩ := @comes_setProbe
    { system with monitor.probes := system.monitor.probes + 1 } number probe present
    (.reading due none)
  exact ⟨probe, slot, pipeline, settings⟩

theorem comes_reading (working : system.pipeline.service.Working)
    (stocked : 0 < system.pipeline.service.store.size system.settings.eventStream)
    (present : system.probes[number]? = some probe) (reading : probe.phase = .reading due none) :
    system.Comes (system.step (.probe number)) number
      { probe with phase := .judging due (.ofFindings none none) } := by
  rw [step, present]
  dsimp only
  rw [stepProbe, reading]
  dsimp only
  rw [Pipeline.probeStream_of_working working, if_pos stocked]
  exact comes_setProbe present _

theorem slot_of_judging (present : system.probes[number]? = some probe)
    (judging : probe.phase = .judging due (.ofFindings none none))
    (own : system.monitor.slot = .monitoring probe.generation) :
    (system.step (.probe number)).monitor.slot = .restarting probe.generation false := by
  rw [step, present]
  dsimp only
  rw [stepProbe, judging]
  dsimp only
  rw [judge, Monitor.claim?, if_pos own]
  rfl

/-- The task that probes a healthy store for the monitor takes three steps until the monitor
restarts the container. -/
theorem slot_of_healthy (working : system.pipeline.service.Working)
    (ok : system.pipeline.service.store.clusterState.getD "ok" = Pipeline.healthyState)
    (stocked : 0 < system.pipeline.service.store.size system.settings.eventStream)
    (unrehearsed : system.rehearsal = none) (present : system.probes[number]? = some probe)
    (waiting : probe.phase = .waiting due) (ready : due ≤ system.now)
    (own : system.monitor.slot = .monitoring probe.generation) :
    (((system.step (.probe number)).step (.probe number)).step (.probe number)).monitor.slot =
      .restarting probe.generation false := by
  have asked := comes_waiting working ok unrehearsed present waiting ready
  have told := comes_reading (asked.pipeline.symm ▸ working)
    (asked.pipeline.symm ▸ asked.settings.symm ▸ stocked) asked.probe rfl
  have left := slot_of_judging told.probe rfl (told.slot.trans (asked.slot.trans own))
  exact left

end System

/-! ### The system at work -/

/-- What happens in a system with some settings: its tasks take steps, calls are made, the monitor
is started and stopped, events are published, groups are ensured, and cleanups run. Others make
gentle calls on the store, and change anything but the streams. Calls on the store may fail at any
time, but for the steps of one of the calls that control the container, that of some number. -/
inductive Operation (settings : Settings) (number : Nat) : System → System → Prop
  | task {system : System} (task : Task)
      (unfailing : task = .call number → system.hasReturned number = false →
        system.pipeline.service.Working) :
      Operation settings number system (system.step task)
  | call (system : System) (call : ControlCall) :
      Operation settings number system (system.makeCall call)
  | start (system : System) : Operation settings number system system.startMonitor
  | stop (system : System) : Operation settings number system system.stopMonitor
  | publish (system : System) (zone : Calendar.Zone) (stream : String)
      (event : Event.AccessEvent) :
      Operation settings number system
        { system with pipeline := system.pipeline.publish zone stream event }
  | ensure (system : System) (stream group : String) (phase : EnsurePhase) :
      Operation settings number system
        { system with pipeline := (phase.step stream group system.pipeline).2 }
  | clean {system : System} {now : Instant} {report : CleanupReport} {ended : Pipeline}
      (ran : (Cleaner.of settings).run? now system.pipeline = some (report, ended)) :
      Operation settings number system { system with pipeline := ended }
  | others (system : System) {call : StoreCall} (gentle : call.Gentle) :
      Operation settings number system
        { system with
          pipeline.service.store := (call.perform system.pipeline.service.store).2 }
  | change {system : System} (now : Nat) (pipeline : Pipeline)
      (same : pipeline.service.store = system.pipeline.service.store) :
      Operation settings number system { system with now, pipeline }

/-- The systems that come about from one. -/
inductive Operated (settings : Settings) (number : Nat) (start : System) : System → Prop
  | start : Operated settings number start start
  | operation {before after : System} (operated : Operated settings number start before)
      (operation : Operation settings number before after) :
      Operated settings number start after

namespace Operation

variable {settings : Settings} {number : Nat} {before after : System}

/-- Whatever happens makes gentle calls only, but for a cleanup. -/
theorem calls_or_cleanup (operation : Operation settings number before after) :
    (∃ calls : List StoreCall, (∀ call ∈ calls, call.Gentle) ∧
      after.pipeline.service.store = before.pipeline.service.store.after calls) ∨
    ∃ now report,
      (Cleaner.of settings).run? now before.pipeline = some (report, after.pipeline) := by
  cases operation with
  | task task => exact Or.inl (before.leads_step task).calls
  | call => exact Or.inl (Leads.of_service rfl).calls
  | start => exact Or.inl (Leads.of_service before.service_startMonitor).calls
  | stop => exact Or.inl (Leads.of_service before.service_stopMonitor).calls
  | publish zone stream event =>
    exact Or.inl (before.pipeline.leads_publish zone stream event).calls
  | ensure stream group phase =>
    exact Or.inl (EnsurePhase.leads_step stream group phase before.pipeline).calls
  | clean ran => exact Or.inr ⟨_, _, ran⟩
  | @others call gentle =>
    exact Or.inl ⟨[call], fun _ member => List.mem_singleton.mp member ▸ gentle, rfl⟩
  | change now pipeline same =>
    exact Or.inl ⟨[], fun _ member => absurd member List.not_mem_nil, same⟩

theorem stored (operation : Operation settings number before after)
    (stored : ∃ calls, before.pipeline.service.store = Store.empty.after calls) :
    ∃ calls, after.pipeline.service.store = Store.empty.after calls := by
  obtain ⟨calls, made⟩ := stored
  obtain ⟨more, madeMore⟩ : ∃ more : List StoreCall,
      after.pipeline.service.store = before.pipeline.service.store.after more := by
    rcases operation.calls_or_cleanup with ⟨more, -, madeMore⟩ | ⟨now, report, ran⟩
    · exact ⟨more, madeMore⟩
    · exact (Cleaner.leads_run ran).calls.imp fun _ => And.right
  exact ⟨calls ++ more, by rw [madeMore, made, Store.after_append]⟩

section

variable (operation : Operation settings number before after)
  (stored : ∃ calls, before.pipeline.service.store = Store.empty.after calls) {stream : String}
  (apart : settings.retention.deadLetterEnabled = true → ∀ source ∈ settings.reading.consumers,
    settings.retention.deadLetterStream source.stream ≠ stream)

include operation stored apart

/-- A stream without dead letters keeps an entry. -/
theorem stocked (stocked : Stocked (before.pipeline.service.store.content? stream)) :
    Stocked (after.pipeline.service.store.content? stream) := by
  rcases operation.calls_or_cleanup with ⟨calls, gentle, made⟩ | ⟨now, report, ran⟩
  · rw [made]
    exact Store.content?_after (fun call member _ _ there => there.effect (gentle call member))
      stocked
  · obtain ⟨calls, made⟩ := stored
    exact Cleaner.stocked_run made apart ran stocked

theorem ready (ready : Ready (before.pipeline.service.store.content? stream)) :
    Ready (after.pipeline.service.store.content? stream) := by
  rcases operation.calls_or_cleanup with ⟨calls, gentle, made⟩ | ⟨now, report, ran⟩
  · rw [made]
    exact Store.content?_after (fun call member _ _ there => there.effect (gentle call member))
      ready
  · obtain ⟨calls, made⟩ := stored
    exact Cleaner.ready_run made apart ran ready

end

/-- A call that was made stays as it is, but for its own steps, in which no call on the store
fails. -/
theorem call_cases (operation : Operation settings number before after) {call : ControlCall}
    (present : before.calls[number]? = some call) (unreturned : call ≠ []) :
    after.calls[number]? = some call ∨
    before.pipeline.service.Working ∧
      after.calls[number]? = some (Control.step before.settings.stopGrace before.now call
        ⟨before.container, before.pipeline⟩).1 ∧
      after.pipeline = (Control.step before.settings.stopGrace before.now call
        ⟨before.container, before.pipeline⟩).2.pipeline := by
  cases operation with
  | call made => exact Or.inl (before.getElem?_calls_of_made present ⟨[made], rfl⟩)
  | start =>
    exact Or.inl (before.getElem?_calls_of_made present before.spares_startMonitor.calls)
  | stop =>
    refine Or.inl ?_
    rw [System.stopMonitor]
    cases before.monitor.slot <;> exact present
  | publish | ensure | clean | others | change => exact Or.inl present
  | task task unfailing =>
    by_cases own : task = .call number
    · subst own
      have under : before.hasReturned number = false := by
        rw [System.hasReturned, present]
        cases call with
        | nil => exact absurd rfl unreturned
        | cons => rfl
      dsimp only [System.step]
      rw [present]
      exact Or.inr ⟨unfailing rfl under,
        List.getElem?_set_self (List.getElem?_eq_some_iff.mp present).1, rfl⟩
    · exact Or.inl (before.getElem?_calls_step present own)

theorem settings_eq (operation : Operation settings number before after) :
    after.settings = before.settings := by
  cases operation with
  | task task => exact before.settings_step task
  | start => exact before.settings_startMonitor
  | stop =>
    rw [System.stopMonitor]
    cases before.monitor.slot <;> rfl
  | call | publish | ensure | clean | others | change => rfl

end Operation

namespace Operated

variable {settings : Settings} {number : Nat} {start system : System}

theorem settings_eq (operated : Operated settings number start system) :
    system.settings = start.settings := by
  induction operated with
  | start => rfl
  | operation _ operation same => exact operation.settings_eq.trans same

theorem stored (operated : Operated settings number start system)
    (stored : ∃ calls, start.pipeline.service.store = Store.empty.after calls) :
    ∃ calls, system.pipeline.service.store = Store.empty.after calls := by
  induction operated with
  | start => exact stored
  | operation _ operation earlier => exact operation.stored earlier

section

variable (operated : Operated settings number start system)
  (stored : ∃ calls, start.pipeline.service.store = Store.empty.after calls) {stream : String}
  (apart : settings.retention.deadLetterEnabled = true → ∀ source ∈ settings.reading.consumers,
    settings.retention.deadLetterStream source.stream ≠ stream)

include operated stored apart

/-- A stream without dead letters that has an entry has one at all times. -/
theorem stocked (stocked : Stocked (start.pipeline.service.store.content? stream)) :
    Stocked (system.pipeline.service.store.content? stream) := by
  induction operated with
  | start => exact stocked
  | operation before operation earlier =>
    exact operation.stocked (before.stored stored) apart earlier

/-- A stream that is registered is there with an entry, or is going to be. -/
theorem supplied (ready : Ready (start.pipeline.service.store.content? stream))
    {call : ControlCall} (present : start.calls[number]? = some call)
    (awaits : ∃ action ∈ call, action.Awaits stream) :
    Ready (system.pipeline.service.store.content? stream) ∧
      (Stocked (system.pipeline.service.store.content? stream) ∨
        ∃ call, system.calls[number]? = some call ∧ ∃ action ∈ call, action.Awaits stream) := by
  induction operated with
  | start => exact ⟨ready, Or.inr ⟨call, present, awaits⟩⟩
  | @operation before after earlier operation inductionHypothesis =>
    obtain ⟨ready, supplied⟩ := inductionHypothesis
    have kept := earlier.stored stored
    refine ⟨operation.ready kept apart ready, ?_⟩
    rcases supplied with stocked | ⟨call, present, awaits⟩
    · exact Or.inl (operation.stocked kept apart stocked)
    · have unreturned : call ≠ [] := by
        rintro rfl
        obtain ⟨_, impossible, _⟩ := awaits
        cases impossible
      rcases operation.call_cases present unreturned with same | ⟨working, calls, pipeline⟩
      · exact Or.inr ⟨call, same, awaits⟩
      · rw [pipeline]
        exact ((Control.awaits_step working ready awaits _ _).imp_left fun still =>
          ⟨_, calls, still⟩).symm

end

end Operated

/-- Where no call fails and the cluster is healthy, the store is seen as healthy exactly if the
event stream has an entry, and then a task that probes for the monitor takes three steps until the
monitor restarts the container. Unless it holds dead letters, the event stream has an entry at all
times once it has one, and it has one as soon as all listeners are registered, if it was not there
before and some consumer set reads it. -/
theorem Operated.healthy_iff_stocked {settings : Settings} {number : Nat} {start system : System}
    (operated : Operated settings number start system)
    (reads : start.settings = settings.reading)
    (stored : ∃ calls, start.pipeline.service.store = Store.empty.after calls)
    (registering : start.calls[number]? = some (.registerAll settings.reading.consumers)) :
    (system.pipeline.service.Working →
      system.pipeline.service.store.clusterState.getD "ok" = Pipeline.healthyState →
        ((system.pipeline.checkHealth settings.reading.eventStream).1.isHealthy = true ↔
          0 < system.pipeline.service.store.size settings.reading.eventStream) ∧
        (0 < system.pipeline.service.store.size settings.reading.eventStream →
          system.rehearsal = none → ∀ task due probe, system.probes[task]? = some probe →
            probe.phase = .waiting due → due ≤ system.now →
            system.monitor.slot = .monitoring probe.generation →
              (((system.step (.probe task)).step (.probe task)).step (.probe task)).monitor.slot =
                .restarting probe.generation false)) ∧
    ((settings.retention.deadLetterEnabled = true → ∀ source ∈ settings.reading.consumers,
        settings.retention.deadLetterStream source.stream ≠ settings.reading.eventStream) →
      (0 < start.pipeline.service.store.size settings.reading.eventStream →
        0 < system.pipeline.service.store.size settings.reading.eventStream) ∧
      (start.pipeline.service.store.content? settings.reading.eventStream = none →
        (∃ set ∈ settings.reading.consumers, set.stream = settings.reading.eventStream) →
        system.hasReturned number = true →
          0 < system.pipeline.service.store.size settings.reading.eventStream)) := by
  have same : system.settings.eventStream = settings.reading.eventStream :=
    congrArg Settings.Reading.eventStream (operated.settings_eq.trans reads)
  refine ⟨fun working ok => ⟨Pipeline.isHealthy_iff working ok _, ?_⟩, fun apart => ⟨?_, ?_⟩⟩
  · intro stocked unrehearsed task due probe present waiting ready own
    exact System.slot_of_healthy working ok (same.symm ▸ stocked) unrehearsed present waiting ready
      own
  · intro stocked
    rw [Store.size_pos_iff] at stocked ⊢
    exact operated.stocked stored apart stocked
  · rintro missing ⟨set, member, named⟩ returned
    rw [Store.size_pos_iff]
    have awaits : ∃ action ∈ ControlCall.registerAll settings.reading.consumers,
        action.Awaits settings.reading.eventStream :=
      ⟨_, List.mem_map_of_mem member, named, rfl⟩
    obtain ⟨-, stocked | ⟨call, present, action, listed, -⟩⟩ :=
      operated.supplied stored apart (Or.inl missing) registering awaits
    · exact stocked
    · rw [System.hasReturned, present] at returned
      obtain rfl := List.isEmpty_iff.mp returned
      cases listed

/-- Settings whose event stream a consumer set reads. -/
def gathered : Settings where
  server := {}
  reading := { eventStream := "orders", consumers := [⟨"orders", "audit", "worker", 1⟩] }

/-- Settings whose event stream no consumer set reads. -/
def scattered : Settings where
  server := {}
  reading := { consumers := [⟨"orders", "audit", "worker", 1⟩] }

/-- A system that is about to register its listeners, on a store with a history. -/
def opening (settings : Settings) (history : List StoreCall) : System where
  pipeline :=
    { service := ⟨Store.empty.after history, []⟩
      archive := .empty .memory
      wall := ⟨7, 0⟩ }
  settings := settings.reading
  period := 10000
  calls := [.registerAll settings.reading.consumers]

/-- The system after some steps of registering. -/
def opened (settings : Settings) (history : List StoreCall) : Nat → System
  | 0 => opening settings history
  | steps + 1 => (opened settings history steps).step (.call 0)

theorem operated_opened {settings : Settings} {history : List StoreCall} {steps : Nat}
    (working : ∀ earlier < steps, (opened settings history earlier).pipeline.service.Working) :
    Operated settings 0 (opening settings history) (opened settings history steps) := by
  induction steps with
  | zero => exact .start
  | succ steps inductionHypothesis =>
    refine (inductionHypothesis fun earlier before => working earlier (by omega)).operation ?_
    exact .task (.call 0) fun _ _ => working steps (Nat.lt_succ_self steps)

/-- The system with its listeners registered on a store without streams, after a cleanup a hundred
days later. -/
def cleared : System :=
  { opened gathered [] 5 with
    pipeline := ((Cleaner.of gathered).runFor ⟨3456000, 0⟩ (opened gathered [] 5).pipeline).2 }

theorem operated_cleared : Operated gathered 0 (opening gathered []) cleared := by
  have registered : Operated gathered 0 (opening gathered []) (opened gathered [] 5) :=
    operated_opened fun earlier before => by
      interval_cases earlier <;> exact ⟨by decide +kernel, by decide +kernel⟩
  have threshold : (Cleaner.of gathered).threshold? ⟨8640000, 0⟩ = some ⟨3456000, 0⟩ := by decide
  have ran : (Cleaner.of gathered).run? ⟨8640000, 0⟩ (opened gathered [] 5).pipeline =
      some (((Cleaner.of gathered).runFor ⟨3456000, 0⟩ (opened gathered [] 5).pipeline).1,
        cleared.pipeline) :=
    congrArg (Option.map fun threshold =>
      (Cleaner.of gathered).runFor threshold (opened gathered [] 5).pipeline) threshold
  exact registered.operation (.clean ran)

/-- The event stream has kept the entry that it was given when the listeners were registered. -/
theorem cleared_is_healthy :
    gathered.check = .ok () ∧ Operated gathered 0 (opening gathered []) cleared ∧
      cleared.hasReturned 0 = true ∧ cleared.pipeline.service.Working ∧
      (cleared.pipeline.checkHealth "orders").1.isHealthy = true := by
  have returned : cleared.hasReturned 0 = true := by decide +kernel
  have working : cleared.pipeline.service.Working := ⟨by decide +kernel, by decide +kernel⟩
  have ok : cleared.pipeline.service.store.clusterState.getD "ok" = Pipeline.healthyState := by
    decide +kernel
  have apart : gathered.retention.deadLetterEnabled = true →
      ∀ source ∈ gathered.reading.consumers,
        gathered.retention.deadLetterStream source.stream ≠ gathered.reading.eventStream := by
    decide
  obtain ⟨healthy, supplied⟩ := operated_cleared.healthy_iff_stocked rfl ⟨[], rfl⟩ rfl
  refine ⟨by decide, operated_cleared, returned, working, (healthy working ok).1.mpr ?_⟩
  exact (supplied apart).2 rfl ⟨_, List.mem_cons_self, rfl⟩ returned

/-- A history that leaves a stream without entries. -/
def emptying : List StoreCall :=
  [.append 5 "orders" [("type", "first")], .delete "orders" [⟨5, 0⟩]]

/-- Although nothing has failed, the store is not healthy when no consumer set reads the event
stream, nor when that stream was there without entries before. -/
theorem empty_stream_is_unhealthy :
    scattered.check = .ok () ∧ Operated scattered 0 (opening scattered []) (opened scattered [] 5) ∧
      (opened scattered [] 5).hasReturned 0 = true ∧
      ((opened scattered [] 5).pipeline.checkHealth "EVENT_STREAM").1 =
        ⟨true, false, some "stream EVENT_STREAM is empty"⟩ ∧
      gathered.check = .ok () ∧
      Operated gathered 0 (opening gathered emptying) (opened gathered emptying 4) ∧
      (opened gathered emptying 4).hasReturned 0 = true ∧
      ((opened gathered emptying 4).pipeline.checkHealth "orders").1 =
        ⟨true, false, some "stream orders is empty"⟩ ∧
      ¬ ∀ (settings : Settings) (number : Nat) (start system : System), settings.check = .ok () →
        start.settings = settings.reading → start.pipeline.service.store = .empty →
        start.calls[number]? = some (.registerAll settings.reading.consumers) →
        Operated settings number start system → system.hasReturned number = true →
        system.pipeline.service.Working →
        system.pipeline.service.store.clusterState.getD "ok" = Pipeline.healthyState →
        (system.pipeline.checkHealth settings.reading.eventStream).1.isHealthy = true := by
  have checked : scattered.check = .ok () := by decide
  have unread : Operated scattered 0 (opening scattered []) (opened scattered [] 5) :=
    operated_opened fun earlier before => by
      interval_cases earlier <;> exact ⟨by decide +kernel, by decide +kernel⟩
  have emptied : Operated gathered 0 (opening gathered emptying) (opened gathered emptying 4) :=
    operated_opened fun earlier before => by
      interval_cases earlier <;> exact ⟨by decide +kernel, by decide +kernel⟩
  have returned : (opened scattered [] 5).hasReturned 0 = true := by decide +kernel
  have report : ((opened scattered [] 5).pipeline.checkHealth "EVENT_STREAM").1 =
      ⟨true, false, some "stream EVENT_STREAM is empty"⟩ := by decide +kernel
  refine ⟨checked, unread, returned, report, by decide, emptied, by decide +kernel,
    by decide +kernel, fun always => ?_⟩
  have healthy := always scattered 0 (opening scattered []) (opened scattered [] 5) checked rfl rfl
    rfl unread returned ⟨by decide +kernel, by decide +kernel⟩ (by decide +kernel)
  rw [show scattered.reading.eventStream = "EVENT_STREAM" from rfl, report] at healthy
  cases healthy

end AccessFeed
