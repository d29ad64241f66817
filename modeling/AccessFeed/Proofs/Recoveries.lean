/-
This file proves that the monitor answers every start with a restart.

A monitor that was started goes on until it has restarted the container: a start
that finds it probing is answered by the restart to come, and one that finds it
restarting by another restart behind that. So it does not become idle, unless it
is stopped, before a restart that began later than the start is complete.
-/

import AccessFeed.Proofs.Monitors

namespace AccessFeed

/-- Whether the monitor will restart the container, or is about it: its task did not yet begin, or
the restart is at some stage. -/
def Recovers (monitor : Monitor) (probes : List ProbeTask) (stage : Nat → Nat → Prop) : Prop :=
  (∃ generation, monitor.slot = .monitoring generation) ∨
    (∃ generation, monitor.slot = .restarting generation true) ∨
    ∃ (number : Nat) (probe : ProbeTask), probes[number]? = some probe ∧
      monitor.slot = .restarting probe.generation false ∧
      (probe.phase = .noting ∨ ∃ call, probe.phase = .restarting call ∧ stage number call)

section Turns

variable {before : System} {done : List Moment} {monitor : Monitor} {probes : List ProbeTask}
  {stage next : Nat → Nat → Prop}

/-- A monitor that was just started will restart the container. -/
theorem Turn.recovers_of_started (turn : Turn before done monitor probes)
    (started : .started ∈ done) : Recovers monitor probes stage := by
  cases turn with
  | quiet mute =>
    obtain ⟨_, impossible⟩ := mute _ started
    cases impossible
  | probing _ _ _ mute =>
    obtain ⟨_, _, impossible⟩ := mute _ started
    cases impossible
  | rearmed | recovered | superseded => exact absurd started List.not_mem_nil
  | claimed | began | completed | stopped | cancelled | abandoned =>
    cases List.mem_singleton.mp started
  | scheduled => exact Or.inl ⟨_, rfl⟩
  | running monitoring => exact Or.inl ⟨_, monitoring⟩
  | remembered => exact Or.inr (Or.inl ⟨_, rfl⟩)

/-- The holder of the slot is another task than one that came to another phase. -/
theorem Recovers.set (recovers : Recovers before.monitor before.probes stage)
    (slot : monitor.slot = before.monitor.slot)
    (wider : ∀ number call, stage number call → next number call) {number : Nat}
    {probe : ProbeTask} (present : before.probes[number]? = some probe) {phase : ProbePhase}
    (other : before.monitor.slot = .restarting probe.generation false →
      probe.phase ≠ .noting ∧ ∀ call, probe.phase ≠ .restarting call) :
    Recovers monitor (before.probes.set number { probe with phase }) next := by
  rcases recovers with ⟨generation, monitoring⟩ | ⟨generation, rearmed⟩ |
    ⟨holder, found, listed, own, far⟩
  · exact Or.inl ⟨generation, slot.trans monitoring⟩
  · exact Or.inr (Or.inl ⟨generation, slot.trans rearmed⟩)
  · refine Or.inr (Or.inr ⟨holder, found, ?_, slot.trans own, ?_⟩)
    · refine (List.getElem?_set_ne ?_).trans listed
      rintro rfl
      obtain rfl := Option.some.inj (present.symm.trans listed)
      rcases far with noting | ⟨call, restarting, _⟩
      · exact (other own).1 noting
      · exact (other own).2 call restarting
    · exact far.imp_right fun ⟨call, restarting, reached⟩ =>
        ⟨call, restarting, wider holder call reached⟩

/-- A monitor that will restart the container still will, unless it was stopped or the restart of
the task that holds its slot is complete. -/
theorem Recovers.turn (recovers : Recovers before.monitor before.probes stage)
    (numbered : Numbered before.monitor before.probes) (turn : Turn before done monitor probes)
    (unstopped : .stopped ∉ done) (wider : ∀ number call, stage number call → next number call)
    (begins : ∀ number, .began number ∈ done → next number before.calls.length) :
    Recovers monitor probes next ∨
      ∃ (number call : Nat) (probe : ProbeTask), .completed number ∈ done ∧
        before.probes[number]? = some probe ∧ stage number call ∧
        before.hasReturned call = true := by
  have same : Recovers before.monitor before.probes next :=
    recovers.imp_right (Or.imp_right fun ⟨number, probe, present, own, far⟩ =>
      ⟨number, probe, present, own, far.imp_right fun ⟨call, restarting, reached⟩ =>
        ⟨call, restarting, wider number call reached⟩⟩)
  cases turn with
  | quiet => exact Or.inl same
  | probing present was =>
    refine Or.inl (recovers.set rfl wider present fun _ => ⟨?_, fun call => ?_⟩) <;>
      intro impossible <;> rw [impossible] at was <;> cases was
  | claimed present =>
    exact Or.inl (Or.inr (Or.inr ⟨_, _, getElem?_set_of_present present _, rfl, Or.inl rfl⟩))
  | @began number probe present noting =>
    by_cases own : before.monitor.slot = .restarting probe.generation false
    · exact Or.inl (Or.inr (Or.inr ⟨number, _, getElem?_set_of_present present _, own,
        Or.inr ⟨_, rfl, begins number List.mem_cons_self⟩⟩))
    · exact Or.inl (recovers.set rfl wider present fun holder => absurd holder own)
  | @completed number call probe present restarting returned =>
    by_cases own : before.monitor.slot = .restarting probe.generation false
    · rcases recovers with ⟨_, monitoring⟩ | ⟨_, rearmed⟩ | ⟨holder, found, listed, held, far⟩
      · rw [own] at monitoring
        cases monitoring
      · rw [own] at rearmed
        cases rearmed
      · rw [own] at held
        obtain rfl := numbered.unique present listed (MonitorSlot.restarting.inj held).1
        obtain rfl := Option.some.inj (present.symm.trans listed)
        rcases far with noting | ⟨other, far, reached⟩
        · rw [restarting] at noting
          cases noting
        · obtain rfl := ProbePhase.restarting.inj (restarting.symm.trans far)
          exact Or.inr ⟨number, call, probe, List.mem_cons_self, present, reached, returned⟩
    · exact Or.inl (recovers.set rfl wider present fun holder => absurd holder own)
  | superseded present _ foreign =>
    exact Or.inl (recovers.set rfl wider present fun holder => absurd holder (foreign false))
  | rearmed | scheduled => exact Or.inl (Or.inl ⟨_, rfl⟩)
  | @recovered number probe present concluding own =>
    rcases recovers with ⟨_, monitoring⟩ | ⟨_, rearmed⟩ | ⟨holder, found, listed, held, far⟩
    · rw [own] at monitoring
      cases monitoring
    · rw [own] at rearmed
      cases rearmed
    · rw [own] at held
      obtain rfl := numbered.unique present listed (MonitorSlot.restarting.inj held).1
      obtain rfl := Option.some.inj (present.symm.trans listed)
      rcases far with noting | ⟨call, restarting, _⟩
      · rw [concluding] at noting
        cases noting
      · rw [concluding] at restarting
        cases restarting
  | running => exact Or.inl same
  | remembered => exact Or.inl (Or.inr (Or.inl ⟨_, rfl⟩))
  | stopped | cancelled | abandoned => exact absurd List.mem_cons_self unstopped

end Turns

/-! ### Starts and the restarts that answer them -/

/-- Whether a restart both began and was completed in a part of a log. -/
def Served (later : List Moment) : Prop :=
  ∃ number last middle first,
    later = last ++ .completed number :: (middle ++ .began number :: first)

theorem Served.append {later : List Moment} (served : Served later) (done : List Moment) :
    Served (done ++ later) := by
  obtain ⟨number, last, middle, first, rfl⟩ := served
  exact ⟨number, done ++ last, middle, first, (List.append_assoc _ _ _).symm⟩

/-- What was written down since some moment, after more is written down. -/
theorem split_append {done log later earlier : List Moment} {moment : Moment}
    (split : done ++ log = later ++ moment :: earlier) :
    moment ∈ done ∨ ∃ since, later = done ++ since ∧ log = since ++ moment :: earlier := by
  rcases List.append_eq_append_iff.mp split with ⟨since, same, rest⟩ | ⟨since, same, rest⟩
  · exact Or.inr ⟨since, same, rest⟩
  · cases since with
    | nil => exact Or.inr ⟨[], by simpa using same.symm, rest.symm⟩
    | cons head tail =>
      obtain ⟨rfl, _⟩ := List.cons.inj rest
      exact Or.inl (same ▸ List.mem_append_right _ List.mem_cons_self)

namespace Chronicle

variable {start : System} {chronicle : Chronicle}

/-- Every start was answered, or the monitor is about it. -/
theorem Reached.served_or_recovers (fresh : start.Unmonitored)
    (reached : Reached start chronicle) {later earlier : List Moment}
    (split : chronicle.log = later ++ .started :: earlier) (unstopped : .stopped ∉ later) :
    Served later ∨ Recovers chronicle.system.monitor chronicle.system.probes
      fun number _ => .began number ∈ later := by
  induction reached generalizing later earlier with
  | start =>
    have nothing : [] = later ++ .started :: earlier := split
    simp at nothing
  | @act chronicle reached act inductionHypothesis =>
    have turn := chronicle.system.turn_perform act
    rcases split_append split with started | ⟨since, rfl, before⟩
    · exact Or.inr (turn.recovers_of_started started)
    · have quiet : .stopped ∉ chronicle.system.moments act := fun member =>
        unstopped (List.mem_append_left _ member)
      rcases inductionHypothesis before fun member =>
          unstopped (List.mem_append_right _ member) with served | recovers
      · exact Or.inl (served.append _)
      · rcases recovers.turn (reached.watched fresh).numbered turn quiet
          (fun _ _ member => List.mem_append_right _ member)
          (fun _ member => List.mem_append_left _ member) with
          still | ⟨number, _, _, completed, _, began, _⟩
        · exact Or.inr still
        · obtain ⟨last, middle, done⟩ := List.append_of_mem completed
          obtain ⟨inner, first, written⟩ := List.append_of_mem began
          exact Or.inl ⟨number, last, middle ++ inner, first, by
            rw [done, written, List.append_assoc, List.append_assoc]
            rfl⟩

/-- Along every run of a monitor, whatever state a start finds it in: if it is idle later on, and
was not stopped since, then a restart that began after the start is complete. -/
theorem Reached.start_is_answered (fresh : start.Unmonitored) (reached : Reached start chronicle)
    {later earlier : List Moment} (split : chronicle.log = later ++ .started :: earlier)
    (unstopped : .stopped ∉ later) (idle : chronicle.system.monitor.state = .idle) :
    ∃ number last middle first,
      later = last ++ .completed number :: (middle ++ .began number :: first) := by
  have rest : chronicle.system.monitor.slot = .idle := MonitorSlot.state_eq_idle.mp idle
  rcases reached.served_or_recovers fresh split unstopped with served | recovers
  · exact served
  · rcases recovers with ⟨_, slot⟩ | ⟨_, slot⟩ | ⟨_, _, _, slot, _⟩ <;>
      rw [rest] at slot <;> cases slot

end Chronicle

/-- The monitor is started again while its first task restarts the container; it probes and
restarts once more before it is idle. -/
def restartedTwice : Chronicle :=
  Chronicle.after ⟨rehearsed, []⟩
    (restarting ++ [.start, .step (.call 0), .step (.call 0), .step (.probe 0), .step (.probe 0)] ++
      [.step (.probe 1), .pass 2, .step (.probe 1), .step (.probe 1), .step (.probe 1),
        .step (.call 1), .step (.call 1), .step (.probe 1), .step (.probe 1)])

/-- What happened since the second start. -/
def sinceSecondStart : List Moment :=
  [.completed 1, .began 1, .judged 1 ⟨true, true, none⟩ true, .completed 0]

theorem second_start_is_answered :
    restartedTwice.log = sinceSecondStart ++ .started ::
        [.began 0, .judged 0 ⟨true, true, none⟩ true, .started] ∧
      restartedTwice.system.monitor.state = .idle ∧
      ∃ number last middle first, sinceSecondStart =
        last ++ .completed number :: (middle ++ .began number :: first) :=
  have reached : Chronicle.Reached rehearsed restartedTwice := Chronicle.Reached.start.after _
  ⟨rfl, rfl, reached.start_is_answered unmonitored_rehearsed rfl
    (by simp [sinceSecondStart]) rfl⟩

end AccessFeed
