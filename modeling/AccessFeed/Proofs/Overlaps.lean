/-
This file tells when two restarts of the container overlap.

A stop makes the monitor idle without waiting for the restart that is under way,
and a start behind it schedules a task that knows nothing of that restart. This
is the only way to an overlap: a task decides on a restart while the slot is its
own, so that the slot was taken from every task whose restart is under way, and
only a stop takes it. As long as no stop comes while a restart is under way,
restarts take turns.
-/

import AccessFeed.Proofs.Monitors

namespace AccessFeed

/-! ### Restarts under way -/

namespace ProbePhase

/-- Whether a task is having the container restarted. -/
def isRestarting : ProbePhase → Bool
  | .restarting _ => true
  | _ => false

/-- Whether a task decided on a restart that is not complete. -/
def isUnderWay : ProbePhase → Bool
  | .noting => true
  | .restarting _ => true
  | _ => false

theorem isRecovering_of_isUnderWay {phase : ProbePhase} (underWay : phase.isUnderWay = true) :
    phase.isRecovering = true := by
  cases phase <;> first | rfl | cases underWay

theorem isUnderWay_of_isRestarting {phase : ProbePhase} (restarting : phase.isRestarting = true) :
    phase.isUnderWay = true := by
  cases phase <;> first | rfl | cases restarting

end ProbePhase

/-- The number of restarts that began and are not complete. -/
def inProgress (probes : List ProbeTask) : Nat :=
  probes.countP fun probe => probe.phase.isRestarting

/-- Whether a log tells that a task decided on a restart and has not completed it, by what was
written down since and before. -/
def Since (number : Nat) (log later earlier : List Moment) : Prop :=
  ∃ report, log = later ++ .judged number report true :: earlier ∧ report.isHealthy = true ∧
    .completed number ∉ later

/-- Whether a log tells that a task decided on a restart while that of another was under way, and
that the monitor was stopped in between. -/
def Overtakes (second first : Nat) (log : List Moment) : Prop :=
  ∃ last rest middle earlier, Since second log last rest ∧ Since first rest middle earlier ∧
    .completed first ∉ last ∧ .stopped ∈ middle

section

variable {number : Nat} {log later earlier done : List Moment}

theorem Since.append (since : Since number log later earlier)
    (incomplete : .completed number ∉ done) :
    Since number (done ++ log) (done ++ later) earlier := by
  obtain ⟨report, rfl, healthy, open_⟩ := since
  exact ⟨report, (List.append_assoc _ _ _).symm, healthy,
    fun member => (List.mem_append.mp member).elim incomplete open_⟩

theorem Overtakes.append {second first : Nat} (overtakes : Overtakes second first log)
    (secondOpen : .completed second ∉ done) (firstOpen : .completed first ∉ done) :
    Overtakes second first (done ++ log) := by
  obtain ⟨last, rest, middle, earlier, since, before, open_, stopped⟩ := overtakes
  exact ⟨done ++ last, rest, middle, earlier, since.append secondOpen, before,
    fun member => (List.mem_append.mp member).elim firstOpen open_, stopped⟩

/-- Between an overtaken restart and the one that overtakes it comes a stop, at which the first one
is under way. -/
theorem Overtakes.exists_stop {second first : Nat} (overtakes : Overtakes second first log) :
    ∃ later earlier since before, log = later ++ .stopped :: earlier ∧
      Since first earlier since before := by
  obtain ⟨last, rest, middle, before, ⟨report, rfl, _, _⟩, ⟨old, rfl, healthy, incomplete⟩, _,
    stopped⟩ := overtakes
  obtain ⟨upper, lower, rfl⟩ := List.append_of_mem stopped
  refine ⟨last ++ .judged second report true :: upper, lower ++ .judged first old true :: before,
    lower, before, by simp, old, rfl, healthy, fun member => incomplete ?_⟩
  exact List.mem_append_right _ (List.mem_cons_of_mem _ member)

end

/-! ### What a turn does to restarts -/

namespace Turn

variable {before : System} {done : List Moment} {monitor : Monitor} {probes : List ProbeTask}

/-- A task whose restart is under way had it under way before, or decided on it now. -/
theorem of_underWay (turn : Turn before done monitor probes) {number : Nat} {probe : ProbeTask}
    (present : probes[number]? = some probe) (underWay : probe.phase.isUnderWay = true) :
    (.completed number ∉ done ∧ ∃ was, before.probes[number]? = some was ∧
        was.phase.isUnderWay = true ∧ was.generation = probe.generation) ∨
      ∃ report, done = [.judged number report true] ∧ report.isHealthy = true ∧
        before.monitor.slot = .monitoring probe.generation ∧
        monitor.slot = .restarting probe.generation false := by
  have kept : before.probes[number]? = some probe → .completed number ∉ done →
      .completed number ∉ done ∧ ∃ was, before.probes[number]? = some was ∧
        was.phase.isUnderWay = true ∧ was.generation = probe.generation :=
    fun old incomplete => ⟨incomplete, probe, old, underWay, rfl⟩
  cases turn with
  | quiet mute =>
    refine Or.inl (kept present fun member => ?_)
    obtain ⟨_, impossible⟩ := mute _ member
    cases impossible
  | probing there was becomes mute =>
    rcases of_getElem?_set present with ⟨_, rfl⟩ | ⟨_, old⟩
    · have recovering := ProbePhase.isRecovering_of_isUnderWay underWay
      exact absurd (recovering.symm.trans becomes) (by decide)
    · refine Or.inl (kept old fun member => ?_)
      obtain ⟨_, _, impossible⟩ := mute _ member
      cases impossible
  | @claimed _ _ _ report there judging healthy own =>
    rcases of_getElem?_set present with ⟨rfl, rfl⟩ | ⟨_, old⟩
    · exact Or.inr ⟨report, rfl, healthy, own, rfl⟩
    · exact Or.inl (kept old (by simp))
  | began there noting =>
    rcases of_getElem?_set present with ⟨rfl, rfl⟩ | ⟨_, old⟩
    · exact Or.inl ⟨by simp, _, there, by rw [noting]; rfl, rfl⟩
    · exact Or.inl (kept old (by simp))
  | completed there =>
    rcases of_getElem?_set present with ⟨_, rfl⟩ | ⟨elsewhere, old⟩
    · cases underWay
    · exact Or.inl (kept old (by simpa using elsewhere))
  | recovered | superseded =>
    rcases of_getElem?_set present with ⟨_, rfl⟩ | ⟨_, old⟩
    · cases underWay
    · exact Or.inl (kept old List.not_mem_nil)
  | rearmed =>
    rcases of_getElem?_spawn present with rfl | set
    · cases underWay
    · rcases of_getElem?_set set with ⟨_, rfl⟩ | ⟨_, old⟩
      · cases underWay
      · exact Or.inl (kept old List.not_mem_nil)
  | scheduled =>
    rcases of_getElem?_spawn present with rfl | old
    · cases underWay
    · exact Or.inl (kept old (by simp))
  | running | remembered | stopped | abandoned => exact Or.inl (kept present (by simp))
  | cancelled monitoring =>
    rw [List.getElem?_map] at present
    obtain ⟨found, old, rfl⟩ := Option.map_eq_some_iff.mp present
    refine Or.inl ⟨by simp, found, old, ?_, ?_⟩
    · revert underWay
      split <;> exact id
    · split <;> rfl

/-- A slot for restarting stays with its task until it is stopped or concludes. -/
theorem slot_of_restarting (turn : Turn before done monitor probes) {generation : Nat}
    {rearm : Bool} (own : before.monitor.slot = .restarting generation rearm) :
    (∃ rearm, monitor.slot = .restarting generation rearm) ∨ .stopped ∈ done ∨
      ∃ (number : Nat) (probe : ProbeTask), before.probes[number]? = some probe ∧
        probe.generation = generation ∧ probe.phase = .concluding := by
  cases turn with
  | quiet | probing | began | completed | superseded => exact Or.inl ⟨rearm, own⟩
  | claimed _ _ _ monitoring | running monitoring | cancelled monitoring =>
    rw [own] at monitoring
    cases monitoring
  | scheduled idle | stopped idle =>
    rw [own] at idle
    cases idle
  | rearmed present concluding held | recovered present concluding held =>
    rw [own] at held
    exact Or.inr (Or.inr ⟨_, _, present, (MonitorSlot.restarting.inj held).1.symm, concluding⟩)
  | remembered restarting =>
    rw [own] at restarting
    rw [(MonitorSlot.restarting.inj restarting).1]
    exact Or.inl ⟨true, rfl⟩
  | abandoned => exact Or.inr (Or.inl List.mem_cons_self)

theorem inProgress_set {number : Nat} {probe : ProbeTask}
    (present : before.probes[number]? = some probe) {phase : ProbePhase}
    (was : probe.phase.isRestarting = false) (becomes : phase.isRestarting = false) :
    inProgress (before.probes.set number { probe with phase }) = inProgress before.probes := by
  have counted := countP_set present phase ProbePhase.isRestarting
  rw [was, becomes] at counted
  exact counted

theorem inProgress_spawn (probes : List ProbeTask) (generation : Nat) :
    inProgress (probes ++ [{ generation := generation }]) = inProgress probes :=
  List.countP_append

/-- Every restart that began is complete or in progress. -/
theorem begun_eq (turn : Turn before done monitor probes)
    (counted : before.monitor.begun = before.monitor.completed + inProgress before.probes) :
    monitor.begun = monitor.completed + inProgress probes := by
  have calm : ∀ {phase : ProbePhase}, phase.isRecovering = false → phase.isRestarting = false := by
    intro phase calm
    cases phase <;> first | rfl | cases calm
  cases turn with
  | quiet | running | remembered | stopped | abandoned => exact counted
  | probing present was becomes =>
    rw [inProgress_set present (calm was) (calm becomes)]
    exact counted
  | claimed present judging =>
    rw [inProgress_set present (by rw [judging]; rfl) rfl]
    exact counted
  | @began number probe present noting =>
    have more := countP_set present (.restarting before.calls.length) ProbePhase.isRestarting
    rw [noting] at more
    show before.monitor.begun + 1 = before.monitor.completed + inProgress _
    rw [counted, Nat.add_assoc]
    exact congrArg (before.monitor.completed + ·) more.symm
  | @completed number call probe present restarting =>
    have fewer := countP_set present .concluding ProbePhase.isRestarting
    rw [restarting] at fewer
    show before.monitor.begun = before.monitor.completed + 1 + inProgress _
    rw [counted, Nat.add_assoc, Nat.add_comm 1]
    exact congrArg (before.monitor.completed + ·) fewer.symm
  | rearmed present concluding =>
    rw [inProgress_spawn, inProgress_set present (by rw [concluding]; rfl) rfl]
    exact counted
  | recovered present concluding | superseded present concluding =>
    rw [inProgress_set present (by rw [concluding]; rfl) rfl]
    exact counted
  | scheduled =>
    rw [inProgress_spawn]
    exact counted
  | cancelled =>
    rw [inProgress, countP_abort _ _ ProbePhase.isRestarting]
    exact counted

end Turn

/-! ### The invariant of a run -/

namespace Chronicle

/-- What holds of the restarts under way at any time: the slot is that of the task, or the monitor
was stopped since the task decided on it; and of two one overtakes the other. -/
structure Restarts (chronicle : Chronicle) : Prop where
  begun : chronicle.system.monitor.begun =
    chronicle.system.monitor.completed + inProgress chronicle.system.probes
  since : ∀ number probe, chronicle.system.probes[number]? = some probe →
    probe.phase.isUnderWay = true → ∃ later earlier, Since number chronicle.log later earlier ∧
      ((∃ rearm, chronicle.system.monitor.slot = .restarting probe.generation rearm) ∨
        .stopped ∈ later)
  overtaken : ∀ first second one other, first ≠ second →
    chronicle.system.probes[first]? = some one → one.phase.isUnderWay = true →
    chronicle.system.probes[second]? = some other → other.phase.isUnderWay = true →
    Overtakes second first chronicle.log ∨ Overtakes first second chronicle.log

namespace Restarts

variable {chronicle : Chronicle} {done : List Moment} {monitor : Monitor}
  {probes : List ProbeTask}

/-- What was written down since a task decided on a restart, after another turn. -/
theorem since_turn (restarts : chronicle.Restarts)
    (numbered : Numbered chronicle.system.monitor chronicle.system.probes)
    (turn : Turn chronicle.system done monitor probes) {number : Nat} {probe : ProbeTask}
    (present : probes[number]? = some probe) (underWay : probe.phase.isUnderWay = true) :
    ∃ later earlier, Since number (done ++ chronicle.log) later earlier ∧
      ((∃ rearm, monitor.slot = .restarting probe.generation rearm) ∨ .stopped ∈ later) := by
  rcases turn.of_underWay present underWay with
    ⟨incomplete, was, old, still, same⟩ | ⟨report, rfl, healthy, _, slot⟩
  · obtain ⟨later, earlier, since, held⟩ := restarts.since number was old still
    refine ⟨done ++ later, earlier, since.append incomplete, ?_⟩
    rcases held with ⟨rearm, slot⟩ | stopped
    · rcases turn.slot_of_restarting slot with
        ⟨rearm, slot⟩ | stopped | ⟨other, found, there, own, concluding⟩
      · exact Or.inl ⟨rearm, same ▸ slot⟩
      · exact Or.inr (List.mem_append_left _ stopped)
      · -- the holder of the slot is not concluding, for its restart is under way
        obtain rfl := numbered.unique there old own
        obtain rfl := Option.some.inj (there.symm.trans old)
        rw [concluding] at still
        cases still
    · exact Or.inr (List.mem_append_right _ stopped)
  · exact ⟨[], chronicle.log, ⟨report, rfl, healthy, List.not_mem_nil⟩, Or.inl ⟨false, slot⟩⟩

/-- A task that decides on a restart overtakes all that are under way. -/
theorem overtakes_of_claimed (restarts : chronicle.Restarts) {first second generation : Nat}
    {one : ProbeTask} (old : chronicle.system.probes[first]? = some one)
    (still : one.phase.isUnderWay = true) {report : HealthReport}
    (healthy : report.isHealthy = true)
    (monitoring : chronicle.system.monitor.slot = .monitoring generation) :
    Overtakes second first ([.judged second report true] ++ chronicle.log) := by
  obtain ⟨later, earlier, since, held⟩ := restarts.since first one old still
  refine ⟨[], chronicle.log, later, earlier, ⟨report, rfl, healthy, List.not_mem_nil⟩, since,
    List.not_mem_nil, ?_⟩
  rcases held with ⟨rearm, slot⟩ | stopped
  · rw [monitoring] at slot
    cases slot
  · exact stopped

theorem act (restarts : chronicle.Restarts) (watched : chronicle.Watched) (act : Act) :
    (chronicle.act act).Restarts := by
  have turn := chronicle.system.turn_perform act
  refine ⟨turn.begun_eq restarts.begun,
    fun number probe present => restarts.since_turn watched.numbered turn present, ?_⟩
  intro first second one other different present underWay found alsoUnderWay
  rcases turn.of_underWay present underWay with
    ⟨firstOpen, was, old, still, _⟩ | ⟨report, moments, healthy, slot, _⟩
  · rcases turn.of_underWay found alsoUnderWay with
      ⟨secondOpen, were, older, yet, _⟩ | ⟨report, moments, healthy, slot, _⟩
    · exact (restarts.overtaken first second was were different old still older yet).imp
        (fun overtakes => overtakes.append secondOpen firstOpen)
        fun overtakes => overtakes.append firstOpen secondOpen
    · refine Or.inl ?_
      show Overtakes second first (chronicle.system.moments act ++ chronicle.log)
      rw [moments]
      exact restarts.overtakes_of_claimed old still healthy slot
  · rcases turn.of_underWay found alsoUnderWay with
      ⟨_, were, older, yet, _⟩ | ⟨_, others, _, _, _⟩
    · refine Or.inr ?_
      show Overtakes first second (chronicle.system.moments act ++ chronicle.log)
      rw [moments]
      exact restarts.overtakes_of_claimed older yet healthy slot
    · rw [moments] at others
      exact absurd (Moment.judged.inj (List.cons.inj others).1).1 different

end Restarts

variable {start : System} {chronicle : Chronicle}

theorem Reached.restarts (reached : Reached start chronicle) (fresh : start.Unmonitored) :
    chronicle.Restarts := by
  induction reached with
  | start =>
    have none : ∀ (number : Nat) (probe : ProbeTask), start.probes[number]? ≠ some probe := by
      intro number probe present
      rw [fresh.probes] at present
      cases present
    refine ⟨?_, fun number probe present => absurd present (none number probe),
      fun first _ one _ _ present => absurd present (none first one)⟩
    show start.monitor.begun = start.monitor.completed + inProgress start.probes
    rw [fresh.monitor, fresh.probes]
    rfl
  | act reached act inductionHypothesis =>
    exact inductionHypothesis.act (reached.watched fresh) act

end Chronicle

/-- At most one of some tasks passes a test if no two of them do. -/
theorem countP_le_one {probes : List ProbeTask} {test : ProbeTask → Bool}
    (single : ∀ (first second : Nat) (one other : ProbeTask), probes[first]? = some one →
      test one = true → probes[second]? = some other → test other = true → first = second) :
    probes.countP test ≤ 1 := by
  induction probes with
  | nil => exact Nat.zero_le _
  | cons probe rest inductionHypothesis =>
    by_cases passed : test probe = true
    · have others : rest.countP test = 0 := by
        refine List.countP_eq_zero.mpr fun other member also => ?_
        obtain ⟨place, found⟩ := List.mem_iff_getElem?.mp member
        cases single 0 (place + 1) probe other rfl passed found also
      have counted : (probe :: rest).countP test = rest.countP test + 1 :=
        List.countP_cons_of_pos passed
      exact Nat.le_of_eq (counted.trans (congrArg (· + 1) others))
    · rw [List.countP_cons_of_neg passed]
      refine inductionHypothesis fun first second one other present passes found also => ?_
      exact Nat.succ_inj.mp (single (first + 1) (second + 1) one other present passes found also)

/-- Along every run of a monitor, however long its restarts take, the restarts that began are those
that are complete and those in progress. Of two restarts under way one was decided on later, and the
monitor was stopped in between. So they take turns, one at most being in progress, as long as no
stop comes while a restart is under way. -/
theorem Chronicle.Reached.restarts_overlap_after_stop {start : System}
    (fresh : start.Unmonitored) {chronicle : Chronicle} (reached : Reached start chronicle) :
    chronicle.system.monitor.begun =
        chronicle.system.monitor.completed + inProgress chronicle.system.probes ∧
      (∀ first second one other, first ≠ second →
        chronicle.system.probes[first]? = some one → one.phase.isUnderWay = true →
        chronicle.system.probes[second]? = some other → other.phase.isUnderWay = true →
        Overtakes second first chronicle.log ∨ Overtakes first second chronicle.log) ∧
      ((∀ later earlier, chronicle.log = later ++ .stopped :: earlier →
          ∀ number since before, ¬ Since number earlier since before) →
        chronicle.system.monitor.begun ≤ chronicle.system.monitor.completed + 1) := by
  have restarts := reached.restarts fresh
  refine ⟨restarts.begun, restarts.overtaken, fun patient => ?_⟩
  have impossible : ∀ {first second : Nat}, ¬ Overtakes second first chronicle.log := by
    intro first second overtakes
    obtain ⟨later, earlier, since, before, split, underWay⟩ := overtakes.exists_stop
    exact patient later earlier split first since before underWay
  rw [restarts.begun]
  refine Nat.add_le_add_left (countP_le_one ?_) _
  intro first second one other present restarting found also
  refine Decidable.by_contra fun different => ?_
  rcases restarts.overtaken first second one other different present
    (ProbePhase.isUnderWay_of_isRestarting restarting) found
    (ProbePhase.isUnderWay_of_isRestarting also) with overtakes | overtakes
  · exact impossible overtakes
  · exact impossible overtakes

/-- The monitor is stopped while it probes, started again, and restarts the container. -/
def stoppedEarly : Chronicle :=
  Chronicle.after ⟨rehearsed, []⟩
    [.start, .step (.probe 0), .stop, .start, .step (.probe 1), .pass 1, .step (.probe 1),
      .step (.probe 1), .step (.probe 1)]

/-- A system whose container takes a second to restart. -/
def sluggish : System :=
  { rehearsed with rehearsal := some ⟨[⟨true, true, none⟩], 1000⟩ }

/-- The monitor is stopped and started again while its first task restarts the container, and its
second task finds the store healthy before that restart is over. -/
def overlapping : Chronicle :=
  Chronicle.after ⟨sluggish, []⟩
    (restarting ++ [.step (.call 0), .stop, .start, .step (.probe 1), .pass 2, .step (.probe 1),
      .step (.probe 1), .step (.probe 1), .step (.call 0), .step (.call 1)])

/-- A stop that comes before the first healthy probe lets no restarts overlap, and one that comes
while a restart is under way lets another overtake it. -/
theorem stoppedEarly_restarts_once :
    stoppedEarly.log = [.began 1, .judged 1 ⟨true, true, none⟩ true, .started, .stopped, .started] ∧
      stoppedEarly.system.monitor.begun = 1 ∧
      stoppedEarly.system.monitor.begun ≤ stoppedEarly.system.monitor.completed + 1 ∧
      (Overtakes 1 0 overlapping.log ∨ Overtakes 0 1 overlapping.log) := by
  have reached : Chronicle.Reached rehearsed stoppedEarly := Chronicle.Reached.start.after _
  have other : Chronicle.Reached sluggish overlapping := Chronicle.Reached.start.after _
  refine ⟨rfl, rfl, (reached.restarts_overlap_after_stop unmonitored_rehearsed).2.2 ?_,
    (other.restarts_overlap_after_stop ⟨rfl, rfl⟩).2.1 0 1 _ _ (by decide) rfl rfl rfl rfl⟩
  intro later earlier split number since before underWay
  obtain ⟨report, written, _⟩ := underWay
  rw [show stoppedEarly.log = [.began 1, .judged 1 ⟨true, true, none⟩ true, .started, .stopped,
    .started] from rfl] at split
  rcases later with _ | ⟨_, _ | ⟨_, _ | ⟨_, _ | ⟨_, _ | ⟨_, later⟩⟩⟩⟩⟩ <;> simp at split
  rw [← split.2.2.2] at written
  rcases since with _ | ⟨_, since⟩ <;> simp at written

/-- Two restarts are in progress at once. -/
theorem overlapping_restarts :
    overlapping.system.monitor.begun = 2 ∧ overlapping.system.monitor.completed = 0 ∧
      overlapping.system.hasReturned 0 = false ∧ overlapping.system.hasReturned 1 = false ∧
      ¬ ∀ (start : System) (chronicle : Chronicle), start.Unmonitored →
        Chronicle.Reached start chronicle →
        chronicle.system.monitor.begun ≤ chronicle.system.monitor.completed + 1 := by
  refine ⟨rfl, rfl, rfl, rfl, fun turns => ?_⟩
  have reached : Chronicle.Reached sluggish overlapping := Chronicle.Reached.start.after _
  exact absurd (turns sluggish overlapping ⟨rfl, rfl⟩ reached) (by decide)

end AccessFeed
