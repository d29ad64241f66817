/-
This file proves that the tasks of the monitor act in turn.

However the monitor is started and stopped, and however long its restarts take,
its slot is held by one task at most, and no other task changes it. A restart
follows upon a healthy probe of the task that holds the slot, and the counted
transitions balance but for those that are under way.
-/

import AccessFeed.Proofs.Moments

namespace AccessFeed

/-! ### Counted transitions -/

namespace Monitor

/-- How often the monitor was counted to enter a state. -/
def entries (monitor : Monitor) (state : MonitorState) : Nat :=
  MonitorState.all.foldl (fun total source => total + monitor.transitionCount source state) 0

/-- How often the monitor was counted to leave a state. -/
def exits (monitor : Monitor) (state : MonitorState) : Nat :=
  MonitorState.all.foldl (fun total target => total + monitor.transitionCount state target) 0

variable (monitor : Monitor) (source target : MonitorState)

theorem transitionCount_record (first second : MonitorState) :
    (monitor.record source target).transitionCount first second =
      monitor.transitionCount first second +
        if first = source ∧ second = target then 1 else 0 := by
  show ((monitor.transitions.set _ _).get? _).getD 0 = _
  rw [Table.get?_set]
  by_cases same : first = source ∧ second = target
  · obtain ⟨rfl, rfl⟩ := same
    rw [if_pos rfl, if_pos ⟨rfl, rfl⟩]
    rfl
  · rw [if_neg same, if_neg fun pair => same (Prod.mk.inj pair)]
    rfl

theorem entries_record (state : MonitorState) :
    (monitor.record source target).entries state =
      monitor.entries state + if state = target then 1 else 0 := by
  simp only [entries, MonitorState.all, List.foldl_cons, List.foldl_nil, transitionCount_record]
  by_cases same : state = target
  · cases source <;> simp [same] <;> omega
  · simp [same]

theorem exits_record (state : MonitorState) :
    (monitor.record source target).exits state =
      monitor.exits state + if state = source then 1 else 0 := by
  simp only [exits, MonitorState.all, List.foldl_cons, List.foldl_nil, transitionCount_record]
  by_cases same : state = source
  · cases target <;> simp [same] <;> omega
  · simp [same]

end Monitor

/-! ### Tasks by their numbers -/

/-- Whether the tasks have the generations that the monitor gave out, in this order. -/
def Numbered (monitor : Monitor) (probes : List ProbeTask) : Prop :=
  probes.map ProbeTask.generation = List.range' 1 monitor.generation

section Tasks

variable {probes : List ProbeTask} {number : Nat} {probe : ProbeTask}

theorem map_generation_set (present : probes[number]? = some probe) (phase : ProbePhase) :
    (probes.set number { probe with phase }).map ProbeTask.generation =
      probes.map ProbeTask.generation := by
  obtain ⟨bound, rfl⟩ := List.getElem?_eq_some_iff.mp present
  refine List.ext_getElem? fun place => ?_
  rw [List.getElem?_map, List.getElem?_map, List.getElem?_set]
  by_cases here : number = place
  · subst here
    rw [if_pos rfl, if_pos bound, present]
    rfl
  · rw [if_neg here]

/-- A task after one of the tasks came to another phase. -/
theorem of_getElem?_set {phase : ProbePhase} {other : Nat} {found : ProbeTask}
    (present : (probes.set number { probe with phase })[other]? = some found) :
    (other = number ∧ found = { probe with phase }) ∨
      (other ≠ number ∧ probes[other]? = some found) := by
  rw [List.getElem?_set] at present
  by_cases here : number = other
  · rw [if_pos here] at present
    split at present
    · exact Or.inl ⟨here.symm, (Option.some.inj present).symm⟩
    · cases present
  · rw [if_neg here] at present
    exact Or.inr ⟨Ne.symm here, present⟩

/-- The task that came to another phase. -/
theorem getElem?_set_of_present (present : probes[number]? = some probe) (phase : ProbePhase) :
    (probes.set number { probe with phase })[number]? = some { probe with phase } :=
  List.getElem?_set_self (List.getElem?_eq_some_iff.mp present).1

/-- The number of tasks in certain phases after one of them came to another phase. -/
theorem countP_set (present : probes[number]? = some probe) (phase : ProbePhase)
    (test : ProbePhase → Bool) :
    (probes.set number { probe with phase }).countP (fun probe => test probe.phase) +
        (if test probe.phase = true then 1 else 0) =
      probes.countP (fun probe => test probe.phase) + (if test phase = true then 1 else 0) := by
  obtain ⟨bound, there⟩ := List.getElem?_eq_some_iff.mp present
  have counted : test probe.phase = true → 0 < probes.countP fun probe => test probe.phase :=
    fun passed => List.countP_pos_iff.mpr ⟨probe, there ▸ List.getElem_mem bound, passed⟩
  rw [List.countP_set bound, there]
  dsimp only
  by_cases passed : test probe.phase = true
  · have positive := counted passed
    rw [if_pos passed]
    omega
  · rw [if_neg passed]
    omega

theorem countP_abort (probes : List ProbeTask) (generation : Nat) (test : ProbePhase → Bool) :
    (probes.map fun probe =>
      if probe.generation = generation then { probe with aborted := true } else probe).countP
        (fun probe => test probe.phase) =
      probes.countP fun probe => test probe.phase := by
  rw [List.countP_map]
  refine List.countP_congr fun probe _ => ?_
  show test (if _ then _ else _ : ProbeTask).phase = true ↔ _
  split <;> rfl

/-- A task after another one was spawned. -/
theorem of_getElem?_spawn {other : Nat} {found spawned : ProbeTask}
    (present : (probes ++ [spawned])[other]? = some found) :
    found = spawned ∨ probes[other]? = some found := by
  rw [List.getElem?_append] at present
  split at present
  · exact Or.inr present
  · exact Or.inl (List.mem_singleton.mp (List.mem_of_getElem? present))

end Tasks

namespace Numbered

variable {monitor : Monitor} {probes : List ProbeTask} {before : System} {done : List Moment}

theorem generation (numbered : Numbered monitor probes) {number : Nat} {probe : ProbeTask}
    (present : probes[number]? = some probe) : probe.generation = number + 1 := by
  have listed : (probes.map ProbeTask.generation)[number]? = some probe.generation := by
    rw [List.getElem?_map, present]
    rfl
  rw [numbered] at listed
  obtain ⟨bound, same⟩ := List.getElem?_eq_some_iff.mp listed
  rw [List.getElem_range'] at same
  omega

/-- A generation is that of one task. -/
theorem unique (numbered : Numbered monitor probes) {first second : Nat} {one other : ProbeTask}
    (present : probes[first]? = some one) (found : probes[second]? = some other)
    (same : one.generation = other.generation) : first = second := by
  have left := numbered.generation present
  have right := numbered.generation found
  omega

theorem spawn {list : List Nat} (numbered : list = List.range' 1 before.monitor.generation) :
    list ++ [before.monitor.generation + 1] =
      List.range' 1 before.monitor.schedule.generation := by
  rw [numbered]
  show _ = List.range' 1 (before.monitor.generation + 1)
  rw [List.range'_concat, Nat.one_mul, Nat.add_comm]

theorem turn (numbered : Numbered before.monitor before.probes)
    (turn : Turn before done monitor probes) : Numbered monitor probes := by
  cases turn with
  | quiet | running | remembered | stopped | abandoned => exact numbered
  | probing present | claimed present | began present | completed present | recovered present
  | superseded present => exact (map_generation_set present _).trans numbered
  | rearmed present =>
    show List.map _ (_ ++ [_]) = _
    rw [List.map_append]
    exact spawn ((map_generation_set present _).trans numbered)
  | scheduled =>
    show List.map _ (_ ++ [_]) = _
    rw [List.map_append]
    exact spawn numbered
  | cancelled =>
    refine Eq.trans ?_ numbered
    rw [List.map_map]
    refine List.map_congr_left fun probe _ => ?_
    show (if _ then _ else _ : ProbeTask).generation = _
    split <;> rfl

end Numbered

/-! ### The task that holds the slot -/

/-- Whether the holder of the slot has come as far as the slot says. -/
def Held (slot : MonitorSlot) (probes : List ProbeTask) : Prop :=
  ∀ generation, slot.holder? = some generation → ∃ (number : Nat) (probe : ProbeTask),
    probes[number]? = some probe ∧ probe.generation = generation ∧
      probe.phase.isRecovering = (slot.state == .restarting)

namespace Held

variable {before : System} {done : List Moment} {monitor : Monitor} {probes : List ProbeTask}

theorem set {slot : MonitorSlot} (held : Held slot probes) {number : Nat} {probe : ProbeTask}
    (present : probes[number]? = some probe) {phase : ProbePhase}
    (same : slot.holder? = some probe.generation → phase.isRecovering = probe.phase.isRecovering) :
    Held slot (probes.set number { probe with phase }) := by
  intro generation holder
  obtain ⟨other, found, listed, own, far⟩ := held generation holder
  by_cases here : other = number
  · subst here
    obtain rfl := Option.some.inj (present.symm.trans listed)
    refine ⟨other, _, getElem?_set_of_present present phase, own, ?_⟩
    exact (same (holder.trans (congrArg some own.symm))).trans far
  · exact ⟨other, found, (List.getElem?_set_ne (Ne.symm here)).trans listed, own, far⟩

theorem spawn (generation : Nat) :
    Held (.monitoring generation) (probes ++ [{ generation := generation }]) := by
  intro other holder
  obtain rfl := Option.some.inj holder
  exact ⟨probes.length, _, List.getElem?_concat_length, rfl, rfl⟩

theorem turn (held : Held before.monitor.slot before.probes)
    (turn : Turn before done monitor probes) : Held monitor.slot probes := by
  cases turn with
  | quiet | running | stopped => exact held
  | probing present was becomes => exact held.set present fun _ => becomes.trans was.symm
  | claimed present =>
    intro generation holder
    obtain rfl := Option.some.inj holder
    exact ⟨_, _, getElem?_set_of_present present _, rfl, rfl⟩
  | began present noting => exact held.set present fun _ => by rw [noting]; rfl
  | completed present restarting => exact held.set present fun _ => by rw [restarting]; rfl
  | rearmed | scheduled => exact spawn _
  | recovered | cancelled | abandoned => exact fun _ impossible => by cases impossible
  | remembered restarting =>
    intro generation holder
    obtain rfl := Option.some.inj holder
    obtain ⟨number, probe, present, own, far⟩ := held _ (by rw [restarting]; rfl)
    exact ⟨number, probe, present, own, by rw [far, restarting]; rfl⟩
  | @superseded number probe present concluding foreign =>
    -- The holder of a slot for restarting would not be superseded.
    intro generation holder
    obtain ⟨other, found, listed, own, far⟩ := held generation holder
    have elsewhere : other ≠ number := by
      rintro rfl
      obtain rfl := Option.some.inj (present.symm.trans listed)
      rw [concluding] at far
      cases slot : before.monitor.slot with
      | idle => rw [slot] at holder; cases holder
      | monitoring => rw [slot] at far; cases far
      | restarting generation rearm =>
        rw [slot] at holder
        obtain rfl := (Option.some.inj holder).trans own.symm
        exact foreign rearm slot
    exact ⟨other, found, (List.getElem?_set_ne (Ne.symm elsewhere)).trans listed, own, far⟩

end Held

/-! ### What stands behind a restart -/

/-- Whether a start came after the latest stop. -/
def Requested : List Moment → Prop
  | [] => False
  | .started :: _ => True
  | .stopped :: _ => False
  | _ :: earlier => Requested earlier

/-- Whether the last thing a task did was to find the store healthy while the slot was its own, a
start having come after the latest stop. -/
def Decided (number : Nat) (log : List Moment) : Prop :=
  ∃ later report earlier, log = later ++ .judged number report true :: earlier ∧
    report.isHealthy = true ∧ (∀ moment ∈ later, moment.probe? ≠ some number) ∧ Requested earlier

/-- What came last decides: a start among it, or an earlier one if it holds no stop. -/
theorem requested_append {done log : List Moment} :
    Requested (done ++ log) ↔ Requested done ∨ .stopped ∉ done ∧ Requested log := by
  induction done with
  | nil => simp [Requested]
  | cons moment rest inductionHypothesis =>
    cases moment with
    | started | stopped => simp [Requested]
    | judged | began | completed | failed => simpa [Requested] using inductionHypothesis

theorem Requested.append {done log : List Moment} (requested : Requested log)
    (unstopped : .stopped ∉ done) : Requested (done ++ log) :=
  requested_append.mpr (Or.inr ⟨unstopped, requested⟩)

theorem Decided.append {number : Nat} {done log : List Moment} (decided : Decided number log)
    (others : ∀ moment ∈ done, moment.probe? ≠ some number) : Decided number (done ++ log) := by
  obtain ⟨later, report, earlier, rfl, healthy, silent, requested⟩ := decided
  refine ⟨done ++ later, report, earlier, (List.append_assoc _ _ _).symm, healthy, ?_, requested⟩
  intro moment member
  rcases List.mem_append.mp member with new | old
  · exact others moment new
  · exact silent moment old

namespace Turn

variable {before : System} {done log : List Moment} {monitor : Monitor}
  {probes : List ProbeTask}

/-- The moments of a turn are those of its task. -/
theorem probe?_ne (turn : Turn before done monitor probes) {number : Nat} {probe : ProbeTask}
    (present : before.probes[number]? = some probe) (still : probes[number]? = some probe)
    (noting : probe.phase = .noting) : ∀ moment ∈ done, moment.probe? ≠ some number := by
  intro moment member own
  have changed : ∀ {other : Nat} {found : ProbeTask} {phase : ProbePhase},
      before.probes[other]? = some found → phase ≠ .noting →
      (before.probes.set other { found with phase })[number]? = some probe →
      number ≠ other := by
    rintro other found phase _ away after rfl
    rcases of_getElem?_set after with ⟨_, rfl⟩ | ⟨elsewhere, _⟩
    · exact away noting
    · exact elsewhere rfl
  cases turn with
  | quiet mute =>
    obtain ⟨_, rfl⟩ := mute moment member
    cases own
  | probing there was becomes mute =>
    obtain ⟨_, _, rfl⟩ := mute moment member
    exact changed there (fun same => by rw [same] at becomes; cases becomes) still
      (Option.some.inj own).symm
  | claimed there judging =>
    obtain rfl := List.mem_singleton.mp member
    obtain rfl := Option.some.inj own
    obtain rfl := Option.some.inj (present.symm.trans there)
    rw [judging] at noting
    cases noting
  | began there | completed there =>
    obtain rfl := List.mem_singleton.mp member
    exact changed there (by simp) still (Option.some.inj own).symm
  | rearmed | recovered | superseded => exact absurd member List.not_mem_nil
  | scheduled | running | remembered | stopped | cancelled | abandoned =>
    obtain rfl := List.mem_singleton.mp member
    cases own

/-- A monitor at work was started after the latest stop. -/
theorem requested (turn : Turn before done monitor probes)
    (requested : before.monitor.slot ≠ .idle → Requested log) (working : monitor.slot ≠ .idle) :
    Requested (done ++ log) := by
  cases turn with
  | quiet mute =>
    refine (requested working).append fun member => ?_
    obtain ⟨_, impossible⟩ := mute _ member
    cases impossible
  | probing _ _ _ mute =>
    refine (requested working).append fun member => ?_
    obtain ⟨_, _, impossible⟩ := mute _ member
    cases impossible
  | claimed _ _ _ own => exact requested (by rw [own]; simp)
  | rearmed _ _ own => exact requested (by rw [own]; simp)
  | began | completed | superseded => exact requested working
  | scheduled | running | remembered => exact trivial
  | stopped idle => exact absurd idle working
  | recovered | cancelled | abandoned => exact absurd rfl working

/-- A task that is about to restart the container decided on it. -/
theorem decided (turn : Turn before done monitor probes)
    (requested : before.monitor.slot ≠ .idle → Requested log)
    (decided : ∀ number probe, before.probes[number]? = some probe → probe.phase = .noting →
      Decided number log) {number : Nat} {probe : ProbeTask}
    (present : probes[number]? = some probe) (noting : probe.phase = .noting) :
    Decided number (done ++ log) := by
  have kept : before.probes[number]? = some probe → Decided number (done ++ log) := fun old =>
    (decided number probe old noting).append (turn.probe?_ne old present noting)
  cases turn with
  | quiet | running | remembered | stopped | abandoned => exact kept present
  | probing there was becomes mute =>
    rcases of_getElem?_set present with ⟨_, rfl⟩ | ⟨_, old⟩
    · obtain rfl : _ = ProbePhase.noting := noting
      cases becomes
    · exact kept old
  | @claimed _ _ _ report there judging healthy own =>
    rcases of_getElem?_set present with ⟨rfl, rfl⟩ | ⟨_, old⟩
    · exact ⟨[], report, log, rfl, healthy, fun _ never => absurd never List.not_mem_nil,
        requested (by rw [own]; simp)⟩
    · exact kept old
  | began | completed | recovered | superseded =>
    rcases of_getElem?_set present with ⟨_, rfl⟩ | ⟨_, old⟩
    · cases noting
    · exact kept old
  | rearmed =>
    rcases of_getElem?_spawn present with rfl | set
    · cases noting
    · rcases of_getElem?_set set with ⟨_, rfl⟩ | ⟨_, old⟩
      · cases noting
      · exact kept old
  | scheduled =>
    rcases of_getElem?_spawn present with rfl | old
    · cases noting
    · exact kept old
  | cancelled monitoring =>
    rw [List.getElem?_map] at present
    obtain ⟨found, old, rfl⟩ := Option.map_eq_some_iff.mp present
    have still : found.phase = .noting := by
      revert noting
      split <;> exact id
    refine (decided number found old still).append fun moment member => ?_
    obtain rfl := List.mem_singleton.mp member
    exact fun impossible => by cases impossible

end Turn

/-! ### Balanced transitions -/

/-- The number of tasks that took the slot for restarting and have not yet counted it. -/
def unrecorded (probes : List ProbeTask) : Nat :=
  probes.countP fun probe => probe.phase == .noting

/-- Whether every state was entered as often as it was left, but for the state the monitor is in,
the state it began in, and the transitions that are not yet counted. -/
def Balanced (monitor : Monitor) (probes : List ProbeTask) : Prop :=
  ∀ state, monitor.entries state + (if state = .idle then 1 else 0) +
      (if state = .restarting then unrecorded probes else 0) =
    monitor.exits state + (if monitor.state = state then 1 else 0) +
      (if state = .monitoring then unrecorded probes else 0)

theorem unrecorded_set {probes : List ProbeTask} {number : Nat} {probe : ProbeTask}
    (present : probes[number]? = some probe) (phase : ProbePhase) :
    unrecorded (probes.set number { probe with phase }) +
        (if probe.phase = .noting then 1 else 0) =
      unrecorded probes + (if phase = .noting then 1 else 0) := by
  have counted := countP_set present phase fun phase => phase == .noting
  simp only [beq_iff_eq] at counted
  exact counted

theorem unrecorded_set_of_ne {probes : List ProbeTask} {number : Nat} {probe : ProbeTask}
    (present : probes[number]? = some probe) {phase : ProbePhase} (was : probe.phase ≠ .noting)
    (becomes : phase ≠ .noting) :
    unrecorded (probes.set number { probe with phase }) = unrecorded probes := by
  have counted := unrecorded_set present phase
  rw [if_neg was, if_neg becomes] at counted
  exact counted

theorem unrecorded_spawn (probes : List ProbeTask) (generation : Nat) :
    unrecorded (probes ++ [{ generation := generation }]) = unrecorded probes :=
  List.countP_append

theorem unrecorded_abort (probes : List ProbeTask) (generation : Nat) :
    unrecorded (probes.map fun probe =>
      if probe.generation = generation then { probe with aborted := true } else probe) =
      unrecorded probes :=
  countP_abort probes generation fun phase => phase == .noting

namespace Balanced

variable {before : System} {done : List Moment} {monitor : Monitor} {probes : List ProbeTask}

theorem of_same (balanced : Balanced before.monitor before.probes)
    (transitions : monitor.transitions = before.monitor.transitions)
    (state : monitor.state = before.monitor.state)
    (count : unrecorded probes = unrecorded before.probes) : Balanced monitor probes := by
  intro target
  have told := balanced target
  rw [state, count, Monitor.entries, Monitor.exits]
  simp only [Monitor.transitionCount, transitions]
  exact told

/-- A transition that is counted as it is made. -/
theorem record (balanced : Balanced before.monitor before.probes) {next : Monitor}
    {source target : MonitorState} (transitions : next.transitions = before.monitor.transitions)
    (left : before.monitor.state = source) (entered : next.state = target)
    (count : unrecorded probes = unrecorded before.probes) :
    Balanced (next.record source target) probes := by
  intro state
  have told := balanced state
  have entries : next.entries state = before.monitor.entries state := by
    simp only [Monitor.entries, Monitor.transitionCount, transitions]
  have exits : next.exits state = before.monitor.exits state := by
    simp only [Monitor.exits, Monitor.transitionCount, transitions]
  have here : (next.record source target).state = target := entered
  rw [Monitor.entries_record, Monitor.exits_record, entries, exits, here, count]
  rw [left] at told
  simp only [eq_comm (a := source), eq_comm (a := target)] at told ⊢
  omega

theorem turn (balanced : Balanced before.monitor before.probes)
    (turn : Turn before done monitor probes) : Balanced monitor probes := by
  cases turn with
  | quiet | running | stopped => exact balanced
  | probing present was becomes =>
    exact balanced.of_same rfl rfl (unrecorded_set_of_ne present
      (fun same => by rw [same] at was; cases was)
      (fun same => by rw [same] at becomes; cases becomes))
  | claimed present judging healthy own =>
    intro state
    have told := balanced state
    have counted := unrecorded_set present .noting
    rw [judging, if_neg (by simp), if_pos rfl, Nat.add_zero] at counted
    rw [Monitor.state, own] at told
    show before.monitor.entries state + _ + _ = before.monitor.exits state + _ + _
    rw [counted]
    cases state <;> simp [MonitorSlot.state, Monitor.state] at told ⊢ <;> omega
  | @began _ _ present noting =>
    intro state
    have told := balanced state
    have counted := unrecorded_set present (.restarting before.calls.length)
    rw [if_pos noting, if_neg (by simp)] at counted
    show (before.monitor.record _ _).entries state + _ + _ =
      (before.monitor.record _ _).exits state + (if before.monitor.state = state then 1 else 0) + _
    rw [Monitor.entries_record, Monitor.exits_record]
    cases state <;> simp at told ⊢ <;> omega
  | completed present restarting =>
    exact balanced.of_same rfl rfl
      (unrecorded_set_of_ne present (by rw [restarting]; simp) (by simp))
  | superseded present concluding =>
    exact balanced.of_same rfl rfl
      (unrecorded_set_of_ne present (by rw [concluding]; simp) (by simp))
  | recovered present concluding own =>
    exact balanced.record rfl (by rw [Monitor.state, own]; rfl) rfl
      (unrecorded_set_of_ne present (by rw [concluding]; simp) (by simp))
  | rearmed present concluding own =>
    refine balanced.record rfl (by rw [Monitor.state, own]; rfl) rfl ?_
    rw [unrecorded_spawn]
    exact unrecorded_set_of_ne present (by rw [concluding]; simp) (by simp)
  | scheduled idle =>
    exact balanced.record rfl (by rw [Monitor.state, idle]; rfl) rfl (unrecorded_spawn _ _)
  | remembered restarting =>
    exact balanced.of_same rfl (by rw [Monitor.state, Monitor.state, restarting]; rfl) rfl
  | cancelled monitoring =>
    exact balanced.record rfl (by rw [Monitor.state, monitoring]; rfl) rfl (unrecorded_abort _ _)
  | abandoned restarting =>
    exact balanced.record rfl (by rw [Monitor.state, restarting]; rfl) rfl rfl

end Balanced

/-! ### Restarts that began -/

/-- Whether a moment is one at which a restart began. -/
def Moment.isBegan : Moment → Bool
  | .began _ => true
  | _ => false

/-- A restart that begins is counted as such, and as a transition. -/
theorem Turn.begun {before : System} {done : List Moment} {monitor : Monitor}
    {probes : List ProbeTask} (turn : Turn before done monitor probes) :
    monitor.begun = before.monitor.begun + done.countP Moment.isBegan ∧
      monitor.transitionCount .monitoring .restarting =
        before.monitor.transitionCount .monitoring .restarting + done.countP Moment.isBegan := by
  cases turn with
  | quiet mute =>
    rw [List.countP_eq_zero.mpr]
    · exact ⟨rfl, rfl⟩
    · intro moment member
      obtain ⟨_, rfl⟩ := mute moment member
      exact Bool.false_ne_true
  | probing _ _ _ mute =>
    rw [List.countP_eq_zero.mpr]
    · exact ⟨rfl, rfl⟩
    · intro moment member
      obtain ⟨_, _, rfl⟩ := mute moment member
      exact Bool.false_ne_true
  | began => exact ⟨rfl, Monitor.transitionCount_record _ _ _ _ _⟩
  | claimed | completed | superseded | running | remembered | stopped => exact ⟨rfl, rfl⟩
  | rearmed | recovered | scheduled | cancelled | abandoned =>
    exact ⟨rfl, Monitor.transitionCount_record _ _ _ _ _⟩

/-! ### The invariant of a run -/

/-- A system whose monitor was never started. -/
structure System.Unmonitored (system : System) : Prop where
  monitor : system.monitor = {}
  probes : system.probes = []

namespace Chronicle

/-- What holds of the monitor and its tasks at any time. -/
structure Watched (chronicle : Chronicle) : Prop where
  numbered : Numbered chronicle.system.monitor chronicle.system.probes
  held : Held chronicle.system.monitor.slot chronicle.system.probes
  requested : chronicle.system.monitor.slot ≠ .idle → Requested chronicle.log
  decided : ∀ number probe, chronicle.system.probes[number]? = some probe →
    probe.phase = .noting → Decided number chronicle.log
  balanced : Balanced chronicle.system.monitor chronicle.system.probes
  begun : chronicle.system.monitor.begun = chronicle.log.countP Moment.isBegan
  counted : chronicle.system.monitor.transitionCount .monitoring .restarting =
    chronicle.system.monitor.begun

variable {start : System} {chronicle : Chronicle}

theorem Watched.act (watched : chronicle.Watched) (act : Act) : (chronicle.act act).Watched := by
  have turn := chronicle.system.turn_perform act
  obtain ⟨begun, counted⟩ := turn.begun
  exact {
    numbered := watched.numbered.turn turn
    held := watched.held.turn turn
    requested := turn.requested watched.requested
    decided := fun _ _ => turn.decided watched.requested watched.decided
    balanced := watched.balanced.turn turn
    begun := by
      show _ = List.countP _ (_ ++ _)
      rw [List.countP_append, ← watched.begun, Nat.add_comm]
      exact begun
    counted := (counted.trans (congrArg (· + _) watched.counted)).trans begun.symm }

theorem Reached.watched (reached : Reached start chronicle) (fresh : start.Unmonitored) :
    chronicle.Watched := by
  induction reached with
  | start =>
    refine ⟨?_, ?_, ?_, ?_, ?_, ?_, ?_⟩
    · show Numbered start.monitor start.probes
      rw [fresh.monitor, fresh.probes]
      rfl
    · show Held start.monitor.slot start.probes
      rw [fresh.monitor]
      exact fun _ impossible => by cases impossible
    · show start.monitor.slot ≠ .idle → _
      rw [fresh.monitor]
      exact fun working => absurd rfl working
    · intro number probe present
      rw [show start.probes = [] from fresh.probes] at present
      cases present
    · show Balanced start.monitor start.probes
      rw [fresh.monitor, fresh.probes]
      intro state
      cases state <;> rfl
    · show start.monitor.begun = _
      rw [fresh.monitor]
      rfl
    · show start.monitor.transitionCount _ _ = start.monitor.begun
      rw [fresh.monitor]
      rfl
  | act _ act inductionHypothesis => exact inductionHypothesis.act act

end Chronicle

/-- A task changes the slot only while it holds it. -/
theorem System.slot_stepProbe (system : System) (number : Nat) {probe : ProbeTask}
    (foreign : system.monitor.slot.holder? ≠ some probe.generation) :
    (system.stepProbe number probe).monitor.slot = system.monitor.slot := by
  rw [stepProbe]
  cases probe.phase with
  | starting | reading | noting | ended => rfl
  | waiting due =>
    dsimp only
    split
    · rw [beginProbe]
      cases system.rehearsal <;> rfl
    · rfl
  | judging due report =>
    have unclaimed : system.monitor.claim? probe.generation = none :=
      if_neg fun own => foreign (by rw [own]; rfl)
    dsimp only
    rw [judge, unclaimed]
    split <;> rfl
  | restarting call =>
    dsimp only
    split <;> rfl
  | concluding =>
    have left : system.monitor.conclude probe.generation = (.none, system.monitor) := by
      rw [Monitor.conclude]
      cases slot : system.monitor.slot with
      | idle | monitoring => rfl
      | restarting holder rearm =>
        refine if_neg ?_
        rintro rfl
        exact foreign (by rw [slot]; rfl)
    show (System.concludeProbe _ _ _).monitor.slot = _
    rw [concludeProbe, left]
    rfl

/-- A restart begins in one way only: its task took the slot just before. -/
theorem Turn.of_began {before : System} {done : List Moment} {monitor : Monitor}
    {probes : List ProbeTask} (turn : Turn before done monitor probes) {number : Nat}
    (began : .began number ∈ done) :
    ∃ probe, before.probes[number]? = some probe ∧ probe.phase = .noting := by
  cases turn with
  | quiet mute =>
    obtain ⟨_, impossible⟩ := mute _ began
    cases impossible
  | probing _ _ _ mute =>
    obtain ⟨_, _, impossible⟩ := mute _ began
    cases impossible
  | began present noting =>
    cases List.mem_singleton.mp began
    exact ⟨_, present, noting⟩
  | rearmed | recovered | superseded => exact absurd began List.not_mem_nil
  | claimed | completed | scheduled | running | remembered | stopped | cancelled | abandoned =>
    cases List.mem_singleton.mp began

/-- Along every run of a monitor a task leaves the slot alone unless it holds it, and one task at
most does. When a restart begins, the last thing its task did was to find the store healthy while
the slot was its own, a start having come after the latest stop by then. Whether that is so still
depends on what came in between: it is exactly if there was no stop, or another start after it, and
it is of every monitor at work. Once every restart under way is counted, the counted transitions
balance, and there is one into restarting for each restart that began. -/
theorem Chronicle.Reached.tasks_in_turn {start : System} (fresh : start.Unmonitored)
    {chronicle : Chronicle} (reached : Reached start chronicle) :
    (∀ (number : Nat) (probe : ProbeTask), chronicle.system.probes[number]? = some probe →
      chronicle.system.monitor.slot.holder? ≠ some probe.generation →
      (chronicle.system.step (.probe number)).monitor.slot = chronicle.system.monitor.slot) ∧
    (∀ (first second : Nat) (one other : ProbeTask),
      chronicle.system.probes[first]? = some one →
      chronicle.system.probes[second]? = some other →
      chronicle.system.monitor.slot.holder? = some one.generation →
      chronicle.system.monitor.slot.holder? = some other.generation → first = second) ∧
    (∀ act number, .began number ∈ chronicle.system.moments act →
      ∃ later report earlier, chronicle.log = later ++ .judged number report true :: earlier ∧
        report.isHealthy = true ∧ (∀ moment ∈ later, moment.probe? ≠ some number) ∧
        Requested earlier ∧ (Requested chronicle.log ↔ .stopped ∉ later ∨ Requested later) ∧
        (chronicle.system.monitor.slot ≠ .idle → Requested chronicle.log)) ∧
    ((∀ probe ∈ chronicle.system.probes, probe.phase ≠ .noting) →
      ∀ state, chronicle.system.monitor.entries state + (if state = .idle then 1 else 0) =
        chronicle.system.monitor.exits state +
          (if chronicle.system.monitor.state = state then 1 else 0)) ∧
    chronicle.system.monitor.begun = chronicle.log.countP Moment.isBegan ∧
    chronicle.system.monitor.begun =
      chronicle.system.monitor.transitionCount .monitoring .restarting := by
  have watched := reached.watched fresh
  refine ⟨fun number probe present foreign => ?_, fun first second one other present found => ?_,
    fun act number began => ?_, fun recorded state => ?_,
    watched.begun, watched.counted.symm⟩
  · rw [System.step, present]
    exact chronicle.system.slot_stepProbe number foreign
  · intro own holder
    exact watched.numbered.unique present found (Option.some.inj (own.symm.trans holder))
  · obtain ⟨probe, present, noting⟩ := (chronicle.system.turn_perform act).of_began began
    obtain ⟨later, report, earlier, told, healthy, silent, requested⟩ :=
      watched.decided number probe present noting
    refine ⟨later, report, earlier, told, healthy, silent, requested, ?_, watched.requested⟩
    have judged : Requested (.judged number report true :: earlier) := requested
    rw [told, requested_append, and_iff_left judged, or_comm]
  · have none : unrecorded chronicle.system.probes = 0 :=
      List.countP_eq_zero.mpr fun probe member noting =>
        recorded probe member (beq_iff_eq.mp noting)
    have told := watched.balanced state
    rw [none, ite_self, ite_self] at told
    exact told

/-! ### Stops that come in between -/

/-- A system with a container that only takes time, over a store that is always healthy. -/
def rehearsed : System where
  pipeline := { service := .empty, archive := .empty .memory, wall := ⟨0, 0⟩ }
  settings := {}
  period := 1
  rehearsal := some ⟨[⟨true, true, none⟩], 0⟩

theorem unmonitored_rehearsed : rehearsed.Unmonitored := ⟨rfl, rfl⟩

/-- The first task of a monitor finds the store healthy and takes the slot. -/
def claiming : List Act :=
  [.start, .step (.probe 0), .pass 1, .step (.probe 0), .step (.probe 0)]

/-- The first task of a monitor comes as far as to restart the container. -/
def restarting : List Act := claiming ++ [.step (.probe 0)]

/-- The monitor is stopped and started again while its first task restarts the container. -/
def overtaken : Chronicle :=
  Chronicle.after ⟨rehearsed, []⟩
    (restarting ++ [.stop, .start, .step (.call 0), .step (.call 0), .step (.probe 0)])

theorem reached_overtaken : Chronicle.Reached rehearsed overtaken :=
  Chronicle.Reached.start.after _

/-- The first task, at the end of a restart that outlived the stop, leaves the slot to the second
one. -/
theorem overtaken_keeps_slot :
    overtaken.system.probes[0]? = some ⟨1, .concluding, false⟩ ∧
      overtaken.system.monitor.slot = .monitoring 2 ∧
      (overtaken.system.step (.probe 0)).monitor.slot = .monitoring 2 ∧
      (∀ state, overtaken.system.monitor.entries state + (if state = .idle then 1 else 0) =
        overtaken.system.monitor.exits state + (if .monitoring = state then 1 else 0)) := by
  have turns := reached_overtaken.tasks_in_turn unmonitored_rehearsed
  refine ⟨rfl, rfl, turns.1 0 ⟨1, .concluding, false⟩ rfl (by decide), ?_⟩
  exact turns.2.2.2.1 (by decide)

/-- The monitor is stopped once its first task took the slot, and before the container is
restarted. -/
def halted : Chronicle := Chronicle.after ⟨rehearsed, []⟩ (claiming ++ [.stop])

/-- A stop does not cancel the task that took the slot: its restart begins although no start came
after the stop, and the monitor is idle. -/
theorem halted_monitor_restarts :
    rehearsed.Unmonitored ∧ Chronicle.Reached rehearsed halted ∧
      halted.system.monitor.slot = .idle ∧ ¬ Requested halted.log ∧
      .began 0 ∈ halted.system.moments (.step (.probe 0)) ∧
      halted.system.monitor.begun = 0 ∧
      (halted.act (.step (.probe 0))).system.monitor.begun = 1 := by
  refine ⟨unmonitored_rehearsed, Chronicle.Reached.start.after _, rfl, ?_, ?_, rfl, rfl⟩
  · exact fun requested => requested
  · exact List.mem_singleton.mpr rfl

end AccessFeed
