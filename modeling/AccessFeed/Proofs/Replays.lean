/-
This file proves that a replay goes through all that is pending and ends.

Every step but the waiting for a handler brings a replay nearer to the empty read
that ends it, whichever records are tombstones and whatever becomes of the
others. Others may call the store between two steps, as long as they leave the
pending ids of the consumer and their entries alone.
-/

import AccessFeed.Proofs.Listeners
import AccessFeed.Proofs.Stages

namespace AccessFeed

open Streams (ReadOffset Record Store StoreCall StoreError StreamId)

/-! ### Courses of a listener -/

namespace Listener

variable {Value : Type} (settings : ListenerSettings) (spec : ListenerSpec) (now : Nat)
  (phase : ListenerPhase) (pipeline : Pipeline)

/-- What a listener did after its next step. -/
def tally (tally : Tally) : Tally :=
  match phase with
  | .reading offset =>
    match (pipeline.service.readGroup spec.stream spec.group spec.consumer offset
      settings.readCount).1 with
    | .ok batch => { tally with reads := tally.reads ++ [batch] }
    | .error _ => tally
  | .dispatching _ record dispatch _ _ =>
    match (Dispatch.step spec.group record now dispatch pipeline).1 with
    | .finished outcome => { tally with outcomes := tally.outcomes ++ [(record.id, outcome)] }
    | _ => tally
  | .sweeping _ tombstones =>
    match (pipeline.service.acknowledge spec.stream spec.group tombstones).1 with
    | .ok _ => { tally with swept := tally.swept ++ tombstones }
    | .error _ => tally
  | _ => tally

/-- Whether the call to the store that a listener's next step makes, if any, does not fail. -/
def Answered : Prop :=
  match phase with
  | .reading offset =>
    ∃ batch, (pipeline.service.readGroup spec.stream spec.group spec.consumer offset
      settings.readCount).1 = .ok batch
  | .dispatching _ record .acknowledging _ _ =>
    ∃ count, (pipeline.service.acknowledge record.stream spec.group [record.id]).1 = .ok count
  | .sweeping _ tombstones =>
    ∃ count, (pipeline.service.acknowledge spec.stream spec.group tombstones).1 = .ok count
  | _ => True

instance (answer : Except StoreError Value) : Decidable (∃ value, answer = .ok value) :=
  match answer with
  | .ok value => .isTrue ⟨value, rfl⟩
  | .error _ => .isFalse fun ⟨_, impossible⟩ => by cases impossible

instance : Decidable (Answered settings spec phase pipeline) :=
  match phase with
  | .reading _ | .sweeping _ _ | .dispatching _ _ .acknowledging _ _ =>
    inferInstanceAs (Decidable (∃ _, _ = _))
  | .starting | .delivering _ _ _ | .idle _ _ | .stopping | .stopped
  | .dispatching _ _ .routing _ _ | .dispatching _ _ (.handling _ _) _ _
  | .dispatching _ _ (.pausing _ _) _ _ | .dispatching _ _ (.finished _) _ _ => .isTrue trivial

end Listener

/-- The course of a listener that nobody asks to shut down: the times of its steps, and the pipeline
each of them finds. -/
structure Course where
  settings : ListenerSettings
  spec : ListenerSpec
  now : Nat → Nat
  pipeline : Nat → Pipeline

namespace Course

variable (course : Course)

/-- The phase of a listener before each of its steps, and what it did so far. -/
def state : Nat → ListenerPhase × Tally
  | 0 => (.starting, {})
  | number + 1 =>
    let (phase, tally) := state number
    ((Listener.step course.settings course.spec false (course.now number) phase
        (course.pipeline number)).1,
      Listener.tally course.settings course.spec (course.now number) phase
        (course.pipeline number) tally)

/-- The streams that a step finds. -/
def store (number : Nat) : Store :=
  (course.pipeline number).service.store

/-- The streams that a step leaves. -/
def left (number : Nat) : Store :=
  (Listener.step course.settings course.spec false (course.now number) (course.state number).1
    (course.pipeline number)).2.service.store

/-- Whether a listener is still replaying before one of its steps. -/
def Replaying (number : Nat) : Prop :=
  ∀ earlier ≤ number, (course.state earlier).1 ≠ .reading .lastConsumed

/-- Whether a step's call does not fail, and others call the store until the next step, but do not
touch the pending ids of the listener's consumer and delete none of their entries. -/
structure Undisturbed (number : Nat) : Prop where
  answered : Listener.Answered course.settings course.spec (course.state number).1
    (course.pipeline number)
  others : ∃ calls, course.store (number + 1) = (course.left number).after calls ∧
    ∀ turn ∈ (course.left number).turns calls, turn.answer ≠ .ok (.id .greatest)
  untouched : (course.store (number + 1)).backlog course.spec =
    (course.left number).backlog course.spec
  undeleted : ∀ id ∈ (course.left number).backlog course.spec,
    (course.left number).holds course.spec id = true →
      (course.store (number + 1)).holds course.spec id = true

end Course

/-! ### Phases of a replay -/

namespace Stage

/-- Whether a phase is one of a replay that has come to a stage. -/
inductive Shows (stage : Stage) : ListenerPhase → Prop
  | starting (unread : stage.read = []) (unset : stage.tombstones = []) : Shows stage .starting
  | reading (taken : stage.left = []) (unset : stage.tombstones = []) :
      Shows stage (.reading (.pendingAfter stage.cursor))
  | delivering : Shows stage (.delivering (.pendingAfter stage.cursor) stage.left stage.tombstones)
  | dispatching {record : Record} {rest : List Record} {dispatch : DispatchPhase}
      (left : stage.left = record :: rest) (alive : record.isTombstone = false)
      (unfinished : Dispatch.remaining dispatch ≠ 0) :
      Shows stage (.dispatching (.pendingAfter stage.cursor) record dispatch rest stage.tombstones)
  | sweeping (taken : stage.left = []) :
      Shows stage (.sweeping (.pendingAfter stage.cursor) stage.tombstones)

end Stage

/-- How much work a phase leaves to be done before the next read. -/
def ListenerPhase.burden : ListenerPhase → Nat
  | .starting => 2
  | .reading _ => 1
  | .delivering _ batch _ => 8 * batch.length + 3
  | .dispatching _ _ dispatch rest _ => 8 * rest.length + 4 + Dispatch.remaining dispatch
  | .sweeping _ _ => 2
  | _ => 0

/-- How much work is left of a replay. -/
def Stage.weight (stage : Stage) (phase : ListenerPhase) : Nat :=
  12 * stage.back.length + phase.burden

/-! ### Steps of a replay -/

namespace Dispatch

variable {group : String} {record : Record} {now : Nat} {pipeline : Pipeline}
  {outcome : DispatchOutcome}

theorem unacknowledged_of_handled {eventType : Event.EventType}
    {result : Except Event.HandlerError Unit}
    (ended : (handled group record pipeline eventType result).1 = .finished outcome) :
    outcome.isAcknowledged = false := by
  cases result with
  | ok => cases ended
  | error failure =>
    dsimp only [handled] at ended
    split at ended <;> cases ended <;> rfl

/-- A dispatch ends as acknowledged by an acknowledgement only. -/
theorem unacknowledged_of_step {dispatch : DispatchPhase} (other : dispatch ≠ .acknowledging)
    (unfinished : remaining dispatch ≠ 0)
    (ended : (step group record now dispatch pipeline).1 = .finished outcome) :
    outcome.isAcknowledged = false := by
  cases dispatch with
  | routing =>
    dsimp only [step, route] at ended
    split at ended
    · cases ended
      rfl
    · split at ended <;> cases ended
      rfl
  | handling eventType handler =>
    dsimp only [step] at ended
    split at ended
    · exact unacknowledged_of_handled ended
    · cases ended
  | pausing eventType until_ =>
    dsimp only [step] at ended
    split at ended
    · exact unacknowledged_of_handled ended
    · cases ended
  | acknowledging => exact absurd rfl other
  | finished => exact absurd rfl unfinished

theorem step_of_answer {count : Nat}
    (answer : (pipeline.service.acknowledge record.stream group [record.id]).1 = .ok count) :
    (step group record now .acknowledging pipeline).1 = .finished .acknowledged := by
  dsimp only [step, acknowledge, Pipeline.ask]
  generalize pipeline.service.acknowledge record.stream group [record.id] = asked at answer ⊢
  obtain ⟨_, service⟩ := asked
  obtain rfl : _ = Except.ok count := answer
  rfl

theorem finished_of_remaining {dispatch : DispatchPhase} (none : remaining dispatch = 0) :
    ∃ outcome, dispatch = .finished outcome := by
  cases dispatch with
  | finished outcome => exact ⟨outcome, rfl⟩
  | routing | handling | pausing | acknowledging => cases none

/-- A step of a dispatch whose call to the store does not fail ends it with what was acknowledged,
or leaves the streams. -/
theorem resolves_step (now : Nat) {settings : ListenerSettings} {spec : ListenerSpec}
    {record : Record}
    (whole : pipeline.service.store.Whole) (located : record.stream = spec.stream)
    {next : ReadOffset} {dispatch : DispatchPhase} {rest : List Record}
    {tombstones : List StreamId} (unfinished : remaining dispatch ≠ 0)
    (answered : Listener.Answered settings spec
      (.dispatching next record dispatch rest tombstones) pipeline) :
    (∃ outcome, (step spec.group record now dispatch pipeline).1 = .finished outcome ∧
      Resolves spec (if outcome.isAcknowledged then [record.id] else []) pipeline.service.store
        (step spec.group record now dispatch pipeline).2.service.store) ∨
    (remaining (step spec.group record now dispatch pipeline).1 ≠ 0 ∧
      (step spec.group record now dispatch pipeline).2.service.store =
        pipeline.service.store) := by
  by_cases acknowledging : dispatch = .acknowledging
  · subst acknowledging
    obtain ⟨count, answer⟩ := answered
    refine Or.inl ⟨.acknowledged, step_of_answer answer, ?_⟩
    show Resolves spec [record.id] _ (acknowledge spec.group record pipeline).2.service.store
    rw [located] at answer
    rw [service_acknowledge, located]
    exact resolves_of_answer whole answer
  · have same := (spares_step spec.group record now pipeline acknowledging).1.service
    by_cases none : remaining (step spec.group record now dispatch pipeline).1 = 0
    · obtain ⟨outcome, ended⟩ := finished_of_remaining none
      refine Or.inl ⟨outcome, ended, ?_⟩
      rw [unacknowledged_of_step acknowledging unfinished ended, same]
      exact resolves_nil whole spec
    · exact Or.inr ⟨none, congrArg Streams.Service.store same⟩

end Dispatch

namespace Listener

variable {settings : ListenerSettings} {spec : ListenerSpec} {shutdown : Bool} {now : Nat}
  {pipeline : Pipeline}

section Dispatching

variable {next : ReadOffset} {record : Record} {dispatch : DispatchPhase} {rest : List Record}
  {tombstones : List StreamId}

theorem step_of_finished {outcome : DispatchOutcome}
    (ended : (Dispatch.step spec.group record now dispatch pipeline).1 = .finished outcome)
    (before : Tally) :
    (step settings spec shutdown now (.dispatching next record dispatch rest tombstones)
        pipeline).1 = .delivering next rest tombstones ∧
      tally settings spec now (.dispatching next record dispatch rest tombstones) pipeline before =
        { before with outcomes := before.outcomes ++ [(record.id, outcome)] } := by
  dsimp only [step, tally]
  generalize Dispatch.step spec.group record now dispatch pipeline = stepped at ended ⊢
  obtain ⟨_, after⟩ := stepped
  obtain rfl : _ = DispatchPhase.finished outcome := ended
  exact ⟨rfl, rfl⟩

theorem step_of_unfinished
    (going : Dispatch.remaining (Dispatch.step spec.group record now dispatch pipeline).1 ≠ 0)
    (before : Tally) :
    (step settings spec shutdown now (.dispatching next record dispatch rest tombstones)
        pipeline).1 = .dispatching next record
          (Dispatch.step spec.group record now dispatch pipeline).1 rest tombstones ∧
      tally settings spec now (.dispatching next record dispatch rest tombstones) pipeline before =
        before := by
  dsimp only [step, tally]
  generalize Dispatch.step spec.group record now dispatch pipeline = stepped at going ⊢
  obtain ⟨following, after⟩ := stepped
  cases following with
  | finished => exact absurd rfl going
  | routing | handling | pausing | acknowledging => exact ⟨rfl, rfl⟩

end Dispatching

/-- A replay goes on with the batch it read, or with new entries when there was none. -/
theorem read_of_answer {cursor : StreamId} {batch : List Record}
    (answer : (pipeline.service.readGroup spec.stream spec.group spec.consumer
      (.pendingAfter cursor) settings.readCount).1 = .ok batch) :
    (read settings spec now (.pendingAfter cursor) pipeline).1 =
      if batch = [] then .reading .lastConsumed
      else .delivering ((ReadOffset.pendingAfter cursor).behind batch) batch [] := by
  dsimp only [read, Pipeline.ask]
  generalize pipeline.service.readGroup _ _ _ _ _ = asked at answer ⊢
  obtain ⟨_, service⟩ := asked
  obtain rfl : _ = Except.ok batch := answer
  cases batch with
  | nil => rfl
  | cons record rest => exact (if_neg (List.cons_ne_nil record rest)).symm

end Listener

/-- What a step makes of a replay at a stage: it brings the replay nearer to its end, or waits for a
handler, or ends it. -/
inductive Advance (settings : ListenerSettings) (spec : ListenerSpec) (start : Store) (now : Nat)
    (stage : Stage) (phase : ListenerPhase) : ListenerPhase → Tally → Store → Prop
  | moved {next : ListenerPhase} {tally : Tally} {store : Store} (later : Stage)
      (shows : later.Shows next) (progress : Progress settings spec start tally store later)
      (less : later.weight next < stage.weight phase) :
      Advance settings spec start now stage phase next tally store
  | waited {tally : Tally} {store : Store} {until_ : Nat}
      (deadline : phase.deadline? = some until_) (early : now < until_)
      (progress : Progress settings spec start tally store stage) :
      Advance settings spec start now stage phase phase tally store
  | ended {tally : Tally} {store : Store} (replayed : Replayed settings spec start tally store) :
      Advance settings spec start now stage phase (.reading .lastConsumed) tally store

section Advance

variable {settings : ListenerSettings} {spec : ListenerSpec} {start : Store} {now : Nat}
  {stage : Stage} {tally : Tally} {pipeline : Pipeline}

theorem Stage.shows_delivering (stage : Stage) {next : ReadOffset} {batch : List Record}
    {tombstones : List StreamId} (cursor : next = .pendingAfter stage.cursor)
    (left : stage.left = batch) (unset : stage.tombstones = tombstones) :
    stage.Shows (.delivering next batch tombstones) := by
  subst cursor left unset
  exact .delivering

theorem advance_delivering
    (progress : Progress settings spec start tally pipeline.service.store stage) :
    Advance settings spec start now stage
      (.delivering (.pendingAfter stage.cursor) stage.left stage.tombstones)
      (Listener.takeUp (.pendingAfter stage.cursor) stage.left stage.tombstones) tally
      pipeline.service.store := by
  cases left : stage.left with
  | nil =>
    rw [Listener.takeUp]
    cases unset : stage.tombstones with
    | nil =>
      exact .moved stage (.reading left unset) progress
        (by simp [Stage.weight, ListenerPhase.burden])
    | cons id rest =>
      refine .moved stage ?_ progress (by simp [Stage.weight, ListenerPhase.burden])
      show stage.Shows (.sweeping _ _)
      rw [← unset]
      exact .sweeping left
  | cons record rest =>
    rw [Listener.takeUp]
    by_cases tombstone : record.isTombstone = true
    · rw [if_pos tombstone]
      refine .moved _ (Stage.shows_delivering _ ?_ rfl rfl) (progress.setAside left tombstone) ?_
      · rw [Stage.cursor, Stage.cursor, stage.read_take left]
      · simp only [Stage.weight, ListenerPhase.burden, List.length_cons]
        omega
    · rw [if_neg tombstone]
      refine .moved stage (.dispatching left (Bool.eq_false_iff.mpr tombstone) (by decide))
        progress ?_
      simp only [Stage.weight, ListenerPhase.burden, List.length_cons, Dispatch.remaining]
      omega

theorem advance_sweeping
    (progress : Progress settings spec start tally pipeline.service.store stage)
    (taken : stage.left = [])
    (answered : Listener.Answered settings spec
      (.sweeping (.pendingAfter stage.cursor) stage.tombstones) pipeline) :
    Advance settings spec start now stage (.sweeping (.pendingAfter stage.cursor) stage.tombstones)
      (.reading (.pendingAfter stage.cursor))
      (Listener.tally settings spec now (.sweeping (.pendingAfter stage.cursor) stage.tombstones)
        pipeline tally)
      (pipeline.dropTombstones spec stage.tombstones).service.store := by
  obtain ⟨count, answer⟩ := answered
  have tallied : Listener.tally settings spec now
      (.sweeping (.pendingAfter stage.cursor) stage.tombstones) pipeline tally =
        { tally with swept := tally.swept ++ stage.tombstones } := by
    dsimp only [Listener.tally]
    rw [answer]
  rw [tallied, Listener.service_dropTombstones]
  refine .moved { stage with tombstones := [] } ?_
    (progress.sweep (resolves_of_answer progress.whole answer))
    (by simp [Stage.weight, ListenerPhase.burden])
  exact .reading taken rfl

theorem advance_dispatching
    (progress : Progress settings spec start tally pipeline.service.store stage)
    {record : Record} {rest : List Record} {dispatch : DispatchPhase}
    (left : stage.left = record :: rest) (alive : record.isTombstone = false)
    (unfinished : Dispatch.remaining dispatch ≠ 0)
    (answered : Listener.Answered settings spec
      (.dispatching (.pendingAfter stage.cursor) record dispatch rest stage.tombstones) pipeline) :
    Advance settings spec start now stage
      (.dispatching (.pendingAfter stage.cursor) record dispatch rest stage.tombstones)
      (Listener.step settings spec false now
        (.dispatching (.pendingAfter stage.cursor) record dispatch rest stage.tombstones)
        pipeline).1
      (Listener.tally settings spec now
        (.dispatching (.pendingAfter stage.cursor) record dispatch rest stage.tombstones) pipeline
        tally)
      (Dispatch.step spec.group record now dispatch pipeline).2.service.store := by
  have located := (progress.left record (left ▸ List.mem_cons_self)).1
  rcases Dispatch.resolves_step now progress.whole located unfinished answered with
    ⟨outcome, ended, resolves⟩ | ⟨going, same⟩
  · obtain ⟨stepped, tallied⟩ := Listener.step_of_finished ended tally
    rw [stepped, tallied]
    refine .moved ⟨stage.treated ++ [record.id], rest, stage.tombstones, stage.back⟩
      (Stage.shows_delivering _ ?_ rfl rfl) (progress.finished left alive resolves) ?_
    · rw [Stage.cursor, Stage.cursor, stage.read_take left]
    · simp only [Stage.weight, ListenerPhase.burden]
      omega
  · obtain ⟨stepped, tallied⟩ := Listener.step_of_unfinished going tally
    rw [stepped, tallied, same]
    by_cases ready : ∀ eventType until_, dispatch = .pausing eventType until_ → until_ ≤ now
    · have less := Dispatch.remaining_step spec.group record now dispatch pipeline unfinished ready
      refine .moved stage (.dispatching left alive going) progress ?_
      simp only [Stage.weight, ListenerPhase.burden]
      omega
    · -- Only a handler that pauses is waited for, and then nothing happens.
      cases dispatch with
      | pausing eventType until_ =>
        have early : now < until_ := Nat.not_le.mp fun due => ready fun _ _ same => by
          cases same
          exact due
        have waits : (Dispatch.step spec.group record now (.pausing eventType until_)
            pipeline).1 = .pausing eventType until_ := by
          rw [Dispatch.step, if_neg (Nat.not_le.mpr early)]
        rw [waits]
        exact .waited rfl early progress
      | routing | handling | acknowledging | finished =>
        exact absurd (fun _ _ impossible => by cases impossible) ready

theorem advance_reading
    (progress : Progress settings spec start tally pipeline.service.store stage)
    (positive : 1 ≤ settings.readCount) (startWhole : start.Whole) (filled : start.Filled)
    (taken : stage.left = []) (unset : stage.tombstones = [])
    (answered : Listener.Answered settings spec (.reading (.pendingAfter stage.cursor)) pipeline) :
    Advance settings spec start now stage (.reading (.pendingAfter stage.cursor))
      (Listener.read settings spec now (.pendingAfter stage.cursor) pipeline).1
      (Listener.tally settings spec now (.reading (.pendingAfter stage.cursor)) pipeline tally)
      (Listener.read settings spec now (.pendingAfter stage.cursor)
        pipeline).2.service.store := by
  obtain ⟨batch, answer⟩ := answered
  obtain ⟨ids, records, resolves⟩ := progress.of_read startWhole filled answer
  have tallied : Listener.tally settings spec now (.reading (.pendingAfter stage.cursor)) pipeline
      tally = { tally with reads := tally.reads ++ [batch] } := by
    dsimp only [Listener.tally]
    rw [answer]
  rw [tallied, Listener.service_read, Listener.read_of_answer answer]
  by_cases none : batch = []
  · subst none
    have read : stage.back = [] := by
      have least := congrArg List.length ids
      rw [List.length_take] at least
      exact List.eq_nil_of_length_eq_zero (by simp at least; omega)
    rw [if_pos rfl]
    exact .ended (progress.complete startWhole taken unset read resolves)
  · rw [if_neg none]
    refine .moved ⟨stage.treated, batch, [], stage.back.drop settings.readCount⟩
      (Stage.shows_delivering _ ?_ rfl rfl)
      (progress.receive taken unset none ids records resolves) ?_
    · exact behind_batch stage none _
    · have size := congrArg List.length ids
      have nonempty := List.length_pos_iff.mpr none
      rw [List.length_map, List.length_take] at size
      simp only [Stage.weight, ListenerPhase.burden, List.length_drop]
      omega

/-- A step of a replay brings it nearer to its end, or waits for a handler, or ends it. -/
theorem Progress.advance
    (progress : Progress settings spec start tally pipeline.service.store stage)
    (replaying : settings.replayPending = true) (positive : 1 ≤ settings.readCount)
    (startWhole : start.Whole) (filled : start.Filled) {phase : ListenerPhase}
    (shows : stage.Shows phase) (answered : Listener.Answered settings spec phase pipeline) :
    Advance settings spec start now stage phase
      (Listener.step settings spec false now phase pipeline).1
      (Listener.tally settings spec now phase pipeline tally)
      (Listener.step settings spec false now phase pipeline).2.service.store := by
  cases shows with
  | starting unread unset =>
    have first : ReadOffset.pendingAfter stage.cursor = settings.firstOffset := by
      rw [ListenerSettings.firstOffset, if_pos replaying, Stage.cursor, unread]
      rfl
    show Advance settings spec start now stage .starting (.reading settings.firstOffset) tally _
    rw [← first]
    refine .moved stage ?_ progress (by simp [Stage.weight, ListenerPhase.burden])
    refine .reading ?_ unset
    exact List.map_eq_nil_iff.mp (List.append_eq_nil_iff.mp unread).2
  | reading taken unset =>
    exact advance_reading progress positive startWhole filled taken unset answered
  | delivering => exact advance_delivering progress
  | dispatching left alive unfinished =>
    rw [Listener.pipeline_step_dispatching]
    exact advance_dispatching progress left alive unfinished answered
  | sweeping taken => exact advance_sweeping progress taken answered

end Advance

/-! ### Whole replays -/

theorem Stage.Shows.ne {stage : Stage} {phase : ListenerPhase} (shows : stage.Shows phase) :
    phase ≠ .reading .lastConsumed := by
  cases shows <;> simp

namespace Course

variable {course : Course} {number : Nat} {stage : Stage}

/-- Whether a replay has come to a stage before a step. -/
structure Stands (course : Course) (number : Nat) (stage : Stage) : Prop where
  replaying : course.Replaying number
  shows : stage.Shows (course.state number).1
  progress : Progress course.settings course.spec (course.store 0) (course.state number).2
    (course.store number) stage

/-- Whether a replay is over before a step, and was not before. -/
structure Over (course : Course) (number : Nat) : Prop where
  before : ∀ earlier < number, (course.state earlier).1 ≠ .reading .lastConsumed
  phase : (course.state number).1 = .reading .lastConsumed
  replayed : Replayed course.settings course.spec (course.store 0) (course.state number).2
    (course.store number)

/-- What others leave of the entries whose ids are pending. -/
theorem Undisturbed.entries (undisturbed : course.Undisturbed number)
    (whole : (course.left number).Whole) :
    (course.store (number + 1)).Whole ∧
      ∀ id ∈ (course.left number).backlog course.spec,
        (course.store (number + 1)).fieldsAt? course.spec.stream id =
          (course.left number).fieldsAt? course.spec.stream id := by
  obtain ⟨calls, same, below⟩ := undisturbed.others
  rw [same]
  refine ⟨whole.after below, fun id pending => ?_⟩
  have kept := undisturbed.undeleted id pending
  rw [same, Store.holds, Store.holds] at kept
  rcases ((Store.recorded_of_pending whole.sound pending).after whole.sound below).fieldsAt? with
    unchanged | gone
  · exact unchanged
  · cases present : (course.left number).fieldsAt? course.spec.stream id with
    | none => exact gone
    | some fields =>
      rw [present, gone] at kept
      cases kept rfl

/-- What others do between two steps leaves a replay where it is. -/
theorem Undisturbed.stands (undisturbed : course.Undisturbed number)
    (replaying : course.Replaying number) {later : Stage}
    (shows : later.Shows (course.state (number + 1)).1)
    (progress : Progress course.settings course.spec (course.store 0)
      (course.state (number + 1)).2 (course.left number) later) :
    course.Stands (number + 1) later := by
  obtain ⟨whole, entries⟩ := undisturbed.entries progress.whole
  refine ⟨fun earlier bound => ?_, shows, progress.others whole undisturbed.untouched entries⟩
  rcases Nat.lt_or_eq_of_le bound with before | rfl
  · exact replaying earlier (Nat.le_of_lt_succ before)
  · exact shows.ne

section Replay

variable (replaying : course.settings.replayPending = true)
  (positive : 1 ≤ course.settings.readCount) (whole : (course.store 0).Whole)
  (filled : (course.store 0).Filled)
  (undisturbed : ∀ number, course.Replaying number → course.Undisturbed number)

include replaying positive whole filled undisturbed

/-- A replay moves on, or waits for a handler, or is over. -/
theorem Stands.step (stands : course.Stands number stage) :
    (∃ later, course.Stands (number + 1) later ∧
      later.weight (course.state (number + 1)).1 < stage.weight (course.state number).1) ∨
    ((course.state (number + 1)).1 = (course.state number).1 ∧ course.Stands (number + 1) stage ∧
      ∃ until_, (course.state number).1.deadline? = some until_ ∧ course.now number < until_) ∨
    course.Over (number + 1) := by
  have alone := undisturbed number stands.replaying
  have advance : Advance course.settings course.spec (course.store 0) (course.now number) stage
      (course.state number).1 (course.state (number + 1)).1 (course.state (number + 1)).2
      (course.left number) :=
    stands.progress.advance replaying positive whole filled stands.shows alone.answered
  have shown := stands.shows
  generalize before : (course.state number).1 = phase at advance shown ⊢
  generalize after : (course.state (number + 1)).1 = next at advance ⊢
  generalize tallied : (course.state (number + 1)).2 = tally at advance
  cases advance with
  | moved later shows progress less =>
    exact Or.inl ⟨later, alone.stands stands.replaying (after ▸ shows) (tallied ▸ progress), less⟩
  | waited deadline early progress =>
    exact Or.inr (Or.inl ⟨rfl, alone.stands stands.replaying (after ▸ shown) (tallied ▸ progress),
      _, deadline, early⟩)
  | ended replayed =>
    refine Or.inr (Or.inr ⟨fun earlier bound => stands.replaying earlier (Nat.le_of_lt_succ bound),
      after, ?_⟩)
    rw [tallied]
    exact { replayed with pending := alone.untouched.trans replayed.pending }

/-- A replay that waits for a handler goes on once the handler's time has come. -/
theorem Stands.goesOn {until_ bound : Nat}
    (come : ∀ later, bound ≤ later → until_ ≤ course.now later) (gap : Nat)
    (near : bound ≤ number + gap) (stands : course.Stands number stage)
    (deadline : (course.state number).1.deadline? = some until_) :
    (∃ next later, course.Stands next later ∧
      later.weight (course.state next).1 < stage.weight (course.state number).1) ∨
    ∃ last, course.Over last := by
  induction gap generalizing number with
  | zero =>
    rcases stands.step replaying positive whole filled undisturbed with
      ⟨later, moved, less⟩ | ⟨_, _, time, waits, early⟩ | ended
    · exact Or.inl ⟨_, later, moved, less⟩
    · obtain rfl := Option.some.inj (deadline.symm.trans waits)
      exact absurd early (Nat.not_lt.mpr (come number near))
    · exact Or.inr ⟨_, ended⟩
  | succ gap inductionHypothesis =>
    rcases stands.step replaying positive whole filled undisturbed with
      ⟨later, moved, less⟩ | ⟨same, still, _⟩ | ended
    · exact Or.inl ⟨_, later, moved, less⟩
    · rw [← same] at deadline ⊢
      exact inductionHypothesis (by omega) still deadline
    · exact Or.inr ⟨_, ended⟩

variable (clock : ∀ time, ∃ number, ∀ later, number ≤ later → time ≤ course.now later)

include clock

/-- A replay ends, whatever work is left of it. -/
theorem Stands.ends (stands : course.Stands number stage) : ∃ last, course.Over last := by
  -- The induction is on the work that is left, which only a waiting step does not reduce.
  generalize measured : stage.weight (course.state number).1 = weight
  induction weight using Nat.strongRecOn generalizing number stage with
  | ind weight inductionHypothesis =>
    have further : (∃ next later, course.Stands next later ∧
        later.weight (course.state next).1 < stage.weight (course.state number).1) ∨
        ∃ last, course.Over last := by
      rcases stands.step replaying positive whole filled undisturbed with
        ⟨later, moved, less⟩ | ⟨_, _, until_, deadline, _⟩ | ended
      · exact Or.inl ⟨_, later, moved, less⟩
      · obtain ⟨bound, come⟩ := clock until_
        exact stands.goesOn replaying positive whole filled undisturbed come bound
          (Nat.le_add_left _ _) deadline
      · exact Or.inr ⟨_, ended⟩
    rcases further with ⟨next, later, moved, less⟩ | ended
    · exact inductionHypothesis _ (measured ▸ less) moved rfl
    · exact ended

end Replay

/-- A listener that has not begun. -/
theorem stands_start (positive : 1 ≤ course.settings.readCount)
    (whole : (course.store 0).Whole) :
    course.Stands 0 ⟨[], [], [], (course.store 0).backlog course.spec⟩ where
  replaying := by
    intro earlier bound
    obtain rfl := Nat.le_zero.mp bound
    simp [state]
  shows := .starting rfl rfl
  progress := {
    whole
    backlog := rfl
    left := fun _ never => absurd never List.not_mem_nil
    outcomes := rfl
    swept := rfl
    reads := rfl
    filled := List.not_mem_nil
    most := Nat.zero_le _
    few := by simpa [state, Stage.read] using Nat.lt_of_lt_of_le Nat.zero_lt_one positive
    full := fun _ => by simp [state]
    pending := (List.filter_eq_self.mpr fun _ _ => decide_eq_true List.not_mem_nil).symm
    entries := fun _ _ => rfl }

/-- A listener that starts with a replay, over streams that came about by calls that gave out no
greatest id and whose entries all have fields: as long as nobody disturbs its replay, and the time
goes on, the replay ends. It made as many reads as the pending ids of its consumer fill batches, and
an empty one; it read these ids in ascending order, each once, dispatched each whose entry was there
and acknowledged the others; and what is pending then are the ids whose dispatch ended in another
way than acknowledged. -/
theorem replay_ends (replaying : course.settings.replayPending = true)
    (positive : 1 ≤ course.settings.readCount) (calls : List StoreCall)
    (made : course.store 0 = Store.empty.after calls)
    (below : ∀ turn ∈ Store.empty.turns calls, turn.answer ≠ .ok (.id .greatest))
    (filled : (course.store 0).Filled)
    (undisturbed : ∀ number, course.Replaying number → course.Undisturbed number)
    (clock : ∀ time, ∃ number, ∀ later, number ≤ later → time ≤ course.now later) :
    ∃ number, (course.state number).1 = .reading .lastConsumed ∧
      (∀ earlier < number, (course.state earlier).1 ≠ .reading .lastConsumed) ∧
      Replayed course.settings course.spec (course.store 0) (course.state number).2
        (course.store number) := by
  have whole : (course.store 0).Whole := made ▸ Store.whole_empty.after below
  obtain ⟨number, ended⟩ := (stands_start positive whole).ends replaying positive whole filled
    undisturbed clock
  exact ⟨number, ended.phase, ended.before, ended.replayed⟩

end Course

/-! ### A replay that meets a tombstone and a handler that fails -/

/-- The phases of a listener and the pipelines it finds while nobody else acts. -/
def Course.walk (settings : ListenerSettings) (spec : ListenerSpec) (start : Pipeline) :
    Nat → ListenerPhase × Pipeline
  | 0 => (.starting, start)
  | number + 1 =>
    let (phase, pipeline) := walk settings spec start number
    Listener.step settings spec false number phase pipeline

/-- The course of a listener while nobody else acts, with a step at every time. -/
def Course.alone (settings : ListenerSettings) (spec : ListenerSpec) (start : Pipeline) :
    Course where
  settings := settings
  spec := spec
  now := id
  pipeline := fun number => (walk settings spec start number).2

theorem Course.state_alone (settings : ListenerSettings) (spec : ListenerSpec) (start : Pipeline)
    (number : Nat) :
    ((alone settings spec start).state number).1 = (walk settings spec start number).1 := by
  induction number with
  | zero => rfl
  | succ number inductionHypothesis =>
    show (Listener.step settings spec false number ((alone settings spec start).state number).1
      (walk settings spec start number).2).1 = (Listener.step settings spec false number
        (walk settings spec start number).1 (walk settings spec start number).2).1
    rw [inductionHypothesis]

/-- While nobody else acts, nothing happens between two steps. -/
theorem Course.undisturbed_alone {settings : ListenerSettings} {spec : ListenerSpec}
    {start : Pipeline} {number : Nat}
    (answered : Listener.Answered settings spec (walk settings spec start number).1
      (walk settings spec start number).2) :
    (alone settings spec start).Undisturbed number := by
  have same : (alone settings spec start).store (number + 1) =
      (alone settings spec start).left number := by
    rw [left, state_alone]
    rfl
  refine ⟨?_, ⟨[], same, fun _ never => absurd never List.not_mem_nil⟩, by rw [same],
    fun id _ there => by rw [same]; exact there⟩
  rw [state_alone]
  exact answered

/-- The calls that leave three entries pending, the first of which was deleted. -/
def interrupted : List StoreCall :=
  [.appendWithId "orders" ⟨6, 0⟩ [("type", "first")], .createGroup "orders" "audit",
    .appendWithId "orders" ⟨7, 0⟩ [("type", "ACCESS")],
    .appendWithId "orders" ⟨8, 0⟩ [("type", "ACCESS")],
    .appendWithId "orders" ⟨9, 0⟩ [("type", "ACCESS")],
    .readGroup "orders" "audit" "left" .lastConsumed 3, .delete "orders" [⟨7, 0⟩]]

/-- A listener that replays them in batches of two, and whose handler fails at the second record. -/
def resumed : Course :=
  Course.alone ⟨2, 100, true⟩ ⟨"orders", "audit", "left"⟩
    { service := ⟨Store.empty.after interrupted, []⟩
      archive := .empty .memory
      wall := ⟨0, 0⟩
      handlers := Table.empty.set .access .rehearsed
      script := [.succeed, .fail (.parsing "scripted")] }

theorem undisturbed_resumed (number : Nat) (replaying : resumed.Replaying number) :
    resumed.Undisturbed number := by
  have before : number < 15 := Nat.not_le.mp fun late => replaying 15 late rfl
  have answered : ∀ number < 15, Listener.Answered resumed.settings resumed.spec
      (resumed.state number).1 (resumed.pipeline number) := by decide
  have own := answered number before
  rw [resumed, Course.state_alone] at own
  exact Course.undisturbed_alone own

/-- The replay ends, having met a tombstone, a record that was handled and one that was not. -/
theorem resumed_replay_ends :
    (resumed.store 0).backlog resumed.spec = [⟨7, 0⟩, ⟨8, 0⟩, ⟨9, 0⟩] ∧
      (resumed.store 0).holds resumed.spec ⟨7, 0⟩ = false ∧
      ∃ number, (resumed.state number).1 = .reading .lastConsumed ∧
        (∀ earlier < number, (resumed.state earlier).1 ≠ .reading .lastConsumed) ∧
        Replayed resumed.settings resumed.spec (resumed.store 0) (resumed.state number).2
          (resumed.store number) := by
  have answers : (Store.empty.turns interrupted).map Streams.StoreTurn.answer =
      [.ok (.id ⟨6, 0⟩), .ok .done, .ok (.id ⟨7, 0⟩), .ok (.id ⟨8, 0⟩), .ok (.id ⟨9, 0⟩),
        .ok (.records [⟨"orders", ⟨7, 0⟩, ⟨[("type", "ACCESS")]⟩⟩,
          ⟨"orders", ⟨8, 0⟩, ⟨[("type", "ACCESS")]⟩⟩, ⟨"orders", ⟨9, 0⟩, ⟨[("type", "ACCESS")]⟩⟩]),
        .ok (.count 1)] := rfl
  have below : ∀ turn ∈ Store.empty.turns interrupted, turn.answer ≠ .ok (.id .greatest) := by
    intro turn member greatest
    have answered := @List.mem_map_of_mem _ _ _ _ Streams.StoreTurn.answer member
    rw [greatest, answers] at answered
    simp [StreamId.greatest, StreamId.greatestPart] at answered
  have fills : ∀ call ∈ interrupted, call.Fills := by
    simp [interrupted, StoreCall.Fills]
  exact ⟨rfl, rfl, Course.replay_ends rfl (by decide) interrupted rfl below
    (Streams.Store.filled_empty.after fills) undisturbed_resumed
    fun time => ⟨time, fun _ late => late⟩⟩

end AccessFeed
