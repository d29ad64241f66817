/-
This file says what a listener does and how its phase fits that.

What a listener does is written down deed by deed, the last one first: what it
received, where a record was routed, which handler was called and what came of
it, and what was acknowledged. The phase of a listener fits what is written down,
whatever the store is and whoever acts between two steps. A step changes the
store by one call at most: a read, or an acknowledgement of what its phase says.
-/

import AccessFeed.Listening.Listener
import AccessFeed.Proofs.Groups

namespace AccessFeed

open Event (EventType HandlerError)
open Streams (Content Group ReadOffset Record Service Store StoreCall StoreError StreamId)

/-! ### Deeds -/

/-- What a listener does. -/
inductive Deed
  | received (offset : ReadOffset) (batch : List Record)
  | routed (record : Record) (route : Option (EventType × Handler))
  | called (record : Record) (handler : Handler)
  | handled (record : Record) (result : Except HandlerError Unit)
  | acknowledged (record : Record) (answer : Except StoreError Nat)
  | swept (ids : List StreamId) (answer : Except StoreError Nat)

namespace Deed

/-- The batch that was received, with the offset of the read. -/
def batch? : Deed → Option (ReadOffset × List Record)
  | .received offset batch => some (offset, batch)
  | _ => none

/-- The record that a handler was called with. -/
def called? : Deed → Option Record
  | .called record _ => some record
  | _ => none

/-- The ids that were acknowledged. -/
def resolved : Deed → List StreamId
  | .acknowledged record (.ok _) => [record.id]
  | .swept ids (.ok _) => ids
  | _ => []

end Deed

/-- The last batch that was received, and the offset of its read. What was done last stands
first. -/
def lastRead? (log : List Deed) : Option (ReadOffset × List Record) :=
  log.findSome? Deed.batch?

/-- The last batch that was received. -/
def lastBatch (log : List Deed) : List Record :=
  ((lastRead? log).map Prod.snd).getD []

/-- The records that handlers were called with since a batch was received. -/
def calledSince (log : List Deed) : List Record :=
  ((log.takeWhile fun deed => deed.batch?.isNone).filterMap Deed.called?).reverse

/-- The records that are no tombstones. -/
def live (batch : List Record) : List Record :=
  batch.filter fun record => !record.isTombstone

/-- The ids of the tombstones. -/
def dead (batch : List Record) : List StreamId :=
  (batch.filter Record.isTombstone).map Record.id

namespace Dispatch

/-- The handler a record is routed to, with the type of its event. -/
def routeOf (pipeline : Pipeline) (record : Record) : Option (EventType × Handler) :=
  ((record.field? Event.fieldNames.eventType).bind EventType.classify).bind fun eventType =>
    (pipeline.handlers.get? eventType).map fun handler => (eventType, handler)

/-- What a step of a dispatch does, the last deed first. -/
def deeds (group : String) (record : Record) (now : Nat) (phase : DispatchPhase)
    (pipeline : Pipeline) : List Deed :=
  match phase with
  | .routing => [.routed record (routeOf pipeline record)]
  | .handling _ handler =>
    match (pipeline.handle handler record).1 with
    | .done result => [.handled record result, .called record handler]
    | .pausing _ => [.called record handler]
  | .pausing _ until_ => if until_ ≤ now then [.handled record (.ok ())] else []
  | .acknowledging =>
    [.acknowledged record
      (pipeline.ask fun service => service.acknowledge record.stream group [record.id]).1]
  | .finished _ => []

end Dispatch

/-- What a step of a listener does, the last deed first. -/
def Listener.deeds (settings : ListenerSettings) (spec : ListenerSpec) (shutdown : Bool)
    (now : Nat) (phase : ListenerPhase) (pipeline : Pipeline) : List Deed :=
  match phase with
  | .reading offset =>
    if shutdown then []
    else
      match (pipeline.ask fun service => service.readGroup spec.stream spec.group spec.consumer
        offset settings.readCount).1 with
      | .ok batch => [.received offset batch]
      | .error _ => []
  | .dispatching _ record dispatch _ _ => Dispatch.deeds spec.group record now dispatch pipeline
  | .sweeping _ tombstones =>
    [.swept tombstones (pipeline.ask fun service =>
      service.acknowledge spec.stream spec.group tombstones).1]
  | _ => []

/-! ### What was done so far -/

theorem lastRead?_append {done : List Deed} (unread : ∀ deed ∈ done, deed.batch? = none)
    (log : List Deed) : lastRead? (done ++ log) = lastRead? log := by
  rw [lastRead?, List.findSome?_append, List.findSome?_eq_none_iff.mpr unread]
  rfl

theorem lastBatch_append {done : List Deed} (unread : ∀ deed ∈ done, deed.batch? = none)
    (log : List Deed) : lastBatch (done ++ log) = lastBatch log := by
  rw [lastBatch, lastRead?_append unread, lastBatch]

/-- A record of the last batch comes from a batch that was received. -/
theorem lastRead?_of_mem_lastBatch {log : List Deed} {record : Record}
    (member : record ∈ lastBatch log) : ∃ offset, lastRead? log = some (offset, lastBatch log) := by
  rw [lastBatch] at member ⊢
  cases read : lastRead? log with
  | none =>
    rw [read] at member
    exact absurd member List.not_mem_nil
  | some pair => exact ⟨pair.1, rfl⟩

theorem mem_of_lastRead? {log : List Deed} {offset : ReadOffset} {batch : List Record}
    (read : lastRead? log = some (offset, batch)) : .received offset batch ∈ log := by
  obtain ⟨deed, member, told⟩ := List.exists_of_findSome?_eq_some read
  cases deed with
  | received =>
    obtain ⟨rfl, rfl⟩ := Prod.mk.inj (Option.some.inj told)
    exact member
  | routed | called | handled | acknowledged | swept => cases told

theorem calledSince_called (record : Record) (handler : Handler) (log : List Deed) :
    calledSince (.called record handler :: log) = calledSince log ++ [record] :=
  List.reverse_cons

theorem live_append (first second : List Record) :
    live (first ++ second) = live first ++ live second :=
  List.filter_append _ _

theorem live_concat (batch : List Record) {record : Record}
    (alive : record.isTombstone = false) : live (batch ++ [record]) = live batch ++ [record] := by
  rw [live_append]
  exact congrArg (live batch ++ ·) (List.filter_cons_of_pos (by rw [alive]; rfl))

theorem dead_concat (batch : List Record) {record : Record}
    (alive : record.isTombstone = false) : dead (batch ++ [record]) = dead batch := by
  rw [dead, List.filter_append, List.filter_cons_of_neg (by rw [alive]; exact Bool.false_ne_true)]
  exact congrArg (List.map Record.id) (List.append_nil _)

theorem dead_append (first second : List Record) :
    dead (first ++ second) = dead first ++ dead second := by
  rw [dead, List.filter_append, List.map_append, dead, dead]

theorem sublist_live_append {called taken : List Record}
    (sublist : called.Sublist (live taken)) (left : List Record) :
    called.Sublist (live (taken ++ left)) := by
  rw [live_append]
  exact sublist.trans (List.sublist_append_left _ _)

/-! ### The order of deeds -/

/-- Whether a deed may follow what was done before. A handler is called with a record that was
just routed to it, a record is acknowledged when its handler just succeeded, and what is swept are
the tombstones of the last batch. -/
def Deed.Follows (older : List Deed) : Deed → Prop
  | .received _ _ => True
  | .routed _ _ => True
  | .called record handler =>
    ∃ eventType rest, older = .routed record (some (eventType, handler)) :: rest
  | .handled record _ => ∃ handler rest, older = .called record handler :: rest
  | .acknowledged record _ => ∃ rest, older = .handled record (.ok ()) :: rest
  | .swept ids _ => ids = dead (lastBatch older)

/-- Whether all deeds follow what was done before them. -/
def Ordered : List Deed → Prop
  | [] => True
  | deed :: older => deed.Follows older ∧ Ordered older

/-! ### A phase and what was done -/

/-- Whether of the last batch some records have been taken up and the others are left. -/
structure TakenUp (log : List Deed) (taken left : List Record) (tombstones : List StreamId) :
    Prop where
  batch : lastBatch log = taken ++ left
  tombstones : tombstones = dead taken

/-- Whether the dispatch of a record fits what was done. -/
def DispatchPhase.Fits (log : List Deed) (taken : List Record) (record : Record) :
    DispatchPhase → Prop
  | .routing => (calledSince log).Sublist (live taken)
  | .handling eventType handler =>
    (calledSince log).Sublist (live taken) ∧
      ∃ older, log = .routed record (some (eventType, handler)) :: older
  | .pausing eventType _ =>
    (calledSince log).Sublist (live (taken ++ [record])) ∧
      ∃ handler older,
        log = .called record handler :: .routed record (some (eventType, handler)) :: older
  | .acknowledging =>
    (calledSince log).Sublist (live (taken ++ [record])) ∧
      ∃ eventType handler older, log = .handled record (.ok ()) :: .called record handler ::
        .routed record (some (eventType, handler)) :: older
  | .finished _ => (calledSince log).Sublist (live (taken ++ [record]))

/-- Whether the phase of a listener fits what was done. -/
def ListenerPhase.Fits (log : List Deed) : ListenerPhase → Prop
  | .delivering _ batch tombstones =>
    ∃ taken, TakenUp log taken batch tombstones ∧ (calledSince log).Sublist (live taken)
  | .dispatching _ record dispatch rest tombstones =>
    ∃ taken, TakenUp log taken (record :: rest) tombstones ∧ record.isTombstone = false ∧
      dispatch.Fits log taken record
  | .sweeping _ tombstones =>
    ∃ taken, TakenUp log taken [] tombstones ∧ (calledSince log).Sublist (live taken)
  | _ => (calledSince log).Sublist (live (lastBatch log))

theorem DispatchPhase.Fits.calledSince {log : List Deed} {taken : List Record} {record : Record}
    {dispatch : DispatchPhase} (fits : dispatch.Fits log taken record) :
    (calledSince log).Sublist (live (taken ++ [record])) := by
  cases dispatch with
  | routing => exact sublist_live_append fits _
  | handling => exact sublist_live_append fits.1 _
  | pausing | acknowledging => exact fits.1
  | finished => exact fits

/-- Each record of the last batch that is no tombstone was given to a handler at most once. -/
theorem ListenerPhase.Fits.calledSince {log : List Deed} {phase : ListenerPhase}
    (fits : phase.Fits log) : (calledSince log).Sublist (live (lastBatch log)) := by
  cases phase with
  | delivering | sweeping =>
    obtain ⟨taken, takenUp, sublist⟩ := fits
    rw [takenUp.batch]
    exact sublist_live_append sublist _
  | dispatching next record dispatch rest tombstones =>
    obtain ⟨taken, takenUp, _, fits⟩ := fits
    rw [takenUp.batch, List.append_cons]
    exact sublist_live_append (DispatchPhase.Fits.calledSince fits) _
  | starting | reading | idle | stopping | stopped => exact fits

/-- The record that is dispatched is one of the last batch. -/
theorem ListenerPhase.Fits.mem_lastBatch {log : List Deed} {next : ReadOffset} {record : Record}
    {dispatch : DispatchPhase} {rest : List Record} {tombstones : List StreamId}
    (fits : (ListenerPhase.dispatching next record dispatch rest tombstones).Fits log) :
    record ∈ lastBatch log := by
  obtain ⟨taken, takenUp, _⟩ := fits
  rw [takenUp.batch]
  exact List.mem_append_right _ List.mem_cons_self

/-! ### Steps of a dispatch -/

namespace Dispatch

variable (group : String) (record : Record) (now : Nat) (pipeline : Pipeline)

/-- A record is routed to the handler of its type, or its dispatch ends. -/
theorem route_cases :
    (∃ outcome, (route group record pipeline).1 = .finished outcome ∧
      routeOf pipeline record = none) ∨
    ∃ eventType handler, (route group record pipeline).1 = .handling eventType handler ∧
      routeOf pipeline record = some (eventType, handler) := by
  rw [route, routeOf]
  cases (record.field? Event.fieldNames.eventType).bind EventType.classify with
  | none => exact Or.inl ⟨_, rfl, rfl⟩
  | some eventType =>
    rw [Option.bind_some]
    dsimp only
    cases pipeline.handlers.get? eventType with
    | none => exact Or.inl ⟨_, rfl, rfl⟩
    | some handler => exact Or.inr ⟨eventType, handler, rfl, rfl⟩

/-- A record is acknowledged when its handler succeeded, and otherwise its dispatch ends. -/
theorem handled_cases (eventType : EventType) (result : Except HandlerError Unit) :
    (result = .ok () ∧ (handled group record pipeline eventType result).1 = .acknowledging) ∨
    ∃ outcome, (handled group record pipeline eventType result).1 = .finished outcome := by
  cases result with
  | ok => exact Or.inl ⟨rfl, rfl⟩
  | error failure =>
    dsimp only [handled]
    by_cases parsing : failure.isParsing = true
    · rw [if_pos parsing]
      exact Or.inr ⟨_, rfl⟩
    · rw [if_neg parsing]
      exact Or.inr ⟨_, rfl⟩

theorem unread_deeds (dispatch : DispatchPhase) :
    ∀ deed ∈ deeds group record now dispatch pipeline, deed.batch? = none := by
  intro deed member
  cases dispatch with
  | routing | acknowledging => exact List.mem_singleton.mp member ▸ rfl
  | handling eventType handler =>
    dsimp only [deeds] at member
    generalize (pipeline.handle handler record).1 = progress at member
    cases progress with
    | done result =>
      rcases List.mem_cons.mp member with rfl | last
      · rfl
      · exact List.mem_singleton.mp last ▸ rfl
    | pausing => exact List.mem_singleton.mp member ▸ rfl
  | pausing eventType until_ =>
    dsimp only [deeds] at member
    by_cases ready : until_ ≤ now
    · rw [if_pos ready] at member
      exact List.mem_singleton.mp member ▸ rfl
    · rw [if_neg ready] at member
      exact absurd member List.not_mem_nil
  | finished => exact absurd member List.not_mem_nil

variable {log : List Deed} {taken : List Record}

theorem fits_handled {eventType : EventType} {handler : Handler} {older : List Deed}
    (called : log = .called record handler :: .routed record (some (eventType, handler)) :: older)
    (sublist : (calledSince log).Sublist (live (taken ++ [record])))
    (result : Except HandlerError Unit) :
    (handled group record pipeline eventType result).1.Fits (.handled record result :: log) taken
      record := by
  rcases handled_cases group record pipeline eventType result with ⟨rfl, same⟩ | ⟨outcome, same⟩
  · rw [same]
    exact ⟨sublist, eventType, handler, older, by rw [called]⟩
  · rw [same]
    exact sublist

/-- A step of a dispatch leads to a phase that fits what was done. -/
theorem fits_step {dispatch : DispatchPhase} (alive : record.isTombstone = false)
    (fits : dispatch.Fits log taken record) :
    (step group record now dispatch pipeline).1.Fits
      (deeds group record now dispatch pipeline ++ log) taken record := by
  cases dispatch with
  | routing =>
    show (route group record pipeline).1.Fits (.routed record (routeOf pipeline record) :: log) _ _
    rcases route_cases group record pipeline with
      ⟨outcome, same, -⟩ | ⟨eventType, handler, same, routed⟩
    · rw [same]
      exact sublist_live_append fits [record]
    · rw [same, routed]
      exact ⟨fits, log, rfl⟩
  | handling eventType handler =>
    obtain ⟨sublist, older, rfl⟩ := fits
    have given : (calledSince (.called record handler ::
        .routed record (some (eventType, handler)) :: older)).Sublist
          (live (taken ++ [record])) := by
      rw [calledSince_called, live_concat _ alive]
      exact sublist.append_right _
    dsimp only [step, deeds]
    obtain ⟨progress, reached⟩ := pipeline.handle handler record
    cases progress with
    | done result => exact fits_handled group record reached rfl given result
    | pausing millis => exact ⟨given, handler, older, rfl⟩
  | pausing eventType until_ =>
    obtain ⟨sublist, handler, older, called⟩ := fits
    dsimp only [step, deeds]
    by_cases ready : until_ ≤ now
    · rw [if_pos ready, if_pos ready]
      exact fits_handled group record pipeline called sublist (.ok ())
    · rw [if_neg ready, if_neg ready]
      exact ⟨sublist, handler, older, called⟩
  | acknowledging => exact fits.1
  | finished outcome => exact fits

/-- A step of a dispatch does what may follow. -/
theorem ordered_step {dispatch : DispatchPhase} (fits : dispatch.Fits log taken record)
    (ordered : Ordered log) :
    Ordered (deeds group record now dispatch pipeline ++ log) := by
  cases dispatch with
  | routing => exact ⟨trivial, ordered⟩
  | handling eventType handler =>
    obtain ⟨_, older, rfl⟩ := fits
    dsimp only [deeds]
    cases (pipeline.handle handler record).1 with
    | done result => exact ⟨⟨handler, _, rfl⟩, ⟨eventType, older, rfl⟩, ordered⟩
    | pausing => exact ⟨⟨eventType, older, rfl⟩, ordered⟩
  | pausing eventType until_ =>
    obtain ⟨_, handler, older, called⟩ := fits
    dsimp only [deeds]
    by_cases ready : until_ ≤ now
    · rw [if_pos ready]
      exact ⟨⟨handler, _, called⟩, ordered⟩
    · rw [if_neg ready]
      exact ordered
  | acknowledging =>
    obtain ⟨_, eventType, handler, older, written⟩ := fits
    exact ⟨⟨_, written⟩, ordered⟩
  | finished => exact ordered

end Dispatch

/-! ### Steps of a listener -/

namespace Listener

variable (settings : ListenerSettings) (spec : ListenerSpec) (shutdown : Bool) (now : Nat)
  (pipeline : Pipeline) {log : List Deed} {phase : ListenerPhase}

theorem fits_takeUp (next : ReadOffset) {batch : List Record} {tombstones : List StreamId}
    {taken : List Record} (takenUp : TakenUp log taken batch tombstones)
    (sublist : (calledSince log).Sublist (live taken)) :
    (takeUp next batch tombstones).Fits log := by
  cases batch with
  | nil =>
    rw [takeUp]
    by_cases none : tombstones.isEmpty = true
    · rw [if_pos none]
      show (calledSince log).Sublist (live (lastBatch log))
      rw [takenUp.batch, List.append_nil]
      exact sublist
    · rw [if_neg none]
      exact ⟨taken, takenUp, sublist⟩
  | cons record rest =>
    rw [takeUp]
    by_cases tombstone : record.isTombstone = true
    · rw [if_pos tombstone]
      refine ⟨taken ++ [record], ⟨?_, ?_⟩, sublist_live_append sublist _⟩
      · rw [takenUp.batch, List.append_cons]
      · rw [dead_append, ← takenUp.tombstones]
        rw [dead, List.filter_cons_of_pos tombstone]
        rfl
    · rw [if_neg tombstone]
      exact ⟨taken, takenUp, Bool.eq_false_iff.mpr tombstone, sublist⟩

/-- A step of a listener leads to a phase that fits what was done. -/
theorem fits_step (fits : phase.Fits log) :
    (step settings spec shutdown now phase pipeline).1.Fits
      (deeds settings spec shutdown now phase pipeline ++ log) := by
  cases phase with
  | starting | stopping | stopped => exact fits
  | reading offset =>
    dsimp only [step, deeds]
    cases shutdown with
    | true => exact fits
    | false =>
      dsimp only [read, Pipeline.ask]
      obtain ⟨answer, service⟩ := pipeline.service.readGroup spec.stream spec.group spec.consumer
        offset settings.readCount
      cases answer with
      | error error =>
        dsimp only
        obtain ⟨critical, reached⟩ := Pipeline.cancelOnError _ spec error
        cases critical <;> exact fits
      | ok batch =>
        cases batch with
        | nil => cases offset <;> exact List.nil_sublist _
        | cons record rest => exact ⟨[], ⟨rfl, rfl⟩, List.nil_sublist _⟩
  | delivering next batch tombstones =>
    obtain ⟨taken, takenUp, sublist⟩ := fits
    exact fits_takeUp next takenUp sublist
  | dispatching next record dispatch rest tombstones =>
    obtain ⟨taken, takenUp, alive, fits⟩ := fits
    have unread := Dispatch.unread_deeds spec.group record now pipeline dispatch
    have after := Dispatch.fits_step spec.group record now pipeline alive fits
    dsimp only [step, deeds]
    generalize Dispatch.step spec.group record now dispatch pipeline = stepped at after ⊢
    obtain ⟨following, reached⟩ := stepped
    cases following with
    | finished outcome =>
      refine ⟨taken ++ [record], ⟨?_, ?_⟩, after⟩
      · rw [lastBatch_append unread, takenUp.batch, List.append_cons]
      · rw [takenUp.tombstones, dead_concat _ alive]
    | routing | handling | pausing | acknowledging =>
      exact ⟨taken, ⟨(lastBatch_append unread log).trans takenUp.batch, takenUp.tombstones⟩, alive,
        after⟩
  | sweeping next tombstones =>
    obtain ⟨taken, takenUp, sublist⟩ := fits
    show (calledSince log).Sublist (live (lastBatch log))
    rw [takenUp.batch, List.append_nil]
    exact sublist
  | idle offset until_ =>
    dsimp only [step, deeds]
    split
    · exact fits
    · split <;> exact fits

/-- A step of a listener does what may follow. -/
theorem ordered_step (fits : phase.Fits log) (ordered : Ordered log) :
    Ordered (deeds settings spec shutdown now phase pipeline ++ log) := by
  cases phase with
  | starting | delivering | idle | stopping | stopped => exact ordered
  | reading offset =>
    dsimp only [deeds]
    cases shutdown with
    | true => exact ordered
    | false =>
      dsimp only [Pipeline.ask]
      cases (pipeline.service.readGroup spec.stream spec.group spec.consumer offset
        settings.readCount).1 with
      | ok batch => exact ⟨trivial, ordered⟩
      | error error => exact ordered
  | dispatching next record dispatch rest tombstones =>
    obtain ⟨taken, _, _, fits⟩ := fits
    exact Dispatch.ordered_step spec.group record now pipeline fits ordered
  | sweeping next tombstones =>
    obtain ⟨taken, takenUp, _⟩ := fits
    refine ⟨?_, ordered⟩
    show tombstones = dead (lastBatch log)
    rw [takenUp.tombstones, takenUp.batch, List.append_nil]

end Listener

/-! ### What a step does to the store -/

/-- Whether the streams and the signal of critical errors are as they were. -/
structure Pipeline.Spares (before after : Pipeline) : Prop where
  service : after.service = before.service
  signal : after.signal = before.signal

theorem Pipeline.Spares.trans {first second third : Pipeline} (earlier : first.Spares second)
    (later : second.Spares third) : first.Spares third :=
  ⟨later.service.trans earlier.service, later.signal.trans earlier.signal⟩

/-- Whether the counted numbers are as they were, too. -/
structure Pipeline.SparesNumbers (before after : Pipeline) : Prop extends before.Spares after where
  metrics : after.metrics = before.metrics

theorem Pipeline.sparesNumbers_creationTime (pipeline : Pipeline) (payload : Event.Payload)
    (record : Record) : pipeline.SparesNumbers (pipeline.creationTime payload record).2 := by
  rw [creationTime]
  cases payload.createdInstant? <;> exact ⟨⟨rfl, rfl⟩, rfl⟩

theorem Pipeline.sparesNumbers_keepPayload (pipeline : Pipeline) (payload : Event.Payload)
    (record : Record) (row : Archive.CategoryRow) :
    pipeline.SparesNumbers (pipeline.keepPayload payload record row).2 := by
  rw [keepPayload]
  split
  · have spared := pipeline.sparesNumbers_creationTime payload record
    generalize pipeline.creationTime payload record = timed at spared ⊢
    obtain ⟨createdAt, reached⟩ := timed
    dsimp only [look]
    obtain ⟨answer, archive⟩ :=
      reached.archive.create reached.wall (payload.toNewEvent record row createdAt)
    cases answer <;> exact ⟨⟨spared.service, spared.signal⟩, spared.metrics⟩
  · exact ⟨⟨rfl, rfl⟩, rfl⟩

/-- A handler leaves the streams, the signal and the counted numbers alone. -/
theorem Pipeline.sparesNumbers_handle (pipeline : Pipeline) (handler : Handler)
    (record : Record) : pipeline.SparesNumbers (pipeline.handle handler record).2 := by
  cases handler with
  | access =>
    show pipeline.SparesNumbers (pipeline.handleAccess record).2
    rw [handleAccess]
    cases Event.Payload.decode record.fields with
    | error fault => exact ⟨⟨rfl, rfl⟩, rfl⟩
    | ok payload =>
      dsimp only
      cases Event.Category.ofCode? payload.category with
      | none => exact ⟨⟨rfl, rfl⟩, rfl⟩
      | some category =>
        dsimp only [look]
        obtain ⟨answer, archive⟩ := pipeline.archive.findCode category
        cases answer with
        | error failure => exact ⟨⟨rfl, rfl⟩, rfl⟩
        | ok row =>
          cases row with
          | none => exact ⟨⟨rfl, rfl⟩, rfl⟩
          | some row =>
            have spared := sparesNumbers_keepPayload { pipeline with archive } payload record row
            exact ⟨⟨spared.service, spared.signal⟩, spared.metrics⟩
  | rehearsed =>
    rw [handle]
    cases pipeline.script.head?.getD .succeed <;> exact ⟨⟨rfl, rfl⟩, rfl⟩

namespace Dispatch

variable (group : String) (record : Record) (now : Nat) (pipeline : Pipeline)

theorem spares_route : pipeline.Spares (route group record pipeline).2 := by
  rw [route]
  cases (record.field? Event.fieldNames.eventType).bind EventType.classify with
  | none => exact ⟨rfl, rfl⟩
  | some eventType =>
    dsimp only
    cases pipeline.handlers.get? eventType <;> exact ⟨rfl, rfl⟩

theorem spares_handled (eventType : EventType) (result : Except HandlerError Unit) :
    pipeline.Spares (handled group record pipeline eventType result).2 := by
  cases result with
  | ok => exact ⟨rfl, rfl⟩
  | error failure =>
    dsimp only [handled]
    split <;> exact ⟨rfl, rfl⟩

/-- Only the acknowledgement of a dispatch reaches the store, and none the signal. -/
theorem spares_step {dispatch : DispatchPhase} (other : dispatch ≠ .acknowledging) :
    pipeline.Spares (step group record now dispatch pipeline).2 ∧
      ∀ deed ∈ deeds group record now dispatch pipeline, deed.resolved = [] := by
  cases dispatch with
  | routing =>
    exact ⟨spares_route group record pipeline, fun deed member =>
      List.mem_singleton.mp member ▸ rfl⟩
  | handling eventType handler =>
    have spared := (pipeline.sparesNumbers_handle handler record).toSpares
    dsimp only [step, deeds]
    generalize pipeline.handle handler record = run at spared ⊢
    obtain ⟨progress, reached⟩ := run
    cases progress with
    | done result =>
      refine ⟨spared.trans (spares_handled group record reached eventType result), ?_⟩
      intro deed member
      rcases List.mem_cons.mp member with rfl | last
      · rfl
      · exact List.mem_singleton.mp last ▸ rfl
    | pausing =>
      exact ⟨⟨spared.service, spared.signal⟩, fun deed member =>
        List.mem_singleton.mp member ▸ rfl⟩
  | pausing eventType until_ =>
    dsimp only [step, deeds]
    by_cases ready : until_ ≤ now
    · rw [if_pos ready, if_pos ready]
      exact ⟨spares_handled group record pipeline eventType (.ok ()),
        fun deed member => List.mem_singleton.mp member ▸ rfl⟩
    · rw [if_neg ready, if_neg ready]
      exact ⟨⟨rfl, rfl⟩, fun deed member => absurd member List.not_mem_nil⟩
  | acknowledging => exact absurd rfl other
  | finished => exact ⟨⟨rfl, rfl⟩, fun deed member => absurd member List.not_mem_nil⟩

theorem service_acknowledge :
    (acknowledge group record pipeline).2.service =
      (pipeline.service.acknowledge record.stream group [record.id]).2 := by
  dsimp only [acknowledge, Pipeline.ask]
  obtain ⟨answer, service⟩ := pipeline.service.acknowledge record.stream group [record.id]
  cases answer <;> rfl

end Dispatch

namespace Listener

/-- What a step of a listener in some phase does to a store, besides what else it does. -/
inductive Effect (settings : ListenerSettings) (spec : ListenerSpec) (phase : ListenerPhase)
    (before : Store) : List Deed → Store → Prop
  | quiet {done : List Deed} (unread : ∀ deed ∈ done, deed.batch? = none)
      (unresolved : ∀ deed ∈ done, deed.resolved = []) :
      Effect settings spec phase before done before
  | received {offset : ReadOffset} {content : Content} {held : Group}
      (reading : phase = .reading offset) (working : before.failure = none)
      (present : before.content? spec.stream = some content)
      (member : content.groups.get? spec.group = some held) :
      Effect settings spec phase before
        [.received offset
          (content.readRecords spec.stream spec.consumer offset settings.readCount held)]
        ((StoreCall.readGroup spec.stream spec.group spec.consumer offset
          settings.readCount).perform before).2
  | acknowledged {next : ReadOffset} {record : Record} {rest : List Record}
      {tombstones : List StreamId} {count : Nat}
      (dispatching : phase = .dispatching next record .acknowledging rest tombstones)
      (working : before.failure = none) :
      Effect settings spec phase before [.acknowledged record (.ok count)]
        ((StoreCall.acknowledge record.stream spec.group [record.id]).perform before).2
  | swept {next : ReadOffset} {tombstones : List StreamId} {count : Nat}
      (sweeping : phase = .sweeping next tombstones) (working : before.failure = none) :
      Effect settings spec phase before [.swept tombstones (.ok count)]
        ((StoreCall.acknowledge spec.stream spec.group tombstones).perform before).2

variable (settings : ListenerSettings) (spec : ListenerSpec) (shutdown : Bool) (now : Nat)
  (pipeline : Pipeline)

theorem service_cancelOnError (error : StoreError) :
    (pipeline.cancelOnError spec error).2.service = pipeline.service := by
  rw [Pipeline.cancelOnError]
  split
  · show (Pipeline.emit _ _).service = _
    rw [Pipeline.emit]
    split <;> rfl
  · rfl

theorem service_read (offset : ReadOffset) :
    (read settings spec now offset pipeline).2.service =
      (pipeline.service.readGroup spec.stream spec.group spec.consumer offset
        settings.readCount).2 := by
  dsimp only [read, Pipeline.ask]
  obtain ⟨answer, service⟩ := pipeline.service.readGroup spec.stream spec.group spec.consumer
    offset settings.readCount
  cases answer with
  | ok batch =>
    cases batch with
    | nil => cases offset <;> rfl
    | cons record rest => rfl
  | error error =>
    dsimp only
    have same := service_cancelOnError spec
      (({ pipeline with service } : Pipeline).count
        (.listenerErrors spec.stream spec.group error.label) 1) error
    generalize Pipeline.cancelOnError _ spec error = decided at same ⊢
    obtain ⟨critical, reached⟩ := decided
    cases critical <;> exact same

theorem service_dropTombstones (ids : List StreamId) :
    (pipeline.dropTombstones spec ids).service =
      (pipeline.service.acknowledge spec.stream spec.group ids).2 := by
  dsimp only [Pipeline.dropTombstones, Pipeline.ask]
  obtain ⟨answer, service⟩ := pipeline.service.acknowledge spec.stream spec.group ids
  cases answer <;> rfl

theorem effect_nil {phase : ListenerPhase} {before : Store} :
    Effect settings spec phase before [] before :=
  .quiet (fun _ member => absurd member List.not_mem_nil)
    fun _ member => absurd member List.not_mem_nil

theorem effect_single {phase : ListenerPhase} {before : Store} {deed : Deed}
    (unread : deed.batch? = none) (unresolved : deed.resolved = []) :
    Effect settings spec phase before [deed] before :=
  .quiet (fun _ member => List.mem_singleton.mp member ▸ unread)
    fun _ member => List.mem_singleton.mp member ▸ unresolved

theorem pipeline_step_dispatching (next : ReadOffset) (record : Record)
    (dispatch : DispatchPhase) (rest : List Record) (tombstones : List StreamId) :
    (step settings spec shutdown now (.dispatching next record dispatch rest tombstones)
      pipeline).2 = (Dispatch.step spec.group record now dispatch pipeline).2 := by
  dsimp only [step]
  obtain ⟨following, reached⟩ := Dispatch.step spec.group record now dispatch pipeline
  cases following <;> rfl

theorem effect_reading (offset : ReadOffset) :
    Effect settings spec (.reading offset) pipeline.service.store
      (deeds settings spec false now (.reading offset) pipeline)
      (read settings spec now offset pipeline).2.service.store := by
  rw [service_read]
  dsimp only [deeds, Pipeline.ask]
  rcases pipeline.service.readGroup_cases spec.stream spec.group spec.consumer offset
    settings.readCount with
    ⟨error, answer, store⟩ | ⟨content, held, working, present, member, answer, store⟩
  · rw [answer, store]
    exact effect_nil settings spec
  · rw [answer, store]
    exact .received rfl working present member

/-- A step of a listener makes one call at most that changes the streams. -/
theorem effect_step (phase : ListenerPhase) :
    Effect settings spec phase pipeline.service.store
      (deeds settings spec shutdown now phase pipeline)
      (step settings spec shutdown now phase pipeline).2.service.store := by
  cases phase with
  | starting | delivering | stopping | stopped => exact effect_nil settings spec
  | reading offset =>
    cases shutdown with
    | true => exact effect_nil settings spec
    | false => exact effect_reading settings spec now pipeline offset
  | dispatching next record dispatch rest tombstones =>
    rw [pipeline_step_dispatching]
    by_cases acknowledging : dispatch = .acknowledging
    · subst acknowledging
      show Effect settings spec _ _
        [.acknowledged record
          (pipeline.service.acknowledge record.stream spec.group [record.id]).1]
        (Dispatch.acknowledge spec.group record pipeline).2.service.store
      rw [Dispatch.service_acknowledge]
      rcases pipeline.service.acknowledge_made record.stream spec.group [record.id] with
        ⟨error, answer, store⟩ | ⟨working, ⟨count, answer⟩, store⟩
      · rw [answer, store]
        exact effect_single settings spec rfl rfl
      · rw [answer, store]
        exact .acknowledged rfl working
    · obtain ⟨spared, unresolved⟩ :=
        Dispatch.spares_step spec.group record now pipeline acknowledging
      rw [spared.service]
      exact .quiet (Dispatch.unread_deeds spec.group record now pipeline dispatch) unresolved
  | sweeping next tombstones =>
    show Effect settings spec _ _
      [.swept tombstones (pipeline.service.acknowledge spec.stream spec.group tombstones).1]
      (pipeline.dropTombstones spec tombstones).service.store
    rw [service_dropTombstones]
    rcases pipeline.service.acknowledge_made spec.stream spec.group tombstones with
      ⟨error, answer, store⟩ | ⟨working, ⟨count, answer⟩, store⟩
    · rw [answer, store]
      exact effect_single settings spec rfl rfl
    · rw [answer, store]
      exact .swept rfl working
  | idle offset until_ =>
    dsimp only [step, deeds]
    split
    · exact effect_nil settings spec
    · split <;> exact effect_nil settings spec

/-! ### What stands behind an acknowledgement -/

namespace Effect

variable {settings : ListenerSettings} {spec : ListenerSpec} {phase : ListenerPhase}
  {before after : Store} {done log : List Deed}

/-- What a step acknowledges is a record whose handler succeeded just before, or tombstones of the
last batch. -/
theorem resolves (effect : Effect settings spec phase before done after) (fits : phase.Fits log)
    {deed : Deed} (member : deed ∈ done) {id : StreamId} (listed : id ∈ deed.resolved) :
    (∃ record ∈ lastBatch log, record.id = id ∧ ∃ count eventType handler older,
      done = [.acknowledged record (.ok count)] ∧
      log = .handled record (.ok ()) :: .called record handler ::
        .routed record (some (eventType, handler)) :: older) ∨
    ∃ record ∈ lastBatch log, record.id = id ∧ record.isTombstone = true ∧
      ∃ ids count, done = [.swept ids (.ok count)] ∧ id ∈ ids := by
  cases effect with
  | quiet unread unresolved =>
    rw [unresolved deed member] at listed
    exact absurd listed List.not_mem_nil
  | received =>
    rw [List.mem_singleton.mp member] at listed
    exact absurd listed List.not_mem_nil
  | @acknowledged next record rest tombstones count dispatching working =>
    subst dispatching
    have among := fits.mem_lastBatch
    obtain ⟨taken, takenUp, _, _, eventType, handler, older, written⟩ := fits
    rw [List.mem_singleton.mp member] at listed
    exact Or.inl ⟨record, among, (List.mem_singleton.mp listed).symm, count, eventType, handler,
      older, rfl, written⟩
  | @swept next tombstones count sweeping working =>
    subst sweeping
    obtain ⟨taken, takenUp, _⟩ := fits
    rw [List.mem_singleton.mp member] at listed
    have among : id ∈ dead taken := takenUp.tombstones ▸ listed
    obtain ⟨record, filtered, same⟩ := List.mem_map.mp among
    obtain ⟨present, tombstone⟩ := List.mem_filter.mp filtered
    refine Or.inr ⟨record, ?_, same, tombstone, tombstones, count, rfl, listed⟩
    rw [takenUp.batch, List.append_nil]
    exact present

/-- A step changes the store by a call that acknowledges what the step acknowledges, or not at
all. -/
theorem calls (effect : Effect settings spec phase before done after) (fits : phase.Fits log)
    (located : ∀ record ∈ lastBatch log, record.stream = spec.stream) :
    (after = before ∧ ∀ deed ∈ done, deed.resolved = []) ∨
    ∃ call : StoreCall, after = (call.perform before).2 ∧ call.Fills ∧
      (call.perform before).1 ≠ .ok (.id .greatest) ∧
      ∀ stream group id, call.Acks stream group id →
        stream = spec.stream ∧ group = spec.group ∧ ∃ deed ∈ done, id ∈ deed.resolved := by
  cases effect with
  | quiet unread unresolved => exact Or.inl ⟨rfl, unresolved⟩
  | received =>
    refine Or.inr ⟨_, rfl, trivial,
      StoreCall.answer_ne_greatest (fun _ impossible => by cases impossible) _, ?_⟩
    rintro stream group id ⟨ids, impossible, -⟩
    cases impossible
  | @acknowledged next record rest tombstones count dispatching working =>
    subst dispatching
    have own := located record fits.mem_lastBatch
    refine Or.inr ⟨_, rfl, trivial,
      StoreCall.answer_ne_greatest (fun _ impossible => by cases impossible) _, ?_⟩
    rintro stream group id ⟨ids, same, listed⟩
    cases same
    exact ⟨own, rfl, _, List.mem_cons_self, listed⟩
  | @swept next tombstones count sweeping working =>
    refine Or.inr ⟨_, rfl, trivial,
      StoreCall.answer_ne_greatest (fun _ impossible => by cases impossible) _, ?_⟩
    rintro stream group id ⟨ids, same, listed⟩
    cases same
    exact ⟨rfl, rfl, _, List.mem_cons_self, listed⟩

/-- What a step acknowledges is done with afterwards, if it was delivered at all. -/
theorem done_of_resolved (effect : Effect settings spec phase before done after)
    (sound : before.Sound) (fits : phase.Fits log)
    (located : ∀ record ∈ lastBatch log, record.stream = spec.stream) {deed : Deed}
    (member : deed ∈ done) {id : StreamId} (listed : id ∈ deed.resolved)
    (delivered : before.Done spec.stream spec.group id ∨
      ∃ delivery, before.delivery? spec.stream spec.group id = some delivery) :
    after.Done spec.stream spec.group id := by
  cases effect with
  | quiet unread unresolved =>
    rw [unresolved deed member] at listed
    exact absurd listed List.not_mem_nil
  | received =>
    rw [List.mem_singleton.mp member] at listed
    exact absurd listed List.not_mem_nil
  | @acknowledged next record rest tombstones count dispatching working =>
    subst dispatching
    have own := located record fits.mem_lastBatch
    rw [List.mem_singleton.mp member] at listed
    rw [own]
    exact Streams.Store.done_of_acknowledged working sound listed delivered
  | @swept next tombstones count sweeping working =>
    rw [List.mem_singleton.mp member] at listed
    exact Streams.Store.done_of_acknowledged working sound listed delivered

/-- What a step receives is of the listener's stream and pending with its consumer afterwards; a
tombstone among it comes from a replay, and its entry was deleted. -/
theorem delivers (effect : Effect settings spec phase before done after) (sound : before.Sound)
    (filled : before.Filled) {offset : ReadOffset} {batch : List Record}
    (read : .received offset batch ∈ done) {record : Record} (among : record ∈ batch) :
    record.stream = spec.stream ∧
      (record.isTombstone = true →
        (∃ start, offset = .pendingAfter start) ∧ before.Deleted spec.stream record.id) ∧
      ∃ count, after.delivery? spec.stream spec.group record.id =
        some ⟨spec.consumer, count⟩ := by
  cases effect with
  | quiet unread => exact absurd (unread _ read) (by simp [Deed.batch?])
  | received reading working present member =>
    cases List.mem_singleton.mp read
    exact ⟨Streams.Store.stream_of_read among,
      Streams.Store.deleted_of_read sound filled present member among,
      Streams.Store.delivery?_of_read working sound present member among⟩
  | acknowledged => cases List.mem_singleton.mp read
  | swept => cases List.mem_singleton.mp read

end Effect

end Listener

end AccessFeed
