/-
This file defines the access events that are kept, and the tables they are kept
in.

A kept event is identified by the id of the record it was decoded from; creating
an event that is already there changes nothing and answers the one that is. Two
tables are defined. One lists events in the order in which they were first
created, the other in the order of the bytes of their source ids. Both answer
the events of a span of time in ascending order of their times of creation.
-/

import AccessFeed.Binary64.Basic
import AccessFeed.Calendar.Instant
import AccessFeed.Event.Category
import AccessFeed.Table

namespace AccessFeed.Archive

open Calendar (Instant)
open Event (Category)

/-- An access event to be kept. -/
structure NewEvent where
  sourceId : String
  categoryId : Nat
  category : Category
  userId : String
  endpoint : String
  httpMethod : String
  methodName : Option String
  responseStatus : Int
  responseTime : Binary64
  ipAddress : String
  userAgent : String
  inputs : Option String
  outputs : Option String
  createdAt : Instant
deriving DecidableEq, Repr

/-- A kept event: the number it was kept under, and when. -/
structure KeptEvent where
  serial : Nat
  event : NewEvent
  storedAt : Instant
deriving DecidableEq, Repr

/-- The answer of creating an event. -/
inductive Creation
  | created (event : KeptEvent)
  | duplicate (event : KeptEvent)
deriving DecidableEq, Repr

namespace Creation

/-- The event that is kept now. -/
def event : Creation → KeptEvent
  | .created event => event
  | .duplicate event => event

/-- Whether the event was kept before. -/
def isDuplicate : Creation → Bool
  | .created _ => false
  | .duplicate _ => true

end Creation

/-- Whether an event was created in a span of time, whose end does not belong to it. -/
def KeptEvent.isWithin (kept : KeptEvent) (start stop : Instant) : Bool :=
  decide (start ≤ kept.event.createdAt) && decide (kept.event.createdAt < stop)

/-- The events of a span of time in ascending order of their times of creation; events of one
time keep their order. -/
def within (events : List KeptEvent) (start stop : Instant) : List KeptEvent :=
  (events.filter fun kept => kept.isWithin start stop).mergeSort fun first second =>
    decide (first.event.createdAt ≤ second.event.createdAt)

/-- Whether an event was not created before a time. -/
def KeptEvent.isKeptAfter (kept : KeptEvent) (threshold : Instant) : Bool :=
  !decide (kept.event.createdAt < threshold)

/-! ### The table in order of creation -/

/-- A table of events in the order in which they were first created. -/
structure EventTable where
  rows : Table String KeptEvent
  nextSerial : Nat
deriving DecidableEq, Repr

namespace EventTable

/-- The table without events. -/
def empty : EventTable := ⟨.empty, 0⟩

/-- Keeps an event unless one from the same record is kept. -/
def create (table : EventTable) (now : Instant) (event : NewEvent) : Creation × EventTable :=
  match table.rows.get? event.sourceId with
  | some held => (.duplicate held, table)
  | none =>
    let kept : KeptEvent := ⟨table.nextSerial, event, now⟩
    (.created kept, ⟨table.rows.set event.sourceId kept, table.nextSerial + 1⟩)

/-- The events of a span of time. -/
def find (table : EventTable) (start stop : Instant) : List KeptEvent :=
  within table.rows.values start stop

/-- Removes the events created before a time and answers how many there were. -/
def removeBefore (table : EventTable) (threshold : Instant) : Nat × EventTable :=
  let left := table.rows.keep fun kept => kept.isKeptAfter threshold
  (table.rows.size - left.size, { table with rows := left })

/-- The number of events. -/
def count (table : EventTable) : Nat :=
  table.rows.size

/-- The event from a record. -/
def get? (table : EventTable) (sourceId : String) : Option KeptEvent :=
  table.rows.get? sourceId

end EventTable

/-! ### The table in order of source ids -/

/-- The bytes of a text, which order the keys of the second table. -/
def keyBytes (text : String) : List UInt8 :=
  text.toUTF8.toList

/-- Whether a list of bytes comes before another. -/
def bytesBefore : List UInt8 → List UInt8 → Bool
  | [], [] => false
  | [], _ :: _ => true
  | _ :: _, [] => false
  | first :: firsts, second :: seconds =>
    if first = second then bytesBefore firsts seconds else first < second

/-- A table of events in the order of the bytes of their source ids. -/
structure EventTree where
  rows : List (String × KeptEvent)
  nextSerial : Nat
deriving DecidableEq, Repr

namespace EventTree

/-- The table without events. -/
def empty : EventTree := ⟨[], 0⟩

/-- The rows with a new one at its place in the order of keys. -/
def insertRow (key : String) (value : KeptEvent) :
    List (String × KeptEvent) → List (String × KeptEvent)
  | [] => [(key, value)]
  | (other, held) :: rest =>
    if bytesBefore (keyBytes key) (keyBytes other) then (key, value) :: (other, held) :: rest
    else (other, held) :: insertRow key value rest

/-- The event from a record. -/
def get? (tree : EventTree) (sourceId : String) : Option KeptEvent :=
  Table.lookup? sourceId tree.rows

/-- Keeps an event unless one from the same record is kept. -/
def create (tree : EventTree) (now : Instant) (event : NewEvent) : Creation × EventTree :=
  match tree.get? event.sourceId with
  | some held => (.duplicate held, tree)
  | none =>
    let kept : KeptEvent := ⟨tree.nextSerial, event, now⟩
    (.created kept, ⟨insertRow event.sourceId kept tree.rows, tree.nextSerial + 1⟩)

/-- The events of a span of time. -/
def find (tree : EventTree) (start stop : Instant) : List KeptEvent :=
  within (tree.rows.map Prod.snd) start stop

/-- Removes the events created before a time and answers how many there were. -/
def removeBefore (tree : EventTree) (threshold : Instant) : Nat × EventTree :=
  let expired := tree.rows.filter fun row => !row.2.isKeptAfter threshold
  let gone := expired.map Prod.fst
  (expired.length, { tree with rows := tree.rows.filter fun row => !gone.contains row.1 })

/-- The number of events. -/
def count (tree : EventTree) : Nat :=
  tree.rows.length

end EventTree

end AccessFeed.Archive
