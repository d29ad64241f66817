/-
This file defines the stream store held in memory, with its consumer groups.

A stream keeps its entries, the id it gave out last, and its groups. A group
remembers how far it has delivered, and every delivered entry stays pending with
its consumer until it is acknowledged. Deleting an entry leaves it pending, and
its consumer then meets it as a tombstone. While a failure is injected every
operation answers with it and nothing changes.
-/

import AccessFeed.Streams.IdMap
import AccessFeed.Streams.Record
import AccessFeed.Table

namespace AccessFeed.Streams

/-- To whom a pending entry was delivered, and how often. -/
structure Delivery where
  consumer : String
  count : Nat
deriving DecidableEq, Repr, Inhabited

/-- A consumer group of a stream. -/
structure Group where
  lastDelivered : StreamId
  pending : IdMap Delivery
deriving DecidableEq, Repr, Inhabited

/-- The content of a stream. -/
structure Content where
  entries : IdMap Fields
  lastId : StreamId
  groups : Table String Group
deriving DecidableEq, Repr, Inhabited

namespace Content

/-- A stream without entries and groups. -/
def empty : Content := ⟨.empty, .least, .empty⟩

/-- The id an append at some millisecond gives out: the first of that millisecond, or the
successor of the last id when that is not in the past. -/
def nextId (content : Content) (now : UInt64) : StreamId :=
  if content.lastId.millis < now then ⟨now, 0⟩ else content.lastId.successor

/-- The stream with an entry added. -/
def add (content : Content) (id : StreamId) (fields : Fields) : Content :=
  { content with entries := content.entries.insert id fields, lastId := id }

end Content

/-- A stream store. -/
structure Store where
  streams : Table String Content
  failure : Option StoreError
  clusterState : Option String
deriving DecidableEq, Repr, Inhabited

/-- What an operation answers, and the store it leaves. -/
abbrev Answer (Value : Type) : Type := Except StoreError Value × Store

namespace Store

/-- The store without streams. -/
def empty : Store := ⟨.empty, none, none⟩

/-- The content of a stream. -/
def content? (store : Store) (stream : String) : Option Content :=
  store.streams.get? stream

/-- The group of a stream. -/
def group? (store : Store) (stream group : String) : Option Group := do
  let content ← store.content? stream
  content.groups.get? group

/-- The store with the content of a stream set. -/
def setContent (store : Store) (stream : String) (content : Content) : Store :=
  { store with streams := store.streams.set stream content }

/-- The store with a group of a stream set; a stream that is not there is left so. -/
def setGroup (store : Store) (stream group : String) (value : Group) : Store :=
  match store.content? stream with
  | none => store
  | some content =>
    store.setContent stream { content with groups := content.groups.set group value }

/-- Runs an operation unless a failure is injected. -/
def guarded {Value : Type} (store : Store) (operation : Answer Value) : Answer Value :=
  match store.failure with
  | some error => (.error error, store)
  | none => operation

/-- Makes every operation answer with an error from now on. -/
def inject (store : Store) (error : StoreError) : Store :=
  { store with failure := some error }

/-- Makes operations work again. -/
def clear (store : Store) : Store :=
  { store with failure := none }

/-- The state reported for the cluster from now on. -/
def setClusterState (store : Store) (state : String) : Store :=
  { store with clusterState := some state }

/-! ### Streams -/

/-- Appends an entry at a millisecond and answers its id. -/
def append (store : Store) (now : UInt64) (stream : String) (fields : List (String × String)) :
    Answer StreamId :=
  store.guarded <|
    let content := (store.content? stream).getD .empty
    let id := content.nextId now
    (.ok id, store.setContent stream (content.add id (Fields.ofList fields)))

/-- The error for an id that is not behind the last one of its stream. -/
def notBehind (lastId : StreamId) : StoreError :=
  .commandExecution
    ("ERR The ID specified in XADD is equal or smaller than the target stream top item (" ++
      lastId.display ++ ")")

/-- Appends an entry with an id of its own, which has to be behind the last one. The stream is
created even when the id is refused. -/
def appendWithId (store : Store) (stream : String) (id : StreamId)
    (fields : List (String × String)) : Answer StreamId :=
  store.guarded <|
    let content := (store.content? stream).getD .empty
    if id ≤ content.lastId then
      (.error (notBehind content.lastId), store.setContent stream content)
    else (.ok id, store.setContent stream (content.add id (Fields.ofList fields)))

/-- Whether a stream is there. -/
def hasStream (store : Store) (stream : String) : Answer Bool :=
  store.guarded (.ok (store.streams.contains stream), store)

/-- The entries between two ids, both included, up to a number of them. -/
def range (store : Store) (stream : String) (start stop : StreamId) (count : Nat) :
    Answer (List Record) :=
  store.guarded <|
    match store.content? stream with
    | none => (.ok [], store)
    | some content =>
      (.ok (((content.entries.between start stop).take count).map fun entry =>
        ⟨stream, entry.1, entry.2⟩), store)

/-- Deletes entries and answers how many were there. -/
def delete (store : Store) (stream : String) (ids : List StreamId) : Answer Nat :=
  store.guarded <|
    match store.content? stream with
    | none => (.ok 0, store)
    | some content =>
      let (count, left) := content.entries.eraseAll ids
      (.ok count, store.setContent stream { content with entries := left })

/-- The number of entries of a stream, whether or not a failure is injected. -/
def size (store : Store) (stream : String) : Nat :=
  match store.content? stream with
  | none => 0
  | some content => content.entries.size

/-- The state of the cluster. -/
def cluster (store : Store) : Answer String :=
  store.guarded (.ok (store.clusterState.getD "ok"), store)

/-! ### Groups -/

/-- The error for a group or a stream of a group that is not there. -/
def noGroup (stream group : String) : StoreError :=
  .commandExecution
    ("NOGROUP No such key '" ++ stream ++ "' or consumer group '" ++ group ++ "'")

/-- The names of the groups of a stream, in ascending order. -/
def groupNames (store : Store) (stream : String) : Answer (List String) :=
  store.guarded <|
    match store.content? stream with
    | none => (.error (.commandExecution "ERR no such key"), store)
    | some content =>
      (.ok (content.groups.keys.mergeSort fun first second => decide (first ≤ second)), store)

/-- Creates a group that will be delivered the entries appended from now on. -/
def createGroup (store : Store) (stream group : String) : Answer Unit :=
  store.guarded <|
    match store.content? stream with
    | none =>
      (.error (.commandExecution "ERR The XGROUP subcommand requires the key to exist"), store)
    | some content =>
      if content.groups.contains group then
        (.error (.groupExists
          ("BUSYGROUP Consumer Group name '" ++ group ++ "' already exists")), store)
      else (.ok (), store.setGroup stream group ⟨content.lastId, .empty⟩)

/-- Delivers entries to a consumer of a group: each becomes pending, delivered once, and the last
one is how far the group has delivered. -/
def deliver (consumer : String) (group : Group) : List (StreamId × Fields) → Group
  | [] => group
  | (id, _) :: rest =>
    deliver consumer ⟨id, group.pending.insert id ⟨consumer, 1⟩⟩ rest

/-- The pending entries of a consumer with one more delivery counted. -/
def redeliver (group : Group) : List (StreamId × Delivery) → Group
  | [] => group
  | (id, delivery) :: rest =>
    redeliver
      { group with
        pending := group.pending.insert id { delivery with count := delivery.count + 1 } } rest

/-- Reads for a consumer of a group: new entries behind what the group has delivered, or the
consumer's own pending entries behind an id. A pending entry that was deleted has no fields. -/
def readGroup (store : Store) (stream group consumer : String) (offset : ReadOffset)
    (count : Nat) : Answer (List Record) :=
  store.guarded <|
    match store.content? stream with
    | none => (.error (noGroup stream group), store)
    | some content =>
      match content.groups.get? group with
      | none => (.error (noGroup stream group), store)
      | some held =>
        match offset with
        | .lastConsumed =>
          let fresh := (content.entries.startingAt held.lastDelivered.successor).take count
          (.ok (fresh.map fun entry => ⟨stream, entry.1, entry.2⟩),
            store.setGroup stream group (deliver consumer held fresh))
        | .pendingAfter id =>
          let own := ((held.pending.startingAt id.successor).filter fun entry =>
            entry.2.consumer == consumer).take count
          (.ok (own.map fun entry =>
              ⟨stream, entry.1, (content.entries.get? entry.1).getD .empty⟩),
            store.setGroup stream group (redeliver held own))

/-- Acknowledges entries of a group and answers how many were pending. -/
def acknowledge (store : Store) (stream group : String) (ids : List StreamId) : Answer Nat :=
  store.guarded <|
    match store.group? stream group with
    | none => (.ok 0, store)
    | some held =>
      let (count, left) := held.pending.eraseAll ids
      (.ok count, store.setGroup stream group { held with pending := left })

/-- The first pending entries of a group, up to a number of them. -/
def pending (store : Store) (stream group : String) (count : Nat) :
    Answer (List PendingEntry) :=
  store.guarded <|
    match store.group? stream group with
    | none => (.error (noGroup stream group), store)
    | some held =>
      (.ok ((held.pending.entries.take count).map fun entry =>
        ⟨entry.1, entry.2.consumer, entry.2.count⟩), store)

/-- The ids of all pending entries of a group, whether or not a failure is injected. -/
def pendingIds (store : Store) (stream group : String) : List StreamId :=
  match store.group? stream group with
  | none => []
  | some held => held.pending.ids

end Store

end AccessFeed.Streams
