/-
This file puts a plan of outages in front of the stream store.

This is the store as the parts of the pipeline see it: every call may fail
before it reaches the store, as a call to a server may. A call that fails so
leaves the store as it was.
-/

import AccessFeed.Outage
import AccessFeed.Streams.Store

namespace AccessFeed.Streams

/-- The calls of a stream store. -/
inductive StoreMethod
  | append
  | exists
  | groupNames
  | createGroup
  | readGroup
  | acknowledge
  | pending
  | range
  | delete
  | clusterState
deriving DecidableEq, Repr

namespace StoreMethod

/-- All calls. -/
def all : List StoreMethod :=
  [.append, .exists, .groupNames, .createGroup, .readGroup, .acknowledge, .pending, .range,
    .delete, .clusterState]

/-- The name of a call. -/
def name : StoreMethod → String
  | .append => "append"
  | .exists => "exists"
  | .groupNames => "group_names"
  | .createGroup => "create_group"
  | .readGroup => "read_group"
  | .acknowledge => "ack"
  | .pending => "pending"
  | .range => "range"
  | .delete => "delete"
  | .clusterState => "cluster_state"

/-- The call with a given name. -/
def ofName? (name : String) : Option StoreMethod :=
  all.find? fun method => method.name == name

end StoreMethod

/-- A stream store behind a plan of outages. -/
structure Service where
  store : Store
  outages : List (Outage StoreMethod StoreError)
deriving Repr

/-- What a call answers, and the service it leaves. -/
abbrev Reply (Value : Type) : Type := Except StoreError Value × Service

namespace Service

/-- A service without streams and outages. -/
def empty : Service := ⟨.empty, []⟩

/-- Makes a call, which fails if it meets an outage. -/
def call {Value : Type} (service : Service) (method : StoreMethod) (stream : Option String)
    (operation : Store → Answer Value) : Reply Value :=
  match Outage.meet method stream service.outages with
  | (some error, outages) => (.error error, { service with outages })
  | (none, outages) =>
    let (answer, store) := operation service.store
    (answer, ⟨store, outages⟩)

/-- Appends an entry at a millisecond. -/
def append (service : Service) (now : UInt64) (stream : String)
    (fields : List (String × String)) : Reply StreamId :=
  service.call .append (some stream) fun store => store.append now stream fields

/-- Whether a stream is there. -/
def hasStream (service : Service) (stream : String) : Reply Bool :=
  service.call .exists (some stream) fun store => store.hasStream stream

/-- The names of the groups of a stream. -/
def groupNames (service : Service) (stream : String) : Reply (List String) :=
  service.call .groupNames (some stream) fun store => store.groupNames stream

/-- Creates a group. -/
def createGroup (service : Service) (stream group : String) : Reply Unit :=
  service.call .createGroup (some stream) fun store => store.createGroup stream group

/-- Reads for a consumer of a group. -/
def readGroup (service : Service) (stream group consumer : String) (offset : ReadOffset)
    (count : Nat) : Reply (List Record) :=
  service.call .readGroup (some stream) fun store =>
    store.readGroup stream group consumer offset count

/-- Acknowledges entries of a group. -/
def acknowledge (service : Service) (stream group : String) (ids : List StreamId) : Reply Nat :=
  service.call .acknowledge (some stream) fun store => store.acknowledge stream group ids

/-- The first pending entries of a group. -/
def pending (service : Service) (stream group : String) (count : Nat) :
    Reply (List PendingEntry) :=
  service.call .pending (some stream) fun store => store.pending stream group count

/-- The entries between two ids. -/
def range (service : Service) (stream : String) (start stop : StreamId) (count : Nat) :
    Reply (List Record) :=
  service.call .range (some stream) fun store => store.range stream start stop count

/-- Deletes entries. -/
def delete (service : Service) (stream : String) (ids : List StreamId) : Reply Nat :=
  service.call .delete (some stream) fun store => store.delete stream ids

/-- The state of the cluster. -/
def clusterState (service : Service) : Reply String :=
  service.call .clusterState none fun store => store.cluster

end Service

end AccessFeed.Streams
