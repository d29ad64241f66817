/-
This file says what each call of the stream store asks of a server and how the
answer is read.

A call that concerns no entries is settled without asking. A reading of records
stops at the first entry that cannot be read, and the records in front of it are
lost with it: the call fails as a whole.
-/

import AccessFeed.Remote.Connection
import AccessFeed.Streams.Id
import AccessFeed.Text.Blank

namespace AccessFeed.Remote

open Streams (StoreError StreamId Fields ReadOffset)

/-- A call: settled at once, or a request and how the value of its reply is made. -/
inductive Call (Value : Type)
  | settled (value : Value)
  | asked (Raw : Type) (request : Request) (read : Reading Raw)
    (finish : Raw → Except StoreError Value)

namespace Call

/-- The request of a call, if it makes one. -/
def request? {Value : Type} : Call Value → Option Request
  | .settled _ => none
  | .asked _ request _ _ => some request

/-- What a call answers, given the outcome of its request. -/
def answer {Value : Type} (timeout : Nat) (outcome : Outcome) :
    Call Value → Except StoreError Value
  | .settled value => .ok value
  | .asked _ request read finish => (request.result timeout read outcome).bind finish

/-- A call whose value is what its reply is read as. -/
def plain {Value : Type} (name : String) (words : List String) (read : Reading Value) :
    Call Value :=
  .asked Value ⟨name, words⟩ read .ok

end Call

/-- A field of an entry as a text. -/
def fieldText (id : StreamId) (field : String × Reply) : Except StoreError (String × String) :=
  match Reply.text field.2 with
  | .ok value => .ok (field.1, value)
  | .error fault =>
    .error (.protocol ("Field '" ++ field.1 ++ "' of " ++ id.display ++ " is not a string: " ++
      fault.message))

/-- An entry of a stream as a record. -/
def RawEntry.toRecord (stream : String) (entry : RawEntry) : Except StoreError Streams.Record := do
  let id ← StreamId.read entry.id
  let fields ← entry.fields.rows.mapM (fieldText id)
  pure ⟨stream, id, Fields.ofList fields⟩

/-- The entries of a reply as records of a stream. -/
def records (stream : String) (entries : List RawEntry) :
    Except StoreError (List Streams.Record) :=
  entries.mapM (RawEntry.toRecord stream)

/-- An entry that a server lists as pending: its id, its consumer, for how many milliseconds it
has been out, and how often it was delivered. -/
structure Outstanding where
  id : StreamId
  consumer : String
  idleMillis : Nat
  deliveries : Nat
deriving DecidableEq, Repr

/-- A listed entry with its id read. -/
def ListedEntry.outstanding (entry : ListedEntry) : Except StoreError Outstanding := do
  pure ⟨← StreamId.read entry.id, entry.consumer, entry.idleMillis, entry.deliveries⟩

/-- The value of a line of the form `key:value`, with the blanks around the line and the value
left out. -/
def lineValue? (key : String) (line : List Char) : Option String :=
  let line := Text.trimmed line
  match line.dropWhile (· != ':') with
  | ':' :: value =>
    if line.takeWhile (· != ':') == key.toList then some (String.ofList (Text.trimmed value))
    else none
  | _ => none

/-- The state of the cluster in a description of it. -/
def stateOf? (description : String) : Option String :=
  (Url.cutAt '\n' description.toList).findSome? (lineValue? "cluster_state")

namespace Call

/-- Appends an entry, whose id the server chooses. -/
def append (stream : String) (fields : List (String × String)) : Call StreamId :=
  .asked String ⟨"XADD", ["XADD", stream, "*"] ++ fields.flatMap fun field => [field.1, field.2]⟩
    Reply.text StreamId.read

/-- Asks whether a stream is there. -/
def hasStream (stream : String) : Call Bool :=
  plain "EXISTS" ["EXISTS", stream] Reply.flag

/-- Asks for the names of the groups of a stream. -/
def groupNames (stream : String) : Call (List String) :=
  plain "XINFO GROUPS" ["XINFO", "GROUPS", stream] Reply.groupNames

/-- Creates a group that begins behind the last entry. -/
def createGroup (stream group : String) : Call Unit :=
  plain "XGROUP CREATE" ["XGROUP", "CREATE", stream, group, "$"] Reply.ignored

/-- Reads for a consumer of a group. -/
def readGroup (stream group consumer : String) (offset : ReadOffset) (count : Nat) :
    Call (List Streams.Record) :=
  .asked (Option (List RawEntry))
    ⟨"XREADGROUP", ["XREADGROUP", "GROUP", group, consumer, "COUNT", Text.decimal count,
      "STREAMS", stream, offset.argument]⟩
    (Reply.optional Reply.entriesByStream) fun entries => records stream (entries.getD [])

/-- Acknowledges entries. -/
def acknowledge (stream group : String) (ids : List StreamId) : Call Nat :=
  if ids.isEmpty then .settled 0
  else plain "XACK" (["XACK", stream, group] ++ ids.map StreamId.display) Reply.count

/-- Asks for the first pending entries of a group. -/
def pending (stream group : String) (count : Nat) : Call (List Outstanding) :=
  .asked (List ListedEntry)
    ⟨"XPENDING", ["XPENDING", stream, group, "-", "+", Text.decimal count]⟩
    Reply.listedEntries fun entries => entries.mapM ListedEntry.outstanding

/-- Reads the entries between two ids. -/
def range (stream : String) (start stop : StreamId) (count : Nat) : Call (List Streams.Record) :=
  .asked (List RawEntry)
    ⟨"XRANGE", ["XRANGE", stream, start.display,
      if stop = StreamId.greatest then "+" else stop.display, "COUNT", Text.decimal count]⟩
    Reply.entries (records stream)

/-- Deletes entries. -/
def delete (stream : String) (ids : List StreamId) : Call Nat :=
  if ids.isEmpty then .settled 0
  else plain "XDEL" (["XDEL", stream] ++ ids.map StreamId.display) Reply.count

/-- Asks for the state of the servers. A single server that answers as it should is well. -/
def clusterState (link : Link) : Call String :=
  if link.isCluster then
    .asked String ⟨"CLUSTER INFO", ["CLUSTER", "INFO"]⟩ Reply.text fun description =>
      .ok ((stateOf? description).getD "unknown")
  else
    .asked String .ping Reply.text fun pong => .ok (if pong == "PONG" then "ok" else "fail")

end Call

end AccessFeed.Remote
