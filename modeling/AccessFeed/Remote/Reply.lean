/-
This file defines the replies of the server of the stream store and the values
they are read as.

A reply is nothing, a number, bytes, a status, a list, or an error line, which
may also stand inside a list and then takes the place of the whole reply. The
readings are lenient: a number may come as digits, a truth value as a number or
as nothing, a list as nothing or as its only text.
-/

import AccessFeed.Remote.Fault
import AccessFeed.Streams.Record
import AccessFeed.Table
import AccessFeed.Text.Numeral

namespace AccessFeed.Remote

/-- A reply of the server. -/
inductive Reply
  | nothing
  | integer (value : Int)
  | bytes (content : List UInt8)
  | status (text : String)
  | list (items : List Reply)
  | error (line : String)
deriving Repr, Inhabited

/-- The text that bytes encode, if they encode one. -/
def text? (content : List UInt8) : Option String :=
  String.fromUTF8? ⟨content.toArray⟩

/-- What a reply is read as. -/
abbrev Reading (Value : Type) : Type := Reply → Except Fault Value

namespace Reply

mutual

/-- The first error line in a reply. -/
def firstError? : Reply → Option String
  | .error line => some line
  | .list items => firstErrorOf? items
  | _ => none

/-- The first error line in the replies of a list. -/
def firstErrorOf? : List Reply → Option String
  | [] => none
  | item :: rest =>
    match firstError? item with
    | some line => some line
    | none => firstErrorOf? rest

end

/-- The fault of a reply that is no value of the kind asked for. -/
def unsuitable (detail : String) : Fault :=
  .described .typeError "Response was of incompatible type" (some detail)

/-- The text of bytes, which have to encode one. -/
def decoded (content : List UInt8) : Except Fault String :=
  match text? content with
  | some text => .ok text
  | none => .error (.plain .typeError "Invalid UTF-8")

/-- A reply as itself. -/
def whole : Reading Reply := .ok

/-- A reply that may be anything. -/
def ignored : Reading Unit := fun _ => .ok ()

/-- A reply as a text. -/
def text : Reading String
  | .bytes content => decoded content
  | .status text => .ok text
  | _ => .error (unsuitable "Response type not string compatible.")

/-- A reply as a truth value. -/
def flag : Reading Bool
  | .nothing => .ok false
  | .integer value => .ok (value != 0)
  | .status "OK" => .ok true
  | .status "1" => .ok true
  | .status "0" => .ok false
  | .bytes [49] => .ok true
  | .bytes [48] => .ok false
  | _ => .error (unsuitable "Response type not bool compatible.")

/-- The number that a text writes. -/
def numeral (source : String) : Except Fault Nat :=
  match Text.readUInt64 source.toList with
  | .ok value => .ok value
  | .error _ => .error (unsuitable "Could not convert from string.")

/-- A number of the server as an unsigned number of 64 bits. -/
def unsigned (value : Int) : Nat :=
  (value % 2 ^ 64).toNat

/-- A reply as a count. -/
def count : Reading Nat
  | .integer value => .ok (unsigned value)
  | .status "OK" => .error (unsuitable "Response type not convertible to numeric.")
  | .status source => numeral source
  | .bytes content => (decoded content).bind numeral
  | _ => .error (unsuitable "Response type not convertible to numeric.")

/-- A reply that may be nothing. -/
def optional {Value : Type} (read : Reading Value) : Reading (Option Value)
  | .nothing => .ok none
  | reply => (read reply).map some

/-- A reply as a list; nothing is the empty list, and bytes are a list of one. -/
def listOf {Value : Type} (read : Reading Value) : Reading (List Value)
  | .nothing => .ok []
  | .list items => items.mapM read
  | .bytes content =>
    match read (.bytes content) with
    | .ok value => .ok [value]
    | .error _ => .error (unsuitable "Conversion to a vector failed.")
  | _ => .error (unsuitable "Response type not vector compatible.")

/-- The names and values of a list in which they take turns, a later value in place of an earlier
one of the same name. -/
def rowsOf {Value : Type} (read : Reading Value) (table : Table String Value) :
    List Reply → Except Fault (Table String Value)
  | [] => .ok table
  | [_] => .error (unsuitable "Response type not hashmap compatible")
  | name :: value :: rest => do
    rowsOf read (table.set (← text name) (← read value)) rest

/-- A reply as a table of named values; nothing is the empty table. -/
def tableOf {Value : Type} (read : Reading Value) : Reading (Table String Value)
  | .nothing => .ok .empty
  | .list items =>
    if items.length % 2 = 0 then rowsOf read .empty items
    else .error (unsuitable "Response type not hashmap compatible")
  | _ => .error (unsuitable "Response type not hashmap compatible")

end Reply

/-- An entry of a stream as the server sends it: the text of its id, and its fields, whose values
are not yet read as texts. -/
structure RawEntry where
  id : String
  fields : Table String Reply
deriving Repr

namespace Reply

/-- A reply as entries, each with its id in front of its fields. -/
def entries (reply : Reply) : Except Fault (List RawEntry) :=
  (listOf (tableOf (tableOf whole)) reply).map fun rows =>
    rows.flatMap fun row => row.rows.map fun entry => ⟨entry.1, entry.2⟩

/-- A reply as the entries of streams, each stream's entries behind its name. -/
def entriesByStream (reply : Reply) : Except Fault (List RawEntry) :=
  (listOf (tableOf entries) reply).map fun rows =>
    rows.flatMap fun row => row.rows.flatMap Prod.snd

/-- A member of a description, if it is there. -/
def member? {Value : Type} (read : Reading Value) (name : String)
    (description : Table String Reply) : Except Fault (Option Value) :=
  match description.get? name with
  | some value => (read value).map some
  | none => .ok none

/-- The name in the description of a group, whose other members have to be readable too. -/
def describedName (description : Table String Reply) : Except Fault String := do
  let name ← member? text "name" description
  let _ ← member? count "consumers" description
  let _ ← member? count "pending" description
  let _ ← member? text "last-delivered-id" description
  pure (name.getD "")

/-- A reply as the names of the groups it describes. -/
def groupNames (reply : Reply) : Except Fault (List String) := do
  (← listOf (tableOf whole) reply).mapM describedName

end Reply

/-- A pending entry as the server lists it, with the milliseconds since it was delivered. -/
structure ListedEntry where
  id : String
  consumer : String
  idleMillis : Nat
  deliveries : Nat
deriving DecidableEq, Repr

namespace Reply

/-- One pending entry of a list. -/
def listedEntry : Reading ListedEntry
  | .list [.bytes id, .bytes consumer, .integer idle, .integer deliveries] => do
    pure ⟨← decoded id, ← decoded consumer, unsigned idle, unsigned deliveries⟩
  | .list _ => .error (.plain .typeError "Cannot parse redis data (3)")
  | _ => .error (.plain .typeError "Cannot parse redis data (2)")

/-- A reply as a list of pending entries. -/
def listedEntries : Reading (List ListedEntry)
  | .list items => items.mapM listedEntry
  | _ => .error (.plain .typeError "Cannot parse redis data (1)")

end Reply

end AccessFeed.Remote
