/-
This file defines the fields of a stream entry and the records that reads
deliver.

Fields are a map from names to values, listed in ascending order of names. A
record without fields is a tombstone: a pending entry whose content was deleted
from the stream.
-/

import AccessFeed.Streams.Id

namespace AccessFeed.Streams

/-- The fields of an entry, in ascending order of names. -/
structure Fields where
  entries : List (String × String)
deriving DecidableEq, Repr, Inhabited

namespace Fields

/-- No fields. -/
def empty : Fields := ⟨[]⟩

/-- A field put into a list of fields, in place of one of the same name. -/
def insertEntry (name value : String) : List (String × String) → List (String × String)
  | [] => [(name, value)]
  | (other, held) :: rest =>
    if name = other then (name, value) :: rest
    else if name < other then (name, value) :: (other, held) :: rest
    else (other, held) :: insertEntry name value rest

/-- The fields with one of them set. -/
def insert (fields : Fields) (name value : String) : Fields :=
  ⟨insertEntry name value fields.entries⟩

/-- The fields given by a list, the later of two with one name winning. -/
def ofList (entries : List (String × String)) : Fields :=
  entries.foldl (fun fields entry => fields.insert entry.1 entry.2) empty

/-- The value of the first entry with a name. -/
def lookup? (name : String) : List (String × String) → Option String
  | [] => none
  | (other, value) :: rest => if name = other then some value else lookup? name rest

/-- The value of a field. -/
def get? (fields : Fields) (name : String) : Option String :=
  lookup? name fields.entries

/-- Whether there are no fields. -/
def isEmpty (fields : Fields) : Bool :=
  fields.entries.isEmpty

theorem lookup?_insertEntry_self (name value : String) (entries : List (String × String)) :
    lookup? name (insertEntry name value entries) = some value := by
  induction entries with
  | nil => simp [insertEntry, lookup?]
  | cons entry rest ih =>
    obtain ⟨other, held⟩ := entry
    simp only [insertEntry]
    split
    · simp [lookup?]
    · split
      · simp [lookup?]
      · rename_i different _
        simp [lookup?, different, ih]

theorem lookup?_insertEntry_of_ne {name other : String} (different : other ≠ name)
    (value : String) (entries : List (String × String)) :
    lookup? other (insertEntry name value entries) = lookup? other entries := by
  induction entries with
  | nil => simp [insertEntry, lookup?, different]
  | cons entry rest ih =>
    obtain ⟨present, held⟩ := entry
    simp only [insertEntry]
    split
    · rename_i same
      subst same
      simp [lookup?, different]
    · split
      · simp [lookup?, different]
      · simp [lookup?, ih]

/-- A field that was set has its value. -/
@[simp] theorem get?_insert_self (fields : Fields) (name value : String) :
    (fields.insert name value).get? name = some value :=
  lookup?_insertEntry_self name value fields.entries

/-- Setting a field leaves the others as they were. -/
theorem get?_insert_of_ne (fields : Fields) {name other : String} (different : other ≠ name)
    (value : String) : (fields.insert name value).get? other = fields.get? other :=
  lookup?_insertEntry_of_ne different value fields.entries

end Fields

/-- An entry as a read delivers it. -/
structure Record where
  stream : String
  id : StreamId
  fields : Fields
deriving DecidableEq, Repr, Inhabited

namespace Record

/-- Whether the content of an entry was deleted before it was delivered. -/
def isTombstone (record : Record) : Bool :=
  record.fields.isEmpty

/-- The value of a field of a record. -/
def field? (record : Record) (name : String) : Option String :=
  record.fields.get? name

end Record

/-- An entry that was delivered to a consumer and not yet acknowledged. -/
structure PendingEntry where
  id : StreamId
  consumer : String
  deliveries : Nat
deriving DecidableEq, Repr, Inhabited

end AccessFeed.Streams
