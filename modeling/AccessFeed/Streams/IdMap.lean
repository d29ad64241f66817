/-
This file defines maps from stream ids, listed in ascending order of ids.

They hold the entries of a stream and the pending entries of a group, both of
which are read by ranges of ids.
-/

import AccessFeed.Streams.Id

namespace AccessFeed.Streams

/-- A map from ids, its entries in ascending order of ids. -/
structure IdMap (Value : Type) where
  entries : List (StreamId × Value)
deriving DecidableEq, Repr, Inhabited

namespace IdMap

variable {Value : Type}

/-- The map without entries. -/
def empty : IdMap Value := ⟨[]⟩

/-- The value of the first entry with an id. -/
def lookup? (id : StreamId) : List (StreamId × Value) → Option Value
  | [] => none
  | (other, value) :: rest => if other = id then some value else lookup? id rest

/-- The value at an id. -/
def get? (map : IdMap Value) (id : StreamId) : Option Value :=
  lookup? id map.entries

/-- Whether an id has a value. -/
def contains (map : IdMap Value) (id : StreamId) : Bool :=
  (map.get? id).isSome

/-- The entries with a value put at its place in the order, instead of one at the same id. -/
def insertEntry (id : StreamId) (value : Value) :
    List (StreamId × Value) → List (StreamId × Value)
  | [] => [(id, value)]
  | (other, held) :: rest =>
    if other = id then (id, value) :: rest
    else if id < other then (id, value) :: (other, held) :: rest
    else (other, held) :: insertEntry id value rest

/-- The map with the value at an id set. -/
def insert (map : IdMap Value) (id : StreamId) (value : Value) : IdMap Value :=
  ⟨insertEntry id value map.entries⟩

/-- The map without an id. -/
def erase (map : IdMap Value) (id : StreamId) : IdMap Value :=
  ⟨map.entries.filter fun entry => entry.1 ≠ id⟩

/-- The ids in ascending order. -/
def ids (map : IdMap Value) : List StreamId :=
  map.entries.map Prod.fst

/-- The number of ids. -/
def size (map : IdMap Value) : Nat :=
  map.entries.length

/-- The entries from an id on. -/
def startingAt (map : IdMap Value) (start : StreamId) : List (StreamId × Value) :=
  map.entries.filter fun entry => start ≤ entry.1

/-- The entries between two ids, both included. -/
def between (map : IdMap Value) (start stop : StreamId) : List (StreamId × Value) :=
  map.entries.filter fun entry => start ≤ entry.1 && entry.1 ≤ stop

/-- Removes ids one after the other and counts those that were there. -/
def eraseAll (map : IdMap Value) : List StreamId → Nat × IdMap Value
  | [] => (0, map)
  | id :: rest =>
    let (count, left) := (map.erase id).eraseAll rest
    (if map.contains id then count + 1 else count, left)

theorem lookup?_insertEntry (id other : StreamId) (value : Value)
    (entries : List (StreamId × Value)) :
    lookup? other (insertEntry id value entries) =
      if other = id then some value else lookup? other entries := by
  induction entries with
  | nil =>
    by_cases same : other = id
    · simp [insertEntry, lookup?, same]
    · simp [insertEntry, lookup?, same, Ne.symm same]
  | cons entry rest ih =>
    obtain ⟨present, held⟩ := entry
    simp only [insertEntry]
    split
    · rename_i found
      subst found
      by_cases same : other = present
      · simp [lookup?, same]
      · simp [lookup?, same, Ne.symm same]
    · rename_i different
      split
      · by_cases same : other = id
        · subst same
          simp [lookup?]
        · simp [lookup?, same, Ne.symm same]
      · simp only [lookup?, ih]
        by_cases same : present = other
        · subst same
          simp [different]
        · simp [same]

/-- Inserting at an id changes the value there and nowhere else. -/
theorem get?_insert (map : IdMap Value) (id other : StreamId) (value : Value) :
    (map.insert id value).get? other = if other = id then some value else map.get? other :=
  lookup?_insertEntry id other value map.entries

theorem lookup?_filter_ne (id other : StreamId) (entries : List (StreamId × Value)) :
    lookup? other (entries.filter fun entry => decide (entry.1 ≠ id)) =
      if other = id then none else lookup? other entries := by
  induction entries with
  | nil => simp [lookup?]
  | cons entry rest ih =>
    obtain ⟨present, held⟩ := entry
    by_cases gone : present = id
    · subst gone
      simp only [ne_eq, not_true_eq_false, decide_false, Bool.false_eq_true, not_false_eq_true,
        List.filter_cons_of_neg, ih, lookup?]
      by_cases same : other = present
      · simp [same]
      · simp [same, Ne.symm same]
    · simp only [ne_eq, gone, not_false_eq_true, decide_true, List.filter_cons_of_pos, lookup?, ih]
      by_cases same : present = other
      · subst same
        simp [gone]
      · simp [same]

/-- Erasing an id removes its value and no other. -/
theorem get?_erase (map : IdMap Value) (id other : StreamId) :
    (map.erase id).get? other = if other = id then none else map.get? other :=
  lookup?_filter_ne id other map.entries

end IdMap

end AccessFeed.Streams
