/-
This file defines the category rows that are kept, and the tables they are kept
in.

A row without an id is new and is given the next one; saving a row under an id
that is not there fails. Deleting a row only marks it. The two tables differ in
how they number rows: one counts from one, the other draws from a counter that
survives a restart of the program by jumping ahead.
-/

import AccessFeed.Calendar.Instant
import AccessFeed.Event.Category
import AccessFeed.Failure
import AccessFeed.Table
import AccessFeed.Text.Numeral

namespace AccessFeed.Archive

open Calendar (Instant)
open Event (Category)

/-- A category row. -/
structure CategoryRow where
  id : Nat
  category : Category
  name : String
  description : String
  isDeleted : Bool
  createdAt : Instant
  updatedAt : Instant
deriving DecidableEq, Repr

namespace CategoryRow

/-- A row that is not saved yet. -/
def new (now : Instant) (category : Category) (name description : String) : CategoryRow :=
  ⟨0, category, name, description, false, now, now⟩

/-- The row a category is seeded with. -/
def seed (now : Instant) (category : Category) : CategoryRow :=
  new now category category.displayName category.description

/-- The row with some of its values changed. -/
def change (row : CategoryRow) (now : Instant) (name description : Option String)
    (isDeleted : Option Bool) : CategoryRow :=
  { row with
    name := name.getD row.name
    description := description.getD row.description
    isDeleted := isDeleted.getD row.isDeleted
    updatedAt := now }

end CategoryRow

/-- The failure of a look-up by id. -/
def noCategoryId (id : Nat) : Failure :=
  .notFound ("AccessCategory not found with id: " ++ Text.decimal id)

/-- The failure of a look-up by code. -/
def noCategoryCode (category : Category) : Failure :=
  .notFound ("AccessCategory not found with code: " ++ category.code)

/-- The failure of creating a category a second time. -/
def categoryTaken (category : Category) : Failure :=
  .alreadyExists ("AccessCategory already exists with code: " ++ category.code)

/-- How the rows of a table are numbered: by counting on from the next number, or from a counter
of which a multiple of the interval is kept over restarts. -/
inductive Numbering
  | counting (next : Nat)
  | persistent (next persisted : Nat)
deriving DecidableEq, Repr

namespace Numbering

/-- After so many numbers the persistent counter is saved. -/
def interval : Nat := 1000000

/-- Draws a number. -/
def draw : Numbering → Nat × Numbering
  | .counting next => (next, .counting (next + 1))
  | .persistent next persisted =>
    (next + 1, .persistent (next + 1) (max persisted (next / interval * interval)))

/-- The numbering after a restart of the program. The persistent counter goes on two intervals
behind what was saved, so that no number is drawn twice. -/
def reopened : Numbering → Numbering
  | .counting _ => .counting 1
  | .persistent _ persisted => .persistent (persisted + 2 * interval) persisted

end Numbering

/-- A table of category rows, in the order of their ids. -/
structure CategoryTable where
  rows : Table Nat CategoryRow
  numbering : Numbering
deriving DecidableEq, Repr

namespace CategoryTable

/-- The table without rows that counts its ids from one. -/
def empty : CategoryTable := ⟨.empty, .counting 1⟩

/-- The table without rows whose ids are drawn from the persistent counter. -/
def emptyPersistent : CategoryTable := ⟨.empty, .persistent 0 0⟩

/-- The rows that are not deleted, in ascending order of ids. -/
def active (table : CategoryTable) : List CategoryRow :=
  (table.rows.values.filter fun row => !row.isDeleted).mergeSort fun first second =>
    first.id ≤ second.id

/-- The first row of a category that is not deleted. -/
def findCode? (table : CategoryTable) (category : Category) : Option CategoryRow :=
  table.rows.values.find? fun row => row.category == category && !row.isDeleted

/-- The row with an id, unless it is deleted. -/
def findId? (table : CategoryTable) (id : Nat) : Option CategoryRow :=
  (table.rows.get? id).filter fun row => !row.isDeleted

/-- Whether a category has a row, deleted or not. -/
def hasCode (table : CategoryTable) (category : Category) : Bool :=
  table.rows.values.any fun row => row.category == category

/-- Saves a row: a new one under the next id, another one in place of what its id holds. -/
def save (table : CategoryTable) (row : CategoryRow) :
    Except Failure CategoryRow × CategoryTable :=
  if row.id = 0 then
    let (id, numbering) := table.numbering.draw
    let saved := { row with id }
    (.ok saved, ⟨table.rows.set id saved, numbering⟩)
  else if table.rows.contains row.id then
    (.ok row, { table with rows := table.rows.set row.id row })
  else (.error (noCategoryId row.id), table)

end CategoryTable

end AccessFeed.Archive
