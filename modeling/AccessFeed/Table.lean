/-
This file defines tables: finite maps listed in the order in which their keys
were first set.
-/

namespace AccessFeed

/-- A finite map, its rows in the order in which their keys were first set. -/
structure Table (Key Value : Type) where
  rows : List (Key × Value)
deriving DecidableEq, Repr, Inhabited

namespace Table

variable {Key Value : Type} [DecidableEq Key]

/-- The table without rows. -/
def empty : Table Key Value := ⟨[]⟩

/-- The value of the first row with a key. -/
def lookup? (key : Key) : List (Key × Value) → Option Value
  | [] => none
  | (other, value) :: rest => if other = key then some value else lookup? key rest

/-- The value at a key. -/
def get? (table : Table Key Value) (key : Key) : Option Value :=
  lookup? key table.rows

/-- Whether a key has a value. -/
def contains (table : Table Key Value) (key : Key) : Bool :=
  (table.get? key).isSome

/-- The rows with the value at a key replaced, or a new row behind them. -/
def setRow (key : Key) (value : Value) : List (Key × Value) → List (Key × Value)
  | [] => [(key, value)]
  | (other, held) :: rest =>
    if other = key then (key, value) :: rest else (other, held) :: setRow key value rest

/-- The table with the value at a key set. -/
def set (table : Table Key Value) (key : Key) (value : Value) : Table Key Value :=
  ⟨setRow key value table.rows⟩

/-- The table without the rows of a key. -/
def erase (table : Table Key Value) (key : Key) : Table Key Value :=
  ⟨table.rows.filter fun row => row.1 ≠ key⟩

/-- The table with only the rows whose value passes a test. -/
def keep (table : Table Key Value) (test : Value → Bool) : Table Key Value :=
  ⟨table.rows.filter fun row => test row.2⟩

/-- The keys in the order of the rows. -/
def keys (table : Table Key Value) : List Key :=
  table.rows.map Prod.fst

/-- The values in the order of the rows. -/
def values (table : Table Key Value) : List Value :=
  table.rows.map Prod.snd

/-- The number of rows. -/
def size (table : Table Key Value) : Nat :=
  table.rows.length

@[simp] theorem get?_empty (key : Key) : (empty : Table Key Value).get? key = none := rfl

theorem lookup?_setRow (key other : Key) (value : Value) (rows : List (Key × Value)) :
    lookup? other (setRow key value rows) =
      if other = key then some value else lookup? other rows := by
  induction rows with
  | nil =>
    by_cases same : other = key
    · simp [setRow, lookup?, same]
    · simp [setRow, lookup?, same, Ne.symm same]
  | cons row rest ih =>
    obtain ⟨present, held⟩ := row
    simp only [setRow]
    split
    · rename_i found
      subst found
      by_cases same : other = present
      · simp [lookup?, same]
      · simp [lookup?, same, Ne.symm same]
    · rename_i different
      simp only [lookup?, ih]
      by_cases same : present = other
      · subst same
        simp [different]
      · simp [same]

/-- Setting a key changes the value at that key and at no other. -/
theorem get?_set (table : Table Key Value) (key other : Key) (value : Value) :
    (table.set key value).get? other = if other = key then some value else table.get? other :=
  lookup?_setRow key other value table.rows

@[simp] theorem get?_set_self (table : Table Key Value) (key : Key) (value : Value) :
    (table.set key value).get? key = some value := by
  simp [get?_set]

theorem get?_set_of_ne (table : Table Key Value) {key other : Key} (different : other ≠ key)
    (value : Value) : (table.set key value).get? other = table.get? other := by
  simp [get?_set, different]

end Table

end AccessFeed
