/-
This file defines settings as they come from files and from the environment.

A setting is a single value, a list or a table of settings, and remembers where
it came from. A place that was made on the way to another one and never filled is
blank. Settings of several sources are laid over one another: the members of a
table are put one by one into the table below it, and anything else replaces what
was there, so that a table without members changes nothing. The case of names
does not matter.
-/

import AccessFeed.Binary64.Basic
import AccessFeed.Text.Case

namespace AccessFeed.Settings

/-- A single value of a setting. -/
inductive Scalar
  | flag (value : Bool)
  | integer (value : Int)
  | float (value : Binary64)
  | text (value : String)
deriving DecidableEq, Repr

/-- A setting with the source it came from, if that has a name. -/
inductive Setting
  | blank
  | scalar (origin : Option String) (value : Scalar)
  | list (origin : Option String) (elements : List Setting)
  | table (origin : Option String) (members : List (String × Setting))
deriving Inhabited

namespace Setting

/-- The source a setting came from. -/
def origin : Setting → Option String
  | .blank => none
  | .scalar origin _ => origin
  | .list origin _ => origin
  | .table origin _ => origin

/-- A table without members. -/
def emptyTable : Setting := .table none []

/-- The members of a table; anything else has none. -/
def members : Setting → List (String × Setting)
  | .table _ members => members
  | _ => []

/-- Finds a member by its name. -/
def lookup? (name : String) : List (String × Setting) → Option Setting
  | [] => none
  | (other, value) :: rest => if name = other then some value else lookup? name rest

/-- Members with one of them set, in place of one of the same name. -/
def setMember (name : String) (value : Setting) :
    List (String × Setting) → List (String × Setting)
  | [] => [(name, value)]
  | (other, held) :: rest =>
    if name = other then (name, value) :: rest else (other, held) :: setMember name value rest

/-- A setting with a member set. What is no table becomes one. -/
def withMember (target : Setting) (name : String) (value : Setting) : Setting :=
  match target with
  | .table origin members => .table origin (setMember name value members)
  | _ => .table none [(name, value)]

mutual

/-- Puts a setting under a name into another one: a table by its members, into the table that is
there or a new one, and anything else as it is. -/
def put (target : Setting) (name : String) : Setting → Setting
  | .table _ members =>
    let key := Text.lowercase name
    target.withMember key (putAll ((lookup? key target.members).getD emptyTable) members)
  | other => target.withMember (Text.lowercase name) other

/-- Puts settings under their names into another one. -/
def putAll (target : Setting) : List (String × Setting) → Setting
  | [] => target
  | (name, value) :: rest => putAll (put target name value) rest

end

/-! ### Elements of lists -/

/-- The greatest number of elements of a list. -/
def longestList : Nat := 2 ^ 32

/-- The position in a list of a given length that an index means; a negative one counts from the
end. -/
def position? (length : Nat) (index : Int) : Option Nat :=
  if 0 ≤ index then
    if index.toNat < longestList then some index.toNat else none
  else if index.natAbs ≤ length then some (length - index.natAbs)
  else none

/-- A setting with an element changed. What is no list becomes one, and blanks fill it up to the
element. -/
def changeElement (target : Setting) (index : Int) (change : Setting → Option Setting) :
    Option Setting :=
  let (origin, elements) : Option String × List Setting :=
    match target with
    | .list origin elements => (origin, elements)
    | _ => (none, [])
  match position? elements.length index with
  | none => none
  | some position =>
    let reached := elements ++ List.replicate (position + 1 - elements.length) .blank
    ((reached[position]?).bind change).map fun value => .list origin (reached.set position value)

end Setting

end AccessFeed.Settings
