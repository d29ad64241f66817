/-
This file defines TOML values and the tables of a document under construction.

A document says what its tables hold in pieces, and has rules on which pieces
may come together: a table is opened by a header once, a table that a dotted key
made is extended by dotted keys only, and a value is final.
-/

import AccessFeed.Binary64.Basic

namespace AccessFeed.Toml

/-- A TOML value. Dates and times are kept in their written form. -/
inductive Value
  | text (value : String)
  | integer (value : Int)
  | float (value : Binary64)
  | flag (value : Bool)
  | moment (written : String)
  | array (elements : List Value)
  | table (members : List (String × Value))
deriving Inhabited

/-- What a name of a table stands for while the document is read: a final value, a table, or a list
of tables, the latest first. A table is implied until a header opens it, and dotted when a dotted
key made it. -/
inductive Node
  | final (value : Value)
  | table (implied dotted : Bool) (members : List (String × Node))
  | tables (items : List (List (String × Node)))
deriving Inhabited

namespace Node

/-- Finds a name in a table. -/
def lookup? (name : String) : List (String × Node) → Option Node
  | [] => none
  | (other, node) :: rest => if name = other then some node else lookup? name rest

/-- A table with a name set. -/
def set (name : String) (node : Node) : List (String × Node) → List (String × Node)
  | [] => [(name, node)]
  | (other, held) :: rest =>
    if name = other then (name, node) :: rest else (other, held) :: set name node rest

/-- Applies a change to the table at a path, given whether that table is dotted. Tables on the way
that are not there are implied, and dotted if the path is that of a dotted key, which must not pass
through an opened table. -/
def descend (dotted : Bool) (change : Bool → List (String × Node) → Option (List (String × Node))) :
    List String → Bool → List (String × Node) → Option (List (String × Node))
  | [], here, members => change here members
  | name :: rest, _, members =>
    match lookup? name members with
    | none =>
      (descend dotted change rest dotted []).map fun inner =>
        members ++ [(name, .table true dotted inner)]
    | some (.final _) => none
    | some (.tables []) => none
    | some (.tables (latest :: older)) =>
      (descend dotted change rest false latest).map fun inner =>
        set name (.tables (inner :: older)) members
    | some (.table implied made inner) =>
      if dotted && !implied then none
      else
        (descend dotted change rest made inner).map fun inner =>
          set name (.table implied made inner) members

/-- Gives a value to a dotted key of a table. -/
def assign (path : List String) (name : String) (value : Value) (here : Bool)
    (members : List (String × Node)) : Option (List (String × Node)) :=
  descend true
    (fun made members =>
      if made == path.isEmpty then none
      else if (lookup? name members).isSome then none
      else some (members ++ [(name, .final value)]))
    path here members

/-- Opens the table of a header. -/
def openTable (path : List String) (name : String) (members : List (String × Node)) :
    Option (List (String × Node)) :=
  descend false
    (fun _ members =>
      match lookup? name members with
      | none => some (members ++ [(name, .table false false [])])
      | some (.table true false inner) => some (set name (.table false false inner) members)
      | _ => none)
    path false members

/-- Begins another table of the list of a header. -/
def openListed (path : List String) (name : String) (members : List (String × Node)) :
    Option (List (String × Node)) :=
  descend false
    (fun _ members =>
      match lookup? name members with
      | none => some (members ++ [(name, .tables [[]])])
      | some (.tables items) => some (set name (.tables ([] :: items)) members)
      | _ => none)
    path false members

mutual

/-- The value that a node stands for at the end. -/
def toValue : Node → Value
  | .final value => value
  | .table _ _ members => .table (toMembers members)
  | .tables items => .array (toTables items).reverse

/-- The members of a table at the end. -/
def toMembers : List (String × Node) → List (String × Value)
  | [] => []
  | (name, node) :: rest => (name, toValue node) :: toMembers rest

/-- The tables of a list at the end, the latest first. -/
def toTables : List (List (String × Node)) → List Value
  | [] => []
  | members :: rest => .table (toMembers members) :: toTables rest

end

end Node

end AccessFeed.Toml
