/-
This file defines JSON values.

Numbers are whole or binary floating-point. An object lists its members in
ascending order of their names and holds no name twice; inserting a member
replaces an earlier one of the same name.
-/

import AccessFeed.Binary64.Basic

namespace AccessFeed

/-- A JSON value. -/
inductive Json
  | null
  | bool (value : Bool)
  | integer (value : Int)
  | float (value : Binary64)
  | string (value : String)
  | array (elements : List Json)
  | object (members : List (String × Json))
deriving Inhabited

namespace Json

/-- A member put into a list of members in ascending order of names, in place of one of the same
name. -/
def insertMember (name : String) (value : Json) : List (String × Json) → List (String × Json)
  | [] => [(name, value)]
  | (other, held) :: rest =>
    if name = other then (name, value) :: rest
    else if name < other then (name, value) :: (other, held) :: rest
    else (other, held) :: insertMember name value rest

/-- The object with the given members, the later of two with one name winning. -/
def ofMembers (members : List (String × Json)) : Json :=
  .object (members.foldl (fun held member => insertMember member.1 member.2 held) [])

/-- The value of a member in a list of members. -/
def lookup? (name : String) : List (String × Json) → Option Json
  | [] => none
  | (other, value) :: rest => if name = other then some value else lookup? name rest

/-- The value of a member of an object. -/
def get? (json : Json) (name : String) : Option Json :=
  match json with
  | .object members => lookup? name members
  | _ => none

end Json

end AccessFeed
