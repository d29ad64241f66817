/-
This file defines how a JSON value is asked for what it holds.

The questions are lenient: a member that is missing, or is not of the kind asked
for, counts as absent.
-/

import AccessFeed.Json.Value
import AccessFeed.Text.Numeral

namespace AccessFeed.Json

/-- A text, if the value is one. -/
def text? : Json → Option String
  | .string value => some value
  | _ => none

/-- A whole number, if the value is one. -/
def int? : Json → Option Int
  | .integer value => some value
  | _ => none

/-- A natural number, if the value is a whole one; negative ones count as zero. -/
def nat? (json : Json) : Option Nat :=
  json.int?.map Int.toNat

/-- A truth value, if the value is one. -/
def flag? : Json → Option Bool
  | .bool value => some value
  | _ => none

/-- The elements of an array; any other value has none. -/
def elements : Json → List Json
  | .array values => values
  | _ => []

/-- A member of an object, or null. -/
def at_ (json : Json) (name : String) : Json :=
  (json.get? name).getD .null

/-- The text of a member. -/
def text (json : Json) (name : String) (absent : String := "") : String :=
  (json.at_ name).text?.getD absent

/-- The text of a member, if it is one. -/
def textAt? (json : Json) (name : String) : Option String :=
  (json.at_ name).text?

/-- The whole number of a member. -/
def int (json : Json) (name : String) (absent : Int := 0) : Int :=
  (json.at_ name).int?.getD absent

/-- The natural number of a member. -/
def nat (json : Json) (name : String) (absent : Nat := 0) : Nat :=
  (json.at_ name).nat?.getD absent

/-- The truth value of a member. -/
def flag (json : Json) (name : String) (absent : Bool := false) : Bool :=
  (json.at_ name).flag?.getD absent

/-- The elements of a member. -/
def list (json : Json) (name : String) : List Json :=
  (json.at_ name).elements

/-- The texts among the elements of a member. -/
def texts (json : Json) (name : String) : List String :=
  (json.list name).filterMap text?

/-- The pairs of texts among the elements of a member. -/
def pairs (json : Json) (name : String) : List (String × String) :=
  (json.list name).filterMap fun pair =>
    match pair with
    | .array [.string first, .string second] => some (first, second)
    | _ => none

/-- An optional text. -/
def ofText? : Option String → Json
  | some value => .string value
  | none => .null

/-- An array of texts. -/
def ofTexts (values : List String) : Json :=
  .array (values.map .string)

/-- Pairs of texts, each as an array of two. -/
def ofPairs (entries : List (String × String)) : Json :=
  .array (entries.map fun entry => .array [.string entry.1, .string entry.2])

/-- A value with a member changed. -/
def change (json : Json) (name : String) (update : Json → Json) : Json :=
  match json with
  | .object members =>
    .object (members.map fun member =>
      if member.1 = name then (name, update member.2) else member)
  | other => other

/-- An object with members added; anything else is left as it is. -/
def extended (json : Json) (additions : List (String × Json)) : Json :=
  match json with
  | .object members => .ofMembers (members ++ additions)
  | other => other

end AccessFeed.Json
