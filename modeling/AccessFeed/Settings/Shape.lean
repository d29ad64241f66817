/-
This file defines the shapes of structured settings, and reads JSON into them.

A shape says what is expected at a place: a text, a number of some kind, one of
several options, a list, or a record with named fields. Reading completes a
value: the result is a record with all fields of the shape, in its order, where
those that were absent have their defaults. Members that the shape does not name
are ignored, and a list can stand for a record, its elements being the fields in
order.
-/

import AccessFeed.Binary64.Printer
import AccessFeed.Json.Members
import AccessFeed.Text.Quotation

namespace AccessFeed.Settings

/-- The kinds of natural numbers. -/
inductive NumberKind
  | half
  | word
  | size
deriving DecidableEq, Repr

namespace NumberKind

/-- The name of a kind. -/
def name : NumberKind → String
  | .half => "u32"
  | .word => "u64"
  | .size => "usize"

/-- The first number that is too large for a kind. -/
def limit : NumberKind → Nat
  | .half => 2 ^ 32
  | .word => 2 ^ 64
  | .size => 2 ^ 64

end NumberKind

/-- What the absence of a field means: a fault, an empty value that only a record with names can
leave out, or a default. -/
inductive Absence
  | required
  | omitted
  | filled (value : Json)

/-- What is expected at a place of the settings. -/
inductive Shape
  | text
  | path
  | flag
  | number (kind : NumberKind)
  | optional (inner : Shape)
  | list (element : Shape)
  | choice (name : String) (options : List String)
  | record (name : String) (fields : List (String × Absence × Shape))

/-- Why a value does not have a shape. -/
inductive ShapeFault
  | wrongType (found expected : String)
  | wrongValue (found expected : String)
  | wrongLength (found : Nat) (expected : String)
  | unknownOption (found : String) (options : List String)
  | missing (field : String)
deriving DecidableEq, Repr

namespace ShapeFault

/-- Names between backquotes. -/
def marked (name : String) : String :=
  "\x60" ++ name ++ "\x60"

/-- The options there are. -/
def optionsText : List String → String
  | [only] => marked only
  | [first, second] => marked first ++ " or " ++ marked second
  | options => "one of " ++ ", ".intercalate (options.map marked)

/-- The wording of a fault. -/
def message : ShapeFault → String
  | .wrongType found expected => "invalid type: " ++ found ++ ", expected " ++ expected
  | .wrongValue found expected => "invalid value: " ++ found ++ ", expected " ++ expected
  | .wrongLength found expected =>
    "invalid length " ++ Text.decimal found ++ ", expected " ++ expected
  | .unknownOption found options =>
    "unknown variant " ++ marked found ++ ", expected " ++ optionsText options
  | .missing field => "missing field " ++ marked field

end ShapeFault

namespace Shape

/-- What is expected by a record when a list stands for it. -/
def recordText (name : String) (count : Nat) : String :=
  "struct " ++ name ++ " with " ++ Text.decimal count ++
    if count = 1 then " element" else " elements"

/-- What a shape expects. -/
def expected : Shape → String
  | .text => "a string"
  | .path => "path string"
  | .flag => "a boolean"
  | .number kind => kind.name
  | .optional _ => "option"
  | .list _ => "a sequence"
  | .choice _ _ => "string or map"
  | .record name _ => "struct " ++ name

/-- What a whole number is said to be. -/
def integerText (value : Int) : String :=
  "integer " ++ ShapeFault.marked (Text.signedDecimal value)

/-- What a JSON value is said to be. -/
def found : Json → String
  | .null => "null"
  | .bool value => "boolean " ++ ShapeFault.marked (if value then "true" else "false")
  | .integer value => integerText value
  | .float value => "floating point " ++ ShapeFault.marked value.jsonText
  | .string value => "string " ++ Text.quotation value
  | .array _ => "sequence"
  | .object _ => "map"

/-- One of the options by its name. -/
def readOption (options : List String) (name : String) : Except ShapeFault Json :=
  if options.contains name then .ok (.string name) else .error (.unknownOption name options)

/-- A field that was looked for: its name, what its absence means, and what reading it gave when it
was there. -/
abbrev Sought (Fault : Type) : Type := String × Absence × Option (Except Fault Json)

/-- The fault of the field with the least name, among those whose reading failed. -/
def firstFault? {Fault : Type} : List (Sought Fault) → Option (String × Fault)
  | [] => none
  | (name, _, some (.error fault)) :: rest =>
    match firstFault? rest with
    | some (other, found) => if other < name then some (other, found) else some (name, fault)
    | none => some (name, fault)
  | _ :: rest => firstFault? rest

/-- The fields of a record, the absent ones filled in. -/
def complete {Fault : Type} (missing : String → Fault) :
    List (Sought Fault) → Except Fault (List (String × Json))
  | [] => .ok []
  | (name, absence, answer) :: rest =>
    match answer, absence with
    | some (.ok value), _ => (complete missing rest).map ((name, value) :: ·)
    | some (.error fault), _ => .error fault
    | none, .filled value => (complete missing rest).map ((name, value) :: ·)
    | none, .omitted => (complete missing rest).map ((name, .null) :: ·)
    | none, .required => .error (missing name)

/-- A record from its fields. A field that was there and could not be read is reported before one
that is missing. -/
def assemble {Fault : Type} (missing : String → Fault) (sought : List (Sought Fault)) :
    Except Fault Json :=
  match firstFault? sought with
  | some (_, fault) => .error fault
  | none => (complete missing sought).map .object

mutual

/-- Reads a JSON value into a shape. -/
def read : Shape → Json → Except ShapeFault Json
  | .text, .string value => .ok (.string value)
  | .path, .string value => .ok (.string value)
  | .flag, .bool value => .ok (.bool value)
  | .number kind, .integer value =>
    if value < 0 ∨ (kind.limit : Int) ≤ value then
      .error (.wrongValue (integerText value) kind.name)
    else .ok (.integer value)
  | .optional _, .null => .ok .null
  | .optional inner, value => read inner value
  | .list element, .array values => (values.mapM (read element)).map .array
  | .choice _ options, .string name => readOption options name
  | .choice _ options, .object [(name, value)] => do
    let chosen ← readOption options name
    match value with
    | .null => .ok chosen
    | other => .error (.wrongType (found other) "unit")
  | .choice _ _, .object _ => .error (.wrongValue "map" "map with a single key")
  | .record _ fields, .object members => assemble .missing (readFields fields members)
  | .record name fields, .array values =>
    if fields.length < values.length then do
      let _ ← readPositions (recordText name fields.length) 0 fields values
      .error (.wrongLength values.length "fewer elements in array")
    else (readPositions (recordText name fields.length) 0 fields values).map .object
  | shape, value => .error (.wrongType (found value) shape.expected)

/-- Reads the fields of a record from members with names. -/
def readFields : List (String × Absence × Shape) → List (String × Json) → List (Sought ShapeFault)
  | [], _ => []
  | (name, absence, shape) :: rest, members =>
    (name, absence, (Json.lookup? name members).map (read shape)) :: readFields rest members

/-- Reads the fields of a record from a list in their place. -/
def readPositions (whole : String) (position : Nat) :
    List (String × Absence × Shape) → List Json → Except ShapeFault (List (String × Json))
  | [], _ => .ok []
  | (name, _, shape) :: rest, value :: values => do
    let first ← read shape value
    let others ← readPositions whole (position + 1) rest values
    .ok ((name, first) :: others)
  | (name, .filled value, _) :: rest, [] => do
    let others ← readPositions whole (position + 1) rest []
    .ok ((name, value) :: others)
  | _ :: _, [] => .error (.wrongLength position whole)

end

end Shape

end AccessFeed.Settings
