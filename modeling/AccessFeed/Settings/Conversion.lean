/-
This file reads settings from files and the environment into shapes.

Single values are converted leniently: a text can stand for a truth value or a
number, a number for a text, and so on. A value that cannot be converted is
reported with its place and the source it came from.
-/

import AccessFeed.Binary64.Rounding
import AccessFeed.Settings.Setting
import AccessFeed.Settings.Shape
import AccessFeed.Text.Letters

namespace AccessFeed.Settings

/-- Why settings cannot be taken from their sources. -/
inductive SourceFault
  | conversion (found expected : String) (place : Option String) (origin : Option String)
  | shape (fault : ShapeFault)
  | noOption (name option : String)
  | noSingleOption (name : String)
  | unreadable
  | outOfList
deriving DecidableEq, Repr

namespace SourceFault

/-- The name of the kind of a fault. -/
def name : SourceFault → String
  | .conversion _ _ _ _ => "Type"
  | .unreadable => "FileParse"
  | _ => "Message"

/-- The wording of a fault. -/
def message : SourceFault → String
  | .conversion found expected place origin =>
    "invalid type: " ++ found ++ ", expected " ++ expected ++
      (place.map fun place => " for key " ++ ShapeFault.marked place).getD "" ++
      (origin.map fun origin => " in " ++ origin).getD ""
  | .shape fault => fault.message
  | .noOption name option =>
    "enum " ++ name ++ " does not have variant constructor " ++ option
  | .noSingleOption name =>
    "value of enum " ++ name ++
      " should be represented by either string or table with exactly one key"
  | .unreadable => "unreadable configuration file"
  | .outOfList => "an element that its list cannot have"

/-- The fault as it is seen from the table or list that holds the place. -/
def within (fault : SourceFault) (join : Option String → String) : SourceFault :=
  match fault with
  | .conversion found expected place origin => .conversion found expected (some (join place)) origin
  | other => other

/-- A place inside a member. -/
def underName (name : String) (place : Option String) : String :=
  match place with
  | none => name
  | some place => if place.startsWith "[" then name ++ place else name ++ "." ++ place

/-- A place inside an element. -/
def underIndex (index : Nat) (place : Option String) : String :=
  "[" ++ Text.decimal index ++ "]" ++ place.getD ""

end SourceFault

namespace Setting

/-- The texts that stand for truth values. -/
def truthWords : List (String × Bool) :=
  [("true", true), ("on", true), ("yes", true), ("false", false), ("off", false), ("no", false)]

/-- The truth value that a text stands for. -/
def wordTruth? (text : String) : Option Bool :=
  (truthWords.find? fun word => word.1 == text).map Prod.snd

/-- What a setting is said to be when it cannot be converted. -/
def unconverted : Setting → String
  | .blank => "unit value"
  | .scalar _ (.flag value) => "boolean " ++ ShapeFault.marked (if value then "true" else "false")
  | .scalar _ (.integer value) =>
    "64-bit integer " ++ ShapeFault.marked (Text.signedDecimal value)
  | .scalar _ (.float value) => "floating point " ++ ShapeFault.marked value.plain
  | .scalar _ (.text value) => "string " ++ Text.quotation value
  | .list _ _ => "sequence"
  | .table _ _ => "map"

/-- A number always with a point, unless it is not finite. -/
def pointedText (value : Binary64) : String :=
  let text := value.plain
  if value.isFinite && !text.toList.contains '.' then text ++ ".0" else text

/-- What a setting is said to be when it is in the place of a list or a record. -/
def misplaced : Setting → String
  | .scalar _ (.integer value) => Shape.integerText value
  | .scalar _ (.float value) => "floating point " ++ ShapeFault.marked (pointedText value)
  | other => other.unconverted

/-- The fault of a setting that cannot be converted. -/
def refuse (setting : Setting) (expected : String) : SourceFault :=
  .conversion setting.unconverted expected none setting.origin

/-- A setting as a text. -/
def toText (setting : Setting) : Except SourceFault String :=
  match setting with
  | .scalar _ (.text value) => .ok value
  | .scalar _ (.flag value) => .ok (if value then "true" else "false")
  | .scalar _ (.integer value) => .ok (Text.signedDecimal value)
  | .scalar _ (.float value) => .ok value.plain
  | other => .error (other.refuse "a string")

/-- A setting as a truth value. -/
def toFlag (setting : Setting) : Except SourceFault Bool :=
  match setting with
  | .scalar _ (.flag value) => .ok value
  | .scalar _ (.integer value) => .ok (value != 0)
  | .scalar _ (.float value) => .ok (!value.isZero)
  | .scalar origin (.text value) =>
    let word := Text.lowercase value
    match wordTruth? word with
    | some truth => .ok truth
    | none =>
      if word = "1" then .ok true
      else if word = "0" then .ok false
      else .error ((Setting.scalar origin (.text word)).refuse "a boolean")
  | other => .error (other.refuse "a boolean")

/-- A setting as a natural number below `2 ^ 64`. -/
def toWord (setting : Setting) : Except SourceFault Nat :=
  match setting with
  | .scalar _ (.integer value) =>
    if value < 0 then .error (setting.refuse "an unsigned 64 bit or less integer")
    else .ok value.toNat
  | .scalar _ (.flag value) => .ok (if value then 1 else 0)
  | .scalar _ (.float value) => .ok (value.nearestNat (NumberKind.word.limit - 1))
  | .scalar _ (.text value) =>
    match wordTruth? (Text.lowercase value) with
    | some truth => .ok (if truth then 1 else 0)
    | none =>
      match Text.readUInt64 value.toList with
      | .ok number => .ok number
      | .error _ => .error (setting.refuse "an integer")
  | other => .error (other.refuse "an integer")

/-- A setting as a number of some kind. -/
def toNumber (setting : Setting) (kind : NumberKind) : Except SourceFault Nat := do
  let number ← setting.toWord
  if number < kind.limit then .ok number
  else
    .error (.conversion
      ("64-bit unsigned integer " ++ ShapeFault.marked (Text.decimal number))
      "an unsigned 32 bit integer" none none)

/-- One of the options by its name, whose case does not matter. -/
def toOption (name : String) (options : List String) (option : String) :
    Except SourceFault Json :=
  match options.find? fun other => Text.sameLetters other option with
  | some found => .ok (.string found)
  | none => .error (.noOption name option)

mutual

/-- Converts a setting into a shape. -/
def convert : Shape → Setting → Except SourceFault Json
  | .text, setting => setting.toText.map .string
  | .path, setting => setting.toText.map .string
  | .flag, setting => setting.toFlag.map .bool
  | .number kind, setting => (setting.toNumber kind).map fun number => .integer number
  | .optional _, .blank => .ok .null
  | .optional inner, setting => convert inner setting
  | .list element, .list _ elements => (convertElements element 0 elements).map .array
  | .choice name options, .scalar _ (.text option) => toOption name options option
  | .choice name options, .table _ [(option, _)] => toOption name options option
  | .choice name _, _ => .error (.noSingleOption name)
  | .record _ fields, .table _ members =>
    Shape.assemble (fun name => .shape (.missing name)) (convertFields fields members)
  | .record name fields, .list _ elements =>
    (convertPositions (Shape.recordText name fields.length) 0 fields elements).map .object
  | shape, setting => .error (.shape (.wrongType setting.misplaced shape.expected))

/-- Converts the elements of a list. -/
def convertElements (element : Shape) (index : Nat) :
    List Setting → Except SourceFault (List Json)
  | [] => .ok []
  | setting :: rest =>
    match convert element setting with
    | .error fault => .error (fault.within (SourceFault.underIndex index))
    | .ok value => (convertElements element (index + 1) rest).map (value :: ·)

/-- Converts the fields of a record from members with names. -/
def convertFields : List (String × Absence × Shape) → List (String × Setting) →
    List (Shape.Sought SourceFault)
  | [], _ => []
  | (name, absence, shape) :: rest, members =>
    let answer :=
      match lookup? name members with
      | none => none
      | some setting =>
        match convert shape setting with
        | .ok value => some (.ok value)
        | .error fault => some (.error (fault.within (SourceFault.underName name)))
    (name, absence, answer) :: convertFields rest members

/-- Converts the fields of a record from a list in their place. -/
def convertPositions (whole : String) (position : Nat) :
    List (String × Absence × Shape) → List Setting → Except SourceFault (List (String × Json))
  | [], _ => .ok []
  | (name, _, shape) :: rest, setting :: settings =>
    match convert shape setting with
    | .error fault => .error (fault.within (SourceFault.underIndex position))
    | .ok value =>
      (convertPositions whole (position + 1) rest settings).map ((name, value) :: ·)
  | (name, .filled value, _) :: rest, [] =>
    (convertPositions whole (position + 1) rest []).map ((name, value) :: ·)
  | _ :: _, [] => .error (.shape (.wrongLength position whole))

end

end Setting

end AccessFeed.Settings
