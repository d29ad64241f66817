/-
This file writes JSON values, on one line or indented.

Quotes, backslashes and control characters are escaped, five of the controls by
a letter and the others by their code; every other character stands for itself.
A floating-point number that is not finite is written as null.
-/

import AccessFeed.Binary64.Printer
import AccessFeed.Json.Value
import AccessFeed.Text.Numeral

namespace AccessFeed.Json

/-- A lower-case hexadecimal digit. -/
def hexDigit (value : Nat) : Char :=
  if value < 10 then Char.ofNat (48 + value) else Char.ofNat (87 + value)

/-- A character as it stands inside a string. -/
def escaped (c : Char) : List Char :=
  match c with
  | '"' => ['\\', '"']
  | '\\' => ['\\', '\\']
  | '\n' => ['\\', 'n']
  | '\r' => ['\\', 'r']
  | '\t' => ['\\', 't']
  | '\x08' => ['\\', 'b']
  | '\x0c' => ['\\', 'f']
  | _ =>
    if c.toNat < 0x20 then
      ['\\', 'u', '0', '0', hexDigit (c.toNat / 16), hexDigit (c.toNat % 16)]
    else [c]

/-- A string with its quotes. -/
def quoted (text : String) : String :=
  String.ofList ('"' :: text.toList.flatMap escaped ++ ['"'])

/-- A number as JSON. -/
def floatText (value : Binary64) : String :=
  if value.isFinite then value.jsonText else "null"

mutual

/-- A value on one line without spaces. -/
def compact : Json → String
  | .null => "null"
  | .bool value => if value then "true" else "false"
  | .integer value => Text.signedDecimal value
  | .float value => floatText value
  | .string value => quoted value
  | .array elements => "[" ++ compactElements elements ++ "]"
  | .object members => "\x7b" ++ compactMembers members ++ "\x7d"

/-- The elements of an array, separated by commas. -/
def compactElements : List Json → String
  | [] => ""
  | [element] => compact element
  | element :: rest => compact element ++ "," ++ compactElements rest

/-- The members of an object, separated by commas. -/
def compactMembers : List (String × Json) → String
  | [] => ""
  | [(name, value)] => quoted name ++ ":" ++ compact value
  | (name, value) :: rest => quoted name ++ ":" ++ compact value ++ "," ++ compactMembers rest

end

/-- The beginning of a line at a depth of indentation. -/
def lineStart (depth : Nat) : String :=
  String.ofList ('\n' :: List.replicate (2 * depth) ' ')

mutual

/-- A value with every element and member on a line of its own, two spaces deeper than what
holds it. -/
def indentedAt (depth : Nat) : Json → String
  | .array [] => "[]"
  | .object [] => "\x7b\x7d"
  | .array elements =>
    "[" ++ indentedElements (depth + 1) elements ++ lineStart depth ++ "]"
  | .object members =>
    "\x7b" ++ indentedMembers (depth + 1) members ++ lineStart depth ++ "\x7d"
  | .null => "null"
  | .bool value => if value then "true" else "false"
  | .integer value => Text.signedDecimal value
  | .float value => floatText value
  | .string value => quoted value

/-- The elements of an array, each on a line of its own. -/
def indentedElements (depth : Nat) : List Json → String
  | [] => ""
  | [element] => lineStart depth ++ indentedAt depth element
  | element :: rest =>
    lineStart depth ++ indentedAt depth element ++ "," ++ indentedElements depth rest

/-- The members of an object, each on a line of its own. -/
def indentedMembers (depth : Nat) : List (String × Json) → String
  | [] => ""
  | [(name, value)] => lineStart depth ++ quoted name ++ ": " ++ indentedAt depth value
  | (name, value) :: rest =>
    lineStart depth ++ quoted name ++ ": " ++ indentedAt depth value ++ "," ++
      indentedMembers depth rest

end

/-- A value with indentation. -/
def indented (value : Json) : String :=
  indentedAt 0 value

end AccessFeed.Json
