/-
This file reads the paths at which settings are put, and puts them there.

A path is a name and the steps behind it: a point with the name of a member, or
the number of an element between brackets. A text that is no path is a single
name. On the way to its end a path makes the tables and lists it needs, in place
of whatever else is there.
-/

import AccessFeed.Settings.Setting
import AccessFeed.Text.Numeral

namespace AccessFeed.Settings

/-- A step of a path. -/
inductive PathStep
  | member (name : String)
  | element (index : Int)
deriving DecidableEq, Repr

/-- A path: its first step is a name. -/
abbrev Path := List PathStep

namespace Path

/-- Whether a character may stand in a name of a path. -/
def isNameChar (c : Char) : Bool :=
  ('a' ≤ c && c ≤ 'z') || ('A' ≤ c && c ≤ 'Z') || ('0' ≤ c && c ≤ '9') || c == '_' || c == '-' ||
    c == ' '

/-- Takes a name, which has at least one character. -/
def takeName? (text : List Char) : Option (String × List Char) :=
  let name := text.takeWhile isNameChar
  if name.isEmpty then none else some (String.ofList name, text.drop name.length)

/-- A text without the spaces and tabs in front of it. -/
def skipSpace (text : List Char) : List Char :=
  text.dropWhile fun c => c == ' ' || c == '\t'

/-- Takes the number of an element up to its closing bracket. -/
def takeIndex? (text : List Char) : Option (Int × List Char) :=
  let start := skipSpace text
  let (sign, unsigned) : List Char × List Char :=
    match start with
    | '-' :: rest => (['-'], rest)
    | other => ([], other)
  let digits := unsigned.takeWhile Text.isDigit
  match Text.readInt64 (sign ++ digits), skipSpace (unsigned.drop digits.length) with
  | .ok index, ']' :: behind => some (index, behind)
  | _, _ => none

/-- Takes the steps of a path, of which there are at most as many as characters. -/
def takeSteps? : Nat → List Char → Option Path
  | _, [] => some []
  | 0, _ => none
  | fuel + 1, '.' :: rest =>
    (takeName? rest).bind fun (name, behind) => (takeSteps? fuel behind).map (.member name :: ·)
  | fuel + 1, '[' :: rest =>
    (takeIndex? rest).bind fun (index, behind) => (takeSteps? fuel behind).map (.element index :: ·)
  | _ + 1, _ => none

/-- The path that a text is. -/
def read? (text : String) : Option Path :=
  (takeName? text.toList).bind fun (name, behind) =>
    (takeSteps? behind.length behind).map (.member name :: ·)

/-- The path that a text names. A text that is none is a single name. -/
def ofText (text : String) : Path :=
  (read? text).getD [.member text]

end Path

namespace Setting

/-- Puts a setting at the end of a path, unless the path counts back to before the first element of
a list or leads to one that no list has. -/
def putAt (value : Setting) : Path → Setting → Option Setting
  | [], target => some target
  | [.member name], target => some (target.put name value)
  | [.element index], target => target.changeElement index fun _ => some value
  | .member name :: rest, target =>
    (putAt value rest ((lookup? name target.members).getD .blank)).map (target.withMember name)
  | .element index :: rest, target => target.changeElement index (putAt value rest)

/-- The settings of a source laid over others, each at the path that its name is. -/
def overlay (target : Setting) (members : List (String × Setting)) : Option Setting :=
  members.foldlM (fun target member => putAt member.2 (Path.ofText member.1) target) target

end Setting

end AccessFeed.Settings
