/-
This file puts texts in lower case, letters outside ASCII included.

Every capital has its lower-case form from the character database. Two of them
are more than a replacement of one character by another: the capital I with a dot
keeps its dot as a mark of its own, and the capital sigma takes its final form at
the end of a word.
-/

import AccessFeed.Text.CaseTable
import AccessFeed.Text.Letters

namespace AccessFeed.Text

/-- Whether a character has a case. -/
def isCased (c : Char) : Bool :=
  casedRanges.holds c.toNat

/-- Whether a character does not count when the case around it is looked at. -/
def isCaseIgnorable (c : Char) : Bool :=
  caseIgnorableRanges.holds c.toNat

/-- The lower-case form of a character when it is a single one; a character without one stays as it
is. -/
def lowerChar (c : Char) : Char :=
  match capitalRuns.findSome? (CapitalRun.lower? · c.toNat) with
  | some code => Char.ofNat code
  | none => c

/-- Whether the first character that counts has a case. -/
def meetsCased (text : List Char) : Bool :=
  match text.dropWhile isCaseIgnorable with
  | c :: _ => isCased c
  | [] => false

/-- The lower-case form of a character between the characters before it, the last one first, and
those behind it. -/
def lowerCharAmid (before : List Char) (c : Char) (behind : List Char) : List Char :=
  if c = 'Σ' then
    if meetsCased before && !meetsCased behind then ['ς'] else ['σ']
  else if c = 'İ' then ['i', '\u0307']
  else [lowerChar c]

/-- The characters of a text in lower case, given those before it, the last one first. -/
def lowercaseChars (before : List Char) : List Char → List Char
  | [] => []
  | c :: behind => lowerCharAmid before c behind ++ lowercaseChars (c :: before) behind

/-- A text in lower case. -/
def lowercase (text : String) : String :=
  String.ofList (lowercaseChars [] text.toList)

end AccessFeed.Text
