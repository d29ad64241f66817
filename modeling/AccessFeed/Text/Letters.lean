/-
This file compares and changes texts by the case of their ASCII letters only.

Names of event types and categories are matched without regard to the case of
the twenty-six ASCII letters; every other character, letters outside ASCII
included, has to agree exactly.
-/

namespace AccessFeed.Text

/-- The lower-case form of an ASCII capital; every other character as it is. -/
def lowerAscii (c : Char) : Char :=
  if 'A' ≤ c ∧ c ≤ 'Z' then Char.ofNat (c.toNat + 32) else c

/-- A text with its ASCII capitals in lower case. -/
def lowered (text : String) : String :=
  String.ofList (text.toList.map lowerAscii)

/-- Two texts agree up to the case of ASCII letters. -/
def sameLetters (first second : String) : Bool :=
  first.toList.map lowerAscii == second.toList.map lowerAscii

end AccessFeed.Text
