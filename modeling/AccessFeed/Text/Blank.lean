/-
This file fixes which characters are blank and what trimming a text means.

A blank character is one with the property White_Space of the character
database: the ASCII controls from tab to carriage return, the space, and the
spaces and separators outside ASCII. Every reader of this library that skips or
trims blanks uses this one table.
-/

namespace AccessFeed.Text

/-- The White_Space characters, as closed ranges of code points in ascending order. -/
def blankRanges : List (Nat × Nat) :=
  [(0x09, 0x0D), (0x20, 0x20), (0x85, 0x85), (0xA0, 0xA0), (0x1680, 0x1680), (0x2000, 0x200A),
    (0x2028, 0x2029), (0x202F, 0x202F), (0x205F, 0x205F), (0x3000, 0x3000)]

/-- A character is blank when its code point lies in one of the ranges of the table. -/
def isBlank (c : Char) : Bool :=
  blankRanges.any fun range => range.1 ≤ c.toNat && c.toNat ≤ range.2

/-- A text without its leading blanks. -/
def skipBlanks (text : List Char) : List Char :=
  text.dropWhile isBlank

/-- A text without its leading and trailing blanks. -/
def trimmed (text : List Char) : List Char :=
  (skipBlanks (skipBlanks text).reverse).reverse

/-- A string without its leading and trailing blanks. -/
def trim (text : String) : String :=
  String.ofList (trimmed text.toList)

/-- A text is blank when all its characters are. -/
def allBlank (text : String) : Bool :=
  text.toList.all isBlank

/-- Skipping twice skips nothing more. -/
theorem skipBlanks_skipBlanks (text : List Char) :
    skipBlanks (skipBlanks text) = skipBlanks text := by
  induction text with
  | nil => rfl
  | cons c rest ih =>
    by_cases blank : isBlank c
    · simpa [skipBlanks, List.dropWhile_cons, blank] using ih
    · simp [skipBlanks, blank]

end AccessFeed.Text
