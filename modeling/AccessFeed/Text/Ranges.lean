/-
This file defines sets of characters that are given as ranges of code points, the
form in which properties of the character database are kept.
-/

namespace AccessFeed.Text

/-- Closed ranges of code points, in ascending order. -/
abbrev Ranges := List (Nat × Nat)

namespace Ranges

/-- Whether a code point lies in one of the ranges; those that begin behind it are not looked at. -/
def holds : Ranges → Nat → Bool
  | [], _ => false
  | (first, last) :: rest, code =>
    if code < first then false else code ≤ last || holds rest code

/-- The ranges are not empty, and each ends before the next begins. -/
def ascending : Ranges → Bool
  | [] => true
  | [(first, last)] => first ≤ last
  | (first, last) :: (next, end_) :: rest =>
    first ≤ last && last < next && ascending ((next, end_) :: rest)

end Ranges

end AccessFeed.Text
