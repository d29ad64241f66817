/-
This file reads and writes whole numbers in decimal.

A numeral is one or more ASCII digits, optionally after a sign. Reading into a
bounded kind of number tells four faults apart: nothing to read, a character
that is no digit, a number above the greatest value, one below the least. A
lone sign counts as a character that is no digit. Writing pads with zeros on the
left up to a given width, and a longer number keeps all its digits.
-/

import AccessFeed.Power

namespace AccessFeed.Text

/-- The value of an ASCII digit. -/
def digitValue? (c : Char) : Option Nat :=
  if '0' ≤ c ∧ c ≤ '9' then some (c.toNat - 48) else none

/-- Whether a character is an ASCII digit. -/
def isDigit (c : Char) : Bool :=
  '0' ≤ c && c ≤ '9'

/-- The number written by a list of digits, continuing from the number `value` already read. -/
def digitsValue (value : Nat) : List Char → Nat
  | [] => value
  | c :: rest => digitsValue (value * 10 + (c.toNat - 48)) rest

/-- Why a text is no numeral of a bounded kind of whole number. -/
inductive NumeralFault
  | empty
  | invalidDigit
  | tooLarge
  | tooSmall
deriving DecidableEq, Repr

/-- The wording of a numeral's fault. -/
def NumeralFault.message : NumeralFault → String
  | .empty => "cannot parse integer from empty string"
  | .invalidDigit => "invalid digit found in string"
  | .tooLarge => "number too large to fit in target type"
  | .tooSmall => "number too small to fit in target type"

/-- The digits of a numeral read from the left, under a bound on the magnitude. A number over the
bound is noticed at the digit that exceeds it, so of a bad character and an overflow the one
further left is the fault. -/
def boundedDigits (bound : Nat) (excess : NumeralFault) (value : Nat) :
    List Char → Except NumeralFault Nat
  | [] => .ok value
  | c :: rest =>
    match digitValue? c with
    | none => .error .invalidDigit
    | some digit =>
      let next := value * 10 + digit
      if next ≤ bound then boundedDigits bound excess next rest else .error excess

/-- Reads a whole number up to `bound` that may carry a plus sign. -/
def readNat (bound : Nat) (text : List Char) : Except NumeralFault Nat :=
  match text with
  | [] => .error .empty
  | ['+'] => .error .invalidDigit
  | '+' :: rest => boundedDigits bound .tooLarge 0 rest
  | _ => boundedDigits bound .tooLarge 0 text

/-- Reads a whole number from `-least` to `greatest` that may carry either sign. -/
def readInt (least greatest : Nat) (text : List Char) : Except NumeralFault Int :=
  match text with
  | [] => .error .empty
  | ['+'] => .error .invalidDigit
  | ['-'] => .error .invalidDigit
  | '+' :: rest => (boundedDigits greatest .tooLarge 0 rest).map Int.ofNat
  | '-' :: rest => (boundedDigits least .tooSmall 0 rest).map fun value => -(value : Int)
  | _ => (boundedDigits greatest .tooLarge 0 text).map Int.ofNat

/-- Reads an unsigned number of 64 bits. -/
def readUInt64 (text : List Char) : Except NumeralFault Nat :=
  readNat (2 ^ 64 - 1) text

/-- Reads a signed number of 32 bits. -/
def readInt32 (text : List Char) : Except NumeralFault Int :=
  readInt (2 ^ 31) (2 ^ 31 - 1) text

/-- Reads a signed number of 64 bits. -/
def readInt64 (text : List Char) : Except NumeralFault Int :=
  readInt (2 ^ 63) (2 ^ 63 - 1) text

/-- The ASCII digit of a value below ten. -/
def digitChar (value : Nat) : Char :=
  Char.ofNat (48 + value % 10)

/-- The decimal digits of a number in front of the digits `after`; zero has the one digit 0. -/
def digitsBefore (after : List Char) (value : Nat) : List Char :=
  if value < 10 then digitChar value :: after
  else digitsBefore (digitChar value :: after) (value / 10)
termination_by value

/-- The decimal digits of a number. -/
def digitsOf (value : Nat) : List Char :=
  digitsBefore [] value

/-- A text filled with zeros on the left up to `width` characters. -/
def padded (width : Nat) (text : List Char) : List Char :=
  List.replicate (width - text.length) '0' ++ text

/-- A number in decimal. -/
def decimal (value : Nat) : String :=
  String.ofList (digitsOf value)

/-- A number in decimal with at least `width` digits. -/
def paddedDecimal (width value : Nat) : String :=
  String.ofList (padded width (digitsOf value))

/-- A signed number in decimal. -/
def signedDecimal (value : Int) : String :=
  if value < 0 then String.ofList ('-' :: digitsOf value.natAbs) else decimal value.toNat

/-! ### Writing and reading back -/

theorem digitValue?_digitChar {value : Nat} (small : value < 10) :
    digitValue? (digitChar value) = some value := by
  have table : ∀ digit : Fin 10, digitValue? (digitChar digit.val) = some digit.val := by decide
  exact table ⟨value, small⟩

theorem digitsBefore_append (after : List Char) (value : Nat) :
    digitsBefore after value = digitsBefore [] value ++ after := by
  induction value using Nat.strongRecOn generalizing after with
  | _ value ih =>
    unfold digitsBefore
    by_cases small : value < 10
    · simp [small]
    · simp only [small, ↓reduceIte]
      rw [ih (value / 10) (by omega) (digitChar value :: after),
        ih (value / 10) (by omega) [digitChar value]]
      simp

/-- The last digit stands behind the digits of the rest. -/
theorem digitsOf_of_ten_le {value : Nat} (large : 10 ≤ value) :
    digitsOf value = digitsOf (value / 10) ++ [digitChar value] := by
  unfold digitsOf
  rw [digitsBefore]
  simp only [show ¬ value < 10 by omega, ↓reduceIte]
  exact digitsBefore_append _ _

theorem digitsOf_of_lt_ten {value : Nat} (small : value < 10) :
    digitsOf value = [digitChar value] := by
  unfold digitsOf
  rw [digitsBefore]
  simp [small]

theorem digitsOf_ne_nil (value : Nat) : digitsOf value ≠ [] := by
  by_cases small : value < 10
  · simp [digitsOf_of_lt_ten small]
  · simp [digitsOf_of_ten_le (by omega : 10 ≤ value)]

end AccessFeed.Text
