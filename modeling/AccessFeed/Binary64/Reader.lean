/-
This file reads the decimal texts of 64-bit binary floating-point numbers.

A text is an optional sign followed either by one of the words `inf`, `infinity`
and `nan` in any case, or by digits with at most one point and an optional
exponent. There is at least one digit before or behind the point, and at least
one in an exponent. Every text of the form denotes the nearest number.
-/

import AccessFeed.Binary64.Basic
import AccessFeed.Text.Letters
import AccessFeed.Text.Numeral

namespace AccessFeed.Binary64

/-- Why a text denotes no number. -/
inductive ReadFault
  | empty
  | invalid
deriving DecidableEq, Repr

/-- The wording of a fault. -/
def ReadFault.message : ReadFault → String
  | .empty => "cannot parse float from empty string"
  | .invalid => "invalid float literal"

/-- A decimal number as it is written: digits, and the power of ten that they count. -/
structure Decimal where
  digits : Nat
  exponent : Int
deriving DecidableEq, Repr

/-- The sign of a text and what follows it. -/
def splitSign : List Char → Bool × List Char
  | '+' :: rest => (false, rest)
  | '-' :: rest => (true, rest)
  | text => (false, text)

/-- Reads an exponent: an optional sign and digits up to the end of the text. -/
def readExponent? (text : List Char) : Option Int :=
  let (negative, digits) := splitSign text
  if digits.isEmpty || !digits.all Text.isDigit then none
  else
    let value : Int := Text.digitsValue 0 digits
    some (if negative then -value else value)

/-- Reads an unsigned decimal number. -/
def readDecimal? (text : List Char) : Option Decimal :=
  let whole := text.takeWhile Text.isDigit
  let behindWhole := text.dropWhile Text.isDigit
  let (part, behindPart) : List Char × List Char :=
    match behindWhole with
    | '.' :: rest => (rest.takeWhile Text.isDigit, rest.dropWhile Text.isDigit)
    | rest => ([], rest)
  if whole.isEmpty && part.isEmpty then none
  else
    let digits := Text.digitsValue 0 (whole ++ part)
    let shift : Int := -(part.length : Int)
    match behindPart with
    | [] => some ⟨digits, shift⟩
    | c :: rest =>
      if c = 'e' ∨ c = 'E' then (readExponent? rest).map fun exponent => ⟨digits, shift + exponent⟩
      else none

/-- The number a decimal denotes. -/
def Decimal.toBinary64 (negative : Bool) (decimal : Decimal) : Binary64 :=
  ofDecimal negative decimal.digits decimal.exponent

/-- Reads a number. -/
def read (text : List Char) : Except ReadFault Binary64 :=
  if text.isEmpty then .error .empty
  else
    let (negative, rest) := splitSign text
    match readDecimal? rest with
    | some decimal => .ok (decimal.toBinary64 negative)
    | none =>
      let word := rest.map Text.lowerAscii
      if word = "inf".toList ∨ word = "infinity".toList then .ok (infinity negative)
      else if word = "nan".toList then .ok (nan negative)
      else .error .invalid

end AccessFeed.Binary64
