/-
This file reads JSON texts and reports where and why one is malformed.

A fault names its cause and the place at which it was noticed: the line, and the
number of bytes of that line up to and including the offending one. A number
without point and exponent that fits 64 bits is whole; every other number is
floating-point, and its digits beyond 64 bits of significand count only by their
number. At most 127 arrays and objects may be open at once.
-/

import AccessFeed.Binary64.Basic
import AccessFeed.Json.Value
import AccessFeed.Text.Numeral

namespace AccessFeed.Json

/-- The causes of malformed texts. -/
inductive Cause
  | endInList
  | endInObject
  | endInString
  | endInValue
  | expectedColon
  | expectedListEnd
  | expectedObjectEnd
  | expectedWord
  | expectedValue
  | invalidEscape
  | invalidNumber
  | numberOutOfRange
  | controlCharacter
  | nameNotString
  | loneSurrogate
  | trailingComma
  | trailingCharacters
  | endOfSurrogate
  | tooDeep
deriving DecidableEq, Repr

/-- The wording of a cause. -/
def Cause.message : Cause → String
  | .endInList => "EOF while parsing a list"
  | .endInObject => "EOF while parsing an object"
  | .endInString => "EOF while parsing a string"
  | .endInValue => "EOF while parsing a value"
  | .expectedColon => "expected `:`"
  | .expectedListEnd => "expected `,` or `]`"
  | .expectedObjectEnd => "expected `,` or `\x7d`"
  | .expectedWord => "expected ident"
  | .expectedValue => "expected value"
  | .invalidEscape => "invalid escape"
  | .invalidNumber => "invalid number"
  | .numberOutOfRange => "number out of range"
  | .controlCharacter =>
    "control character (\\u0000-\\u001F) found while parsing a string"
  | .nameNotString => "key must be a string"
  | .loneSurrogate => "lone leading surrogate in hex escape"
  | .trailingComma => "trailing comma"
  | .trailingCharacters => "trailing characters"
  | .endOfSurrogate => "unexpected end of hex escape"
  | .tooDeep => "recursion limit exceeded"

/-- A place in a text: the line from 1, and the bytes of the line before the place. -/
structure Place where
  line : Nat
  column : Nat
deriving DecidableEq, Repr

/-- The place behind a character. -/
def Place.behind (place : Place) (c : Char) : Place :=
  if c = '\n' then ⟨place.line + 1, 0⟩ else ⟨place.line, place.column + c.utf8Size⟩

/-- The place behind so many bytes of a text. -/
def Place.behindBytes (place : Place) : Nat → List Char → Place
  | 0, _ => place
  | _, [] => place
  | count, c :: rest =>
    if c.utf8Size ≤ count then (place.behind c).behindBytes (count - c.utf8Size) rest
    else ⟨place.line, place.column + count⟩

/-- A malformed text's fault: its cause, and the place at which it was noticed. -/
structure Fault where
  cause : Cause
  place : Place
deriving DecidableEq, Repr

/-- The wording of a fault. -/
def Fault.message (fault : Fault) : String :=
  fault.cause.message ++ " at line " ++ Text.decimal fault.place.line ++ " column " ++
    Text.decimal fault.place.column

/-- What is left to read, and the place where it begins. -/
structure Cursor where
  rest : List Char
  place : Place

namespace Cursor

/-- The cursor behind the next character. -/
def step (cursor : Cursor) : Cursor :=
  match cursor.rest with
  | [] => cursor
  | c :: rest => ⟨rest, cursor.place.behind c⟩

/-- The fault noticed at the place reached. -/
def here (cursor : Cursor) (cause : Cause) : Fault :=
  ⟨cause, cursor.place⟩

/-- The fault noticed at the next byte. -/
def next (cursor : Cursor) (cause : Cause) : Fault :=
  ⟨cause, cursor.place.behindBytes 1 cursor.rest⟩

/-- The characters that may stand between the parts of a text. -/
def isSpace (c : Char) : Bool :=
  c == ' ' || c == '\n' || c == '\t' || c == '\r'

/-- Skips spaces in a text that begins at a place. -/
def skipFrom (place : Place) : List Char → Cursor
  | [] => ⟨[], place⟩
  | c :: rest => if isSpace c then skipFrom (place.behind c) rest else ⟨c :: rest, place⟩

/-- The cursor behind the spaces. -/
def skip (cursor : Cursor) : Cursor :=
  skipFrom cursor.place cursor.rest

end Cursor

/-- Reads the remaining letters of a word such as `null`. -/
def readWord (cursor : Cursor) : List Char → Except Fault Cursor
  | [] => .ok cursor
  | letter :: letters =>
    match cursor.rest with
    | [] => .error (cursor.here .endInValue)
    | c :: _ =>
      if c = letter then readWord cursor.step letters else .error (cursor.next .expectedWord)

/-! ### Numbers -/

/-- The digits at the beginning of a text and what follows them. -/
def takeDigits (cursor : Cursor) : List Char × Cursor :=
  let digits := cursor.rest.takeWhile Text.isDigit
  (digits, ⟨cursor.rest.dropWhile Text.isDigit,
    ⟨cursor.place.line, cursor.place.column + digits.length⟩⟩)

/-- A significand of at most 64 bits read from digits, and how many digits did not fit. -/
def significandOf (value : Nat) : List Char → Nat × Nat
  | [] => (value, 0)
  | c :: rest =>
    let next := value * 10 + (c.toNat - 48)
    if next < 2 ^ 64 then significandOf next rest else (value, rest.length + 1)

/-- The greatest power of ten applied in one rounding. -/
def greatestPower : Nat := 308

/-- A significand times a power of ten. The significand is rounded first and the product again; a
power beyond the greatest finite one is applied in several steps. `none` says that the result is
infinite. -/
def scaledByTen (value : Binary64) (exponent : Int) : Nat → Option Binary64
  | 0 => some value
  | fuel + 1 =>
    if exponent.natAbs ≤ greatestPower then
      let power := Binary64.ofNat false (Nat.pow 10 exponent.natAbs)
      if 0 ≤ exponent then
        let product := value.scale power.magnitude (2 ^ 1074)
        if product.isInfinite then none else some product
      else some (value.scale (2 ^ 1074) power.magnitude)
    else if value.isZero then some value
    else if 0 ≤ exponent then none
    else
      let power := Binary64.ofNat false (Nat.pow 10 greatestPower)
      scaledByTen (value.scale (2 ^ 1074) power.magnitude) (exponent + greatestPower) fuel

/-- The floating-point number of a sign, a significand and an exponent. -/
def floatOf (cursor : Cursor) (negative : Bool) (significand : Nat) (exponent : Int) :
    Except Fault Json :=
  match scaledByTen (Binary64.ofNat false significand) exponent 8 with
  | none => .error (cursor.here .numberOutOfRange)
  | some value => .ok (.float (if negative then value.negate else value))

/-- The exponents that are told apart; a greater one counts as infinite. -/
def exponentBound : Nat := 2 ^ 31 - 1

/-- Reads an exponent behind its letter. -/
def readExponent (cursor : Cursor) (negative : Bool) (significand : Nat) (shift : Int) :
    Except Fault (Json × Cursor) :=
  let (down, cursor) : Bool × Cursor :=
    match cursor.rest with
    | '+' :: _ => (false, cursor.step)
    | '-' :: _ => (true, cursor.step)
    | _ => (false, cursor)
  match cursor.rest with
  | [] => .error (cursor.here .endInValue)
  | _ :: _ =>
    let (digits, behind) := takeDigits cursor
    if digits.isEmpty then .error (cursor.next .invalidNumber)
    else
      let value := Text.digitsValue 0 digits
      if exponentBound < value then
        if significand ≠ 0 ∧ !down then
          let fitting := digits.length - (digitsBeyond digits 0)
          .error ⟨.numberOutOfRange, ⟨cursor.place.line, cursor.place.column + fitting⟩⟩
        else .ok (.float (Binary64.zero negative), behind)
      else do
        let exponent : Int := if down then shift - value else shift + value
        let number ← floatOf behind negative significand exponent
        pure (number, behind)
where
  /-- The digits behind the one that exceeds the bound of exponents. -/
  digitsBeyond (digits : List Char) (value : Nat) : Nat :=
    match digits with
    | [] => 0
    | c :: rest =>
      let next := value * 10 + (c.toNat - 48)
      if exponentBound < next then rest.length else digitsBeyond rest next

/-- Reads what may follow the digits of a floating-point number: an exponent, or nothing. -/
def readScale (cursor : Cursor) (negative : Bool) (significand : Nat) (shift : Int) :
    Except Fault (Json × Cursor) :=
  match cursor.rest with
  | c :: _ =>
    if c = 'e' ∨ c = 'E' then readExponent cursor.step negative significand shift
    else do pure (← floatOf cursor negative significand shift, cursor)
  | [] => do pure (← floatOf cursor negative significand shift, cursor)

/-- Reads the decimal places behind the point. -/
def readPlaces (cursor : Cursor) (negative : Bool) (significand dropped : Nat) :
    Except Fault (Json × Cursor) :=
  let (digits, behind) := takeDigits cursor
  if digits.isEmpty then
    .error (cursor.next (if cursor.rest.isEmpty then .endInValue else .invalidNumber))
  else
    let (value, unread) :=
      if dropped = 0 then significandOf significand digits else (significand, digits.length)
    readScale behind negative value ((dropped : Int) - (digits.length - unread : Nat))

/-- A whole number, or the floating-point number for one outside 64 bits and for minus zero. -/
def wholeNumber (cursor : Cursor) (negative : Bool) (significand : Nat) :
    Except Fault (Json × Cursor) :=
  if !negative then .ok (.integer significand, cursor)
  else if significand = 0 ∨ 2 ^ 63 < significand then
    .ok (.float (Binary64.ofNat true significand), cursor)
  else .ok (.integer (-(significand : Int)), cursor)

/-- Reads a number behind its sign. -/
def readNumber (cursor : Cursor) (negative : Bool) : Except Fault (Json × Cursor) :=
  match cursor.rest with
  | [] => .error (cursor.here .endInValue)
  | first :: _ =>
    let (digits, behind) :=
      if first = '0' then (['0'], cursor.step) else takeDigits cursor
    if digits.isEmpty then .error (cursor.next .invalidNumber)
    else if first = '0' ∧ (behind.rest.head?.map Text.isDigit).getD false then
      .error (behind.next .invalidNumber)
    else
      let (significand, dropped) := significandOf 0 digits
      match behind.rest with
      | '.' :: _ => readPlaces behind.step negative significand dropped
      | c :: _ =>
        if c = 'e' ∨ c = 'E' then readExponent behind.step negative significand dropped
        else if dropped = 0 then wholeNumber behind negative significand
        else do pure (← floatOf behind negative significand dropped, behind)
      | [] =>
        if dropped = 0 then wholeNumber behind negative significand
        else do pure (← floatOf behind negative significand dropped, behind)

/-! ### Strings -/

/-- The value of a hexadecimal digit. -/
def hexValue? (c : Char) : Option Nat :=
  if '0' ≤ c ∧ c ≤ '9' then some (c.toNat - 48)
  else if 'a' ≤ c ∧ c ≤ 'f' then some (c.toNat - 87)
  else if 'A' ≤ c ∧ c ≤ 'F' then some (c.toNat - 55)
  else none

/-- The number of bytes of a text. -/
def byteCount (text : List Char) : Nat :=
  text.foldl (fun total c => total + c.utf8Size) 0

/-- Reads the four digits of a hexadecimal escape. -/
def readHex (cursor : Cursor) : Except Fault (Nat × Cursor) :=
  let failed : Fault :=
    if byteCount (cursor.rest.take 4) < 4 then
      ⟨.endInString, cursor.place.behindBytes 4 cursor.rest⟩
    else ⟨.invalidEscape, cursor.place.behindBytes 4 cursor.rest⟩
  match cursor.rest with
  | a :: b :: c :: d :: rest =>
    match hexValue? a, hexValue? b, hexValue? c, hexValue? d with
    | some first, some second, some third, some fourth =>
      .ok (((first * 16 + second) * 16 + third) * 16 + fourth,
        ⟨rest, ⟨cursor.place.line, cursor.place.column + 4⟩⟩)
    | _, _, _, _ => .error failed
  | _ => .error failed

/-- Reads the escape of a character by its code, which for a character beyond 16 bits consists of
two escapes. -/
def readCodeEscape (cursor : Cursor) : Except Fault (Char × Cursor) := do
  let (code, cursor) ← readHex cursor
  if 0xDC00 ≤ code ∧ code ≤ 0xDFFF then .error (cursor.here .loneSurrogate)
  else if code < 0xD800 ∨ 0xDBFF < code then pure (Char.ofNat code, cursor)
  else
    let cursor ← expectSecond cursor '\\'
    let cursor ← expectSecond cursor 'u'
    let (second, cursor) ← readHex cursor
    if second < 0xDC00 ∨ 0xDFFF < second then .error (cursor.here .loneSurrogate)
    else pure (Char.ofNat ((code - 0xD800) * 0x400 + (second - 0xDC00) + 0x10000), cursor)
where
  /-- Reads a character that has to introduce the second escape. -/
  expectSecond (cursor : Cursor) (expected : Char) : Except Fault Cursor :=
    match cursor.rest with
    | [] => .error (cursor.here .endInString)
    | c :: _ => if c = expected then .ok cursor.step else .error (cursor.next .endOfSurrogate)

/-- The character of an escape by one letter. -/
def letterEscape? (c : Char) : Option Char :=
  match c with
  | '"' => some '"'
  | '\\' => some '\\'
  | '/' => some '/'
  | 'b' => some '\x08'
  | 'f' => some '\x0c'
  | 'n' => some '\n'
  | 'r' => some '\r'
  | 't' => some '\t'
  | _ => none

/-- Reads a string behind its opening quote; the characters read so far are in reverse. The fuel
is the number of characters left. -/
def readCharacters (fuel : Nat) (cursor : Cursor) (read : List Char) :
    Except Fault (String × Cursor) :=
  match fuel, cursor.rest with
  | 0, _ => .error (cursor.here .endInString)
  | _, [] => .error (cursor.here .endInString)
  | fuel + 1, c :: _ =>
    if c = '"' then .ok (String.ofList read.reverse, cursor.step)
    else if c = '\\' then
      let cursor := cursor.step
      match cursor.rest with
      | [] => .error (cursor.here .endInString)
      | letter :: _ =>
        if letter = 'u' then do
          let (escaped, cursor) ← readCodeEscape cursor.step
          readCharacters fuel cursor (escaped :: read)
        else
          match letterEscape? letter with
          | some escaped => readCharacters fuel cursor.step (escaped :: read)
          | none => .error (cursor.next .invalidEscape)
    else if c.toNat < 0x20 then .error (cursor.next .controlCharacter)
    else readCharacters fuel cursor.step (c :: read)

/-- Reads a string behind its opening quote. -/
def readString (cursor : Cursor) : Except Fault (String × Cursor) :=
  readCharacters (cursor.rest.length + 1) cursor []

/-! ### Values -/

mutual

/-- Reads a value; `depth` is the number of arrays and objects that may still be opened. -/
def readValue (fuel depth : Nat) (cursor : Cursor) : Except Fault (Json × Cursor) :=
  match fuel with
  | 0 => .error (cursor.here .endInValue)
  | fuel + 1 =>
    let cursor := cursor.skip
    match cursor.rest with
    | [] => .error (cursor.next .endInValue)
    | 'n' :: _ => do pure (.null, ← readWord cursor.step "ull".toList)
    | 't' :: _ => do pure (.bool true, ← readWord cursor.step "rue".toList)
    | 'f' :: _ => do pure (.bool false, ← readWord cursor.step "alse".toList)
    | '-' :: _ => readNumber cursor.step true
    | '"' :: _ => do
      let (text, cursor) ← readString cursor.step
      pure (.string text, cursor)
    | '[' :: _ =>
      match depth with
      | 0 => .error (cursor.next .tooDeep)
      | depth + 1 => do
        let (elements, cursor) ← readElements fuel depth true cursor.step
        pure (.array elements, cursor)
    | '{' :: _ =>
      match depth with
      | 0 => .error (cursor.next .tooDeep)
      | depth + 1 => do
        let (members, cursor) ← readMembers fuel depth true cursor.step
        pure (ofMembers members, cursor)
    | c :: _ => if Text.isDigit c then readNumber cursor false
      else .error (cursor.next .expectedValue)

/-- Reads the elements of an array up to its closing bracket. -/
def readElements (fuel depth : Nat) (first : Bool) (cursor : Cursor) :
    Except Fault (List Json × Cursor) :=
  match fuel with
  | 0 => .error (cursor.here .endInList)
  | fuel + 1 =>
    let cursor := cursor.skip
    match cursor.rest with
    | [] => .error (cursor.next .endInList)
    | ']' :: _ => .ok ([], cursor.step)
    | c :: _ =>
      if first then do
        let (element, cursor) ← readValue fuel depth cursor
        let (elements, cursor) ← readElements fuel depth false cursor
        pure (element :: elements, cursor)
      else if c = ',' then
        let cursor := cursor.step.skip
        match cursor.rest with
        | [] => .error (cursor.next .endInValue)
        | ']' :: _ => .error (cursor.next .trailingComma)
        | _ :: _ => do
          let (element, cursor) ← readValue fuel depth cursor
          let (elements, cursor) ← readElements fuel depth false cursor
          pure (element :: elements, cursor)
      else .error (cursor.next .expectedListEnd)

/-- Reads the members of an object up to its closing brace. -/
def readMembers (fuel depth : Nat) (first : Bool) (cursor : Cursor) :
    Except Fault (List (String × Json) × Cursor) :=
  match fuel with
  | 0 => .error (cursor.here .endInObject)
  | fuel + 1 =>
    let cursor := cursor.skip
    match cursor.rest with
    | [] => .error (cursor.next .endInObject)
    | '}' :: _ => .ok ([], cursor.step)
    | c :: _ =>
      if first then
        if c = '"' then readMember fuel depth cursor
        else .error (cursor.next .nameNotString)
      else if c = ',' then
        let cursor := cursor.step.skip
        match cursor.rest with
        | [] => .error (cursor.next .endInValue)
        | '}' :: _ => .error (cursor.next .trailingComma)
        | '"' :: _ => readMember fuel depth cursor
        | _ :: _ => .error (cursor.next .nameNotString)
      else .error (cursor.next .expectedObjectEnd)

/-- Reads a member from the opening quote of its name on, and the members behind it. -/
def readMember (fuel depth : Nat) (cursor : Cursor) :
    Except Fault (List (String × Json) × Cursor) :=
  match fuel with
  | 0 => .error (cursor.here .endInObject)
  | fuel + 1 => do
    let (name, cursor) ← readString cursor.step
    let cursor := cursor.skip
    match cursor.rest with
    | [] => .error (cursor.next .endInObject)
    | ':' :: _ =>
      let (value, cursor) ← readValue fuel depth cursor.step
      let (members, cursor) ← readMembers fuel depth false cursor
      pure ((name, value) :: members, cursor)
    | _ :: _ => .error (cursor.next .expectedColon)

end

/-- How many arrays and objects may be open at once. -/
def greatestDepth : Nat := 127

/-- Reads a whole text as one value with nothing but spaces around it. -/
def read (text : String) : Except Fault Json := do
  let characters := text.toList
  let (value, cursor) ←
    readValue (4 * characters.length + 4) greatestDepth ⟨characters, ⟨1, 0⟩⟩
  let cursor := cursor.skip
  if cursor.rest.isEmpty then pure value else .error (cursor.next .trailingCharacters)

end AccessFeed.Json
