/-
This file reads the smallest parts of a TOML document: names, texts between
quotes, numbers, dates and times.

Every reader takes the characters from its part on and answers with what it has
read and the characters behind it.
-/

import AccessFeed.Binary64.Reader
import AccessFeed.Calendar.Date
import AccessFeed.Text.Numeral
import AccessFeed.Toml.Value

namespace AccessFeed.Toml

/-- What a reader answers. -/
abbrev Read (Part : Type) : Type := Option (Part × List Char)

/-- Whether a character is a control that may not stand in a document, a tab being none. -/
def isControl (c : Char) : Bool :=
  (c.toNat < 0x20 && c != '\t') || c.toNat == 0x7F

/-- Skips spaces and tabs. -/
def skipSpace (text : List Char) : List Char :=
  text.dropWhile fun c => c == ' ' || c == '\t'

/-- Skips a comment, if there is one, up to the end of its line. -/
def skipComment (text : List Char) : Option (List Char) :=
  match text with
  | '#' :: rest =>
    let comment := rest.takeWhile fun c => c != '\n' && c != '\r'
    if comment.any isControl then none else some (rest.drop comment.length)
  | other => some other

/-- Takes a line end, if there is one. -/
def lineEnd? : List Char → Option (List Char)
  | '\n' :: rest => some rest
  | '\r' :: '\n' :: rest => some rest
  | _ => none

/-- Skips spaces, comments and line ends, with fuel for the line ends. -/
def skipLinesWithin : Nat → List Char → Option (List Char)
  | 0, _ => none
  | fuel + 1, text =>
    match skipComment (skipSpace text) with
    | none => none
    | some rest =>
      match lineEnd? rest with
      | some behind => skipLinesWithin fuel behind
      | none => some rest

/-- Skips spaces, comments and line ends. -/
def skipLines (text : List Char) : Option (List Char) :=
  skipLinesWithin (text.length + 1) text

/-! ### Texts -/

/-- The value of a hexadecimal digit. -/
def hexValue? (c : Char) : Option Nat :=
  if '0' ≤ c ∧ c ≤ '9' then some (c.toNat - 48)
  else if 'a' ≤ c ∧ c ≤ 'f' then some (c.toNat - 87)
  else if 'A' ≤ c ∧ c ≤ 'F' then some (c.toNat - 55)
  else none

/-- The number of some hexadecimal digits. -/
def hexNumber? (digits : List Char) : Option Nat :=
  digits.foldlM (fun value c => (hexValue? c).map (value * 16 + ·)) 0

/-- The character of a code point, which must not be a surrogate. -/
def character? (code : Nat) : Option Char :=
  if code < 0xD800 ∨ (0xDFFF < code ∧ code < 0x110000) then some (Char.ofNat code) else none

/-- Reads the code point of an escape with a given number of digits. -/
def readCode (width : Nat) (text : List Char) : Read Char :=
  if text.length < width then none
  else
    match (hexNumber? (text.take width)).bind character? with
    | some c => some (c, text.drop width)
    | none => none

/-- Reads what stands behind a backslash. -/
def readEscape : List Char → Read Char
  | 'b' :: rest => some ('\x08', rest)
  | 't' :: rest => some ('\t', rest)
  | 'n' :: rest => some ('\n', rest)
  | 'f' :: rest => some ('\x0c', rest)
  | 'r' :: rest => some ('\r', rest)
  | '"' :: rest => some ('"', rest)
  | '\\' :: rest => some ('\\', rest)
  | 'u' :: rest => readCode 4 rest
  | 'U' :: rest => readCode 8 rest
  | _ => none

/-- Reads a text on one line between double quotes, from behind the first one; the characters read
are in reverse. -/
def readBasicWithin : Nat → List Char → List Char → Read String
  | 0, _, _ => none
  | _ + 1, _, [] => none
  | _ + 1, read, '"' :: rest => some (String.ofList read.reverse, rest)
  | fuel + 1, read, '\\' :: rest =>
    match readEscape rest with
    | some (c, behind) => readBasicWithin fuel (c :: read) behind
    | none => none
  | fuel + 1, read, c :: rest =>
    if isControl c then none else readBasicWithin fuel (c :: read) rest

/-- Reads a text on one line between single quotes, from behind the first one. -/
def readLiteral (text : List Char) : Read String :=
  let body := text.takeWhile fun c => c != '\'' && !isControl c
  match text.drop body.length with
  | '\'' :: rest => some (String.ofList body, rest)
  | _ => none

/-- The quotes at the beginning of a text, up to five. -/
def quotesAt (quote : Char) (text : List Char) : Nat :=
  ((text.take 5).takeWhile (· == quote)).length

/-- Skips blanks and line ends behind a backslash that ends a line. -/
def skipFolded : List Char → List Char
  | ' ' :: rest => skipFolded rest
  | '\t' :: rest => skipFolded rest
  | '\n' :: rest => skipFolded rest
  | '\r' :: '\n' :: rest => skipFolded rest
  | text => text

/-- Whether nothing but blanks is left of a line. -/
def lineIsOver (text : List Char) : Bool :=
  (lineEnd? (skipSpace text)).isSome

/-- Reads a text on several lines between threefold quotes, from behind the first ones; only double
quotes have escapes. Up to two quotes may stand right before the last ones. -/
def readLongWithin (quote : Char) : Nat → List Char → List Char → Read String
  | 0, _, _ => none
  | fuel + 1, read, text =>
    let quotes := quotesAt quote text
    if 3 ≤ quotes then
      some (String.ofList (List.replicate (quotes - 3) quote ++ read).reverse, text.drop quotes)
    else if 0 < quotes then
      readLongWithin quote fuel (List.replicate quotes quote ++ read) (text.drop quotes)
    else
      match lineEnd? text with
      | some behind => readLongWithin quote fuel ('\n' :: read) behind
      | none =>
        match text with
        | [] => none
        | c :: rest =>
          if c = '\\' ∧ quote = '"' then
            if lineIsOver rest then readLongWithin quote fuel read (skipFolded rest)
            else
              match readEscape rest with
              | some (escaped, behind) => readLongWithin quote fuel (escaped :: read) behind
              | none => none
          else if isControl c then none
          else readLongWithin quote fuel (c :: read) rest

/-- Reads a text on several lines, whose first line end is not part of it when nothing stands
before it. -/
def readLong (quote : Char) (text : List Char) : Read String :=
  readLongWithin quote (text.length + 1) [] ((lineEnd? text).getD text)

/-- Reads a text between quotes. -/
def readText (text : List Char) : Read String :=
  match text with
  | '"' :: '"' :: '"' :: rest => readLong '"' rest
  | '\'' :: '\'' :: '\'' :: rest => readLong '\'' rest
  | '"' :: rest => readBasicWithin (rest.length + 1) [] rest
  | '\'' :: rest => readLiteral rest
  | _ => none

/-! ### Names -/

/-- Whether a character may stand in a name without quotes. -/
def isBareChar (c : Char) : Bool :=
  ('a' ≤ c && c ≤ 'z') || ('A' ≤ c && c ≤ 'Z') || ('0' ≤ c && c ≤ '9') || c == '_' || c == '-'

/-- Reads a single name. -/
def readName (text : List Char) : Read String :=
  match text with
  | '"' :: '"' :: '"' :: _ => none
  | '\'' :: '\'' :: '\'' :: _ => none
  | '"' :: rest => readBasicWithin (rest.length + 1) [] rest
  | '\'' :: rest => readLiteral rest
  | _ =>
    let name := text.takeWhile isBareChar
    if name.isEmpty then none else some (String.ofList name, text.drop name.length)

/-- Reads names separated by points, with fuel for the names. -/
def readKeyWithin : Nat → List Char → Read (List String)
  | 0, _ => none
  | fuel + 1, text =>
    match readName (skipSpace text) with
    | none => none
    | some (name, rest) =>
      match skipSpace rest with
      | '.' :: behind =>
        match readKeyWithin fuel behind with
        | some (names, behind) => some (name :: names, behind)
        | none => none
      | behind => some ([name], behind)

/-- How many names a key has to stay below, and how deep values may lie within one another. -/
def nestingLimit : Nat := 80

/-- Reads names separated by points, of which there must not be too many. -/
def readKey (text : List Char) : Read (List String) :=
  match readKeyWithin (text.length + 1) text with
  | some (names, behind) => if names.length < nestingLimit then some (names, behind) else none
  | none => none

/-! ### Numbers and moments -/

/-- The digits of a number in which underscores may stand between two digits. -/
def plainDigits? (isDigit : Char → Bool) : List Char → Option (List Char)
  | [] => none
  | [c] => if isDigit c then some [c] else none
  | c :: '_' :: rest =>
    if isDigit c then (plainDigits? isDigit rest).map (c :: ·) else none
  | c :: rest => if isDigit c then (plainDigits? isDigit rest).map (c :: ·) else none

/-- The number of some digits in a base. -/
def number? (base : Nat) (digits : List Char) : Option Nat :=
  digits.foldlM
    (fun value c => (hexValue? c).bind fun digit =>
      if digit < base then some (value * base + digit) else none) 0

/-- A number in another base than ten. -/
def based? (base : Nat) (digits : List Char) : Option Int :=
  match (plainDigits? (fun c => (hexValue? c).isSome) digits).bind (number? base) with
  | some value => if value < 2 ^ 63 then some value else none
  | none => none

/-- The digits of a decimal number, which has no needless zero in front. -/
def wholeDigits? (text : List Char) : Option (List Char) :=
  match plainDigits? Text.isDigit text with
  | some ['0'] => some ['0']
  | some ('0' :: _) => none
  | other => other

/-- A sign and what stands behind it. -/
def splitSign : List Char → List Char × List Char
  | '+' :: rest => ([], rest)
  | '-' :: rest => (['-'], rest)
  | text => ([], text)

/-- A whole number. -/
def integer? (token : List Char) : Option Int :=
  match token with
  | '0' :: 'x' :: digits => based? 16 digits
  | '0' :: 'o' :: digits => based? 8 digits
  | '0' :: 'b' :: digits => based? 2 digits
  | _ =>
    let (sign, digits) := splitSign token
    match wholeDigits? digits with
    | none => none
    | some digits =>
      match Text.readInt64 (sign ++ digits) with
      | .ok value => some value
      | .error _ => none

/-- The exponent of a floating-point number, from its letter on. -/
def exponent? (text : List Char) : Option (List Char) :=
  match text with
  | [] => some []
  | _ :: rest =>
    let (sign, digits) := splitSign rest
    (plainDigits? Text.isDigit digits).map fun digits => 'e' :: sign ++ digits

/-- A floating-point number, with a point or an exponent. It must not be too large. -/
def float? (token : List Char) : Option Binary64 :=
  let (sign, body) := splitSign token
  if body = ['i', 'n', 'f'] then some (.infinity (sign = ['-']))
  else if body = ['n', 'a', 'n'] then some (.nan (sign = ['-']))
  else do
    let isMark (c : Char) : Bool := c == 'e' || c == 'E'
    let mantissa := body.takeWhile fun c => !isMark c
    let exponent ← exponent? (body.dropWhile fun c => !isMark c)
    let whole ← wholeDigits? (mantissa.takeWhile (· != '.'))
    let fraction ←
      match mantissa.dropWhile (· != '.') with
      | [] => some []
      | _ :: rest => (plainDigits? Text.isDigit rest).map ('.' :: ·)
    if fraction.isEmpty && exponent.isEmpty then none
    match Binary64.read (sign ++ whole ++ fraction ++ exponent) with
    | .ok value => if value.isInfinite && !value.isNegative then none else some value
    | .error _ => none

/-- Takes a number of so many digits. -/
def takeDigits? (width : Nat) (text : List Char) : Option (Nat × List Char) :=
  let digits := text.take width
  if digits.length = width ∧ digits.all Text.isDigit then
    some (Text.digitsValue 0 digits, text.drop width)
  else none

/-- Takes a character that has to stand there. -/
def takeMark? (mark : Char) (text : List Char) : Option (List Char) :=
  match text with
  | c :: rest => if c = mark then some rest else none
  | [] => none

/-- Takes a date. -/
def takeDate? (text : List Char) : Option (String × List Char) := do
  let (year, rest) ← takeDigits? 4 text
  let rest ← takeMark? '-' rest
  let (month, rest) ← takeDigits? 2 rest
  let rest ← takeMark? '-' rest
  let (day, rest) ← takeDigits? 2 rest
  let _ ← Calendar.Date.ofParts? year month day
  some (Text.paddedDecimal 4 year ++ "-" ++ Text.paddedDecimal 2 month ++ "-" ++
    Text.paddedDecimal 2 day, rest)

/-- Takes the fraction of a second, if there is one, without its last zeros. Digits behind the
ninth are left out. -/
def takeFraction? (text : List Char) : Option (String × List Char) :=
  match text with
  | '.' :: rest =>
    let digits := rest.takeWhile Text.isDigit
    let shown := ((digits.take 9).reverse.dropWhile (· == '0')).reverse
    if digits.isEmpty then none
    else some ((if shown.isEmpty then "" else "." ++ String.ofList shown), rest.drop digits.length)
  | _ => some ("", text)

/-- Takes a time of day. -/
def takeTime? (text : List Char) : Option (String × List Char) := do
  let (hour, rest) ← takeDigits? 2 text
  let rest ← takeMark? ':' rest
  let (minute, rest) ← takeDigits? 2 rest
  let rest ← takeMark? ':' rest
  let (second, rest) ← takeDigits? 2 rest
  let (fraction, rest) ← takeFraction? rest
  if 23 < hour ∨ 59 < minute ∨ 60 < second then none
  else
    some (Text.paddedDecimal 2 hour ++ ":" ++ Text.paddedDecimal 2 minute ++ ":" ++
      Text.paddedDecimal 2 second ++ fraction, rest)

/-- Takes an offset from universal time, if there is one. The offset of nothing is written with a
plus. -/
def takeOffset? (text : List Char) : Option (String × List Char) :=
  match text with
  | [] => some ("", [])
  | 'Z' :: rest => some ("Z", rest)
  | 'z' :: rest => some ("Z", rest)
  | sign :: rest =>
    if sign = '+' ∨ sign = '-' then do
      let (hour, rest) ← takeDigits? 2 rest
      let rest ← takeMark? ':' rest
      let (minute, rest) ← takeDigits? 2 rest
      if 23 < hour ∨ 59 < minute then none
      else
        let shown := if hour = 0 ∧ minute = 0 then '+' else sign
        some (String.singleton shown ++ Text.paddedDecimal 2 hour ++ ":" ++
          Text.paddedDecimal 2 minute, rest)
    else none

/-- A date, a time, or both, in their usual written form. -/
def moment? (token : List Char) : Option String :=
  match takeDate? token with
  | none =>
    match takeTime? token with
    | some (time, []) => some time
    | _ => none
  | some (date, []) => some date
  | some (date, mark :: rest) =>
    if mark = 'T' ∨ mark = 't' ∨ mark = ' ' then do
      let (time, rest) ← takeTime? rest
      let (offset, rest) ← takeOffset? rest
      if rest.isEmpty then some (date ++ "T" ++ time ++ offset) else none
    else none

/-- Whether a character may stand in a value without quotes. -/
def isTokenChar (c : Char) : Bool :=
  isBareChar c || c == '+' || c == '.' || c == ':'

/-- A value without quotes. A date may be separated from a time by a space. -/
def splitToken (text : List Char) : List Char × List Char :=
  let token := text.takeWhile isTokenChar
  let rest := text.drop token.length
  match (takeDate? token).map Prod.snd, rest with
  | some [], ' ' :: first :: behind =>
    if Text.isDigit first then
      let time := (first :: behind).takeWhile isTokenChar
      (token ++ ' ' :: time, (first :: behind).drop time.length)
    else (token, rest)
  | _, _ => (token, rest)

/-- Reads a value without quotes. -/
def readPlain (text : List Char) : Read Value :=
  let (token, rest) := splitToken text
  if token = ['t', 'r', 'u', 'e'] then some (.flag true, rest)
  else if token = ['f', 'a', 'l', 's', 'e'] then some (.flag false, rest)
  else
    match integer? token with
    | some value => some (.integer value, rest)
    | none =>
      match float? token with
      | some value => some (.float value, rest)
      | none => (moment? token).map fun written => (.moment written, rest)

end AccessFeed.Toml
