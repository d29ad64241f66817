/-
This file reads the addresses of servers written as URLs.

Blanks and controls around a URL do not count, nor do tabs and line ends inside
it. The scheme stands before the first colon. Two slashes begin the authority,
which is a user with an optional password before the last at sign, a host that is
a name or an IPv6 address in brackets, and a number; then comes the path, which
may begin with a backslash behind a number and in which the segments of one and of
two dots are carried out, and the query up to the fragment. A path without a
leading slash has no authority.
-/

import AccessFeed.Text.Letters
import AccessFeed.Text.Numeral

namespace AccessFeed.Remote

/-- A URL of a scheme without rules of its own. -/
structure Url where
  scheme : String
  userName : List Char
  password : Option (List Char)
  host : Option (List Char)
  number : Option Nat
  path : List Char
  query : List Char
deriving DecidableEq, Repr

namespace Url

/-- Whether a character is a control of ASCII or a space. -/
def isPadding (c : Char) : Bool := c.toNat ≤ 0x20

/-- A text without padding around it and without tabs and line ends inside. -/
def cleaned (source : List Char) : List Char :=
  let inner := ((source.dropWhile isPadding).reverse.dropWhile isPadding).reverse
  inner.filter fun c => c != '\t' && c != '\n' && c != '\r'

/-- Whether a character is an ASCII letter. -/
def isLetter (c : Char) : Bool :=
  ('a' ≤ c && c ≤ 'z') || ('A' ≤ c && c ≤ 'Z')

/-- Whether a character may stand in a scheme behind the first. -/
def isSchemeChar (c : Char) : Bool :=
  isLetter c || Text.isDigit c || c == '+' || c == '-' || c == '.'

/-- The scheme of a URL in lower case, and what stands behind its colon. -/
def scheme? (source : List Char) : Option (String × List Char) :=
  match source with
  | [] => none
  | first :: _ =>
    match isLetter first, source.dropWhile isSchemeChar with
    | true, ':' :: rest =>
      some (Text.lowered (String.ofList (source.takeWhile isSchemeChar)), rest)
    | _, _ => none

/-- Whether a character ends the authority. -/
def endsAuthority (c : Char) : Bool :=
  c == '/' || c == '?' || c == '#'

/-- The part of an authority before its last at sign, if there is one, and the part behind. -/
def splitUser (authority : List Char) : Option (List Char) × List Char :=
  if authority.contains '@' then
    let host := (authority.reverse.takeWhile (· != '@')).reverse
    (some (authority.take (authority.length - host.length - 1)), host)
  else (none, authority)

/-- The user name and the password, which stands behind the first colon and is not empty. -/
def credentials (user : List Char) : List Char × Option (List Char) :=
  match user.dropWhile (· != ':') with
  | ':' :: c :: rest => (user.takeWhile (· != ':'), some (c :: rest))
  | _ => (user.takeWhile (· != ':'), none)

/-- A host up to a colon outside of brackets, and what stands from that colon on. -/
def splitHost (bracketed : Bool) : List Char → List Char × List Char
  | [] => ([], [])
  | c :: rest =>
    if c == ':' && !bracketed then ([], c :: rest)
    else
      let inside := if c == '[' then true else if c == ']' then false else bracketed
      let (host, behind) := splitHost inside rest
      (c :: host, behind)

/-- The characters that no host name has. -/
def forbiddenInHost : List Char :=
  ['\x00', ' ', '#', '/', ':', '<', '>', '?', '@', '[', '\\', ']', '^', '|']

/-- A text cut at every occurrence of a character. -/
def cutAt (mark : Char) : List Char → List (List Char)
  | [] => [[]]
  | c :: rest =>
    match cutAt mark rest with
    | [] => [[c]]
    | piece :: pieces => if c == mark then [] :: piece :: pieces else (c :: piece) :: pieces

/-- Whether a character is a hexadecimal digit. -/
def isHexDigit (c : Char) : Bool :=
  Text.isDigit c || ('a' ≤ c && c ≤ 'f') || ('A' ≤ c && c ≤ 'F')

/-- Whether a text is one number of an IPv4 address. -/
def isOctet (piece : List Char) : Bool :=
  !piece.isEmpty && piece.all Text.isDigit && piece.length ≤ 3 &&
    (piece.length == 1 || piece.head? != some '0') && Text.digitsValue 0 piece ≤ 255

/-- Whether a text is an IPv4 address. -/
def isIPv4 (source : List Char) : Bool :=
  let pieces := cutAt '.' source
  pieces.length == 4 && pieces.all isOctet

/-- How many of the groups of an IPv6 address the pieces of it stand for, if they are any. -/
def groups? : List (List Char) → Option Nat
  | [] => some 0
  | [piece] =>
    if isIPv4 piece then some 2
    else if !piece.isEmpty && piece.length ≤ 4 && piece.all isHexDigit then some 1
    else none
  | piece :: rest =>
    if !piece.isEmpty && piece.length ≤ 4 && piece.all isHexDigit then
      (groups? rest).map (· + 1)
    else none

/-- A text before and behind its first two colons in a row. -/
def splitColons : List Char → Option (List Char × List Char)
  | ':' :: ':' :: rest => some ([], rest)
  | [] => none
  | c :: rest => (splitColons rest).map fun parts => (c :: parts.1, parts.2)

/-- The groups of a part of an IPv6 address that may be empty. -/
def groupsOf? (part : List Char) : Option Nat :=
  if part.isEmpty then some 0 else groups? (cutAt ':' part)

/-- Whether a text is an IPv6 address: eight groups, of which two colons stand for at least one. -/
def isIPv6 (source : List Char) : Bool :=
  match splitColons source with
  | none => groupsOf? source == some 8
  | some (before, behind) =>
    match groupsOf? before, groupsOf? behind with
    | some first, some second => first + second ≤ 7 && !before.contains '.'
    | _, _ => false

/-- A host, if it may be one; the empty host is none. -/
def readHost (source : List Char) : Option (Option (List Char)) :=
  match source with
  | [] => some none
  | '[' :: inner =>
    if inner.getLast? == some ']' && isIPv6 inner.dropLast then some (some inner.dropLast) else none
  | _ => if source.any forbiddenInHost.contains then none else some (some source)

/-- The number behind a host and a colon, which may be left out, and what stands behind it: nothing,
or a path that begins with a backslash. -/
def readNumber (source : List Char) : Option (Option Nat × List Char) :=
  let digits := source.takeWhile Text.isDigit
  let number := Text.digitsValue 0 digits
  if 65535 < number then none
  else
    match source.drop digits.length with
    | [] => some (if digits.isEmpty then none else some number, [])
    | '\\' :: rest => some (if digits.isEmpty then none else some number, '\\' :: rest)
    | _ => none

/-- Whether a segment of a path stands for the segment before. -/
def isDot (segment : List Char) : Bool :=
  [".", "%2e"].contains (Text.lowered (String.ofList segment))

/-- Whether a segment of a path leads back by one segment. -/
def isDoubleDot (segment : List Char) : Bool :=
  ["..", ".%2e", "%2e.", "%2e%2e"].contains (Text.lowered (String.ofList segment))

/-- Whether a segment of a path is a letter with a colon or a bar, which could be a drive. -/
def isDrive : List Char → Bool
  | [letter, mark] => isLetter letter && (mark == ':' || mark == '|')
  | _ => false

/-- The segments in front of a segment of two dots that it leaves, the last one first. What could be
a drive stays. -/
def leftBehind : List (List Char) → List (List Char)
  | segment :: rest => if isDrive segment then segment :: rest else rest
  | [] => []

/-- The segments of a path with the dots carried out, `before` being those in front, last first. -/
def resolve (before : List (List Char)) : List (List Char) → List (List Char)
  | [] => before.reverse
  | [segment] =>
    if isDoubleDot segment then ([] :: leftBehind before).reverse
    else if isDot segment then ([] :: before).reverse
    else (segment :: before).reverse
  | segment :: rest =>
    if isDoubleDot segment then resolve (leftBehind before) rest
    else if isDot segment then resolve before rest
    else resolve (segment :: before) rest

/-- A path with its dots carried out. -/
def resolved (path : List Char) : List Char :=
  match path with
  | '/' :: rest => (resolve [] (cutAt '/' rest)).flatMap ('/' :: ·)
  | _ => path

/-- The path and the query of what stands behind the authority. -/
def pathAndQuery (source : List Char) : List Char × List Char :=
  let source := source.takeWhile (· != '#')
  (source.takeWhile (· != '?'), (source.dropWhile (· != '?')).drop 1)

/-- Reads what stands behind the two slashes. -/
def readAuthority (scheme : String) (source : List Char) : Option Url :=
  let (user, place) := splitUser (source.takeWhile fun c => !endsAuthority c)
  let (host, colon) := splitHost false place
  let behind := source.dropWhile fun c => !endsAuthority c
  let (userName, password) := credentials (user.getD [])
  match readHost host, readNumber (colon.drop 1) with
  | some host, some (number, beginning) =>
    let (path, query) :=
      pathAndQuery (if beginning.isEmpty then behind else '/' :: beginning ++ behind)
    let named := !userName.isEmpty || password.isSome
    let atSignAlone := user == some [] && place.isEmpty && !behind.isEmpty
    if host.isNone && (!colon.isEmpty || named || atSignAlone) then none
    else some ⟨scheme, userName, password, host, number, resolved path, query⟩
  | _, _ => none

/-- Reads a URL. -/
def read (source : String) : Option Url :=
  match scheme? (cleaned source.toList) with
  | none => none
  | some (scheme, '/' :: '/' :: rest) => readAuthority scheme rest
  | some (scheme, rest) =>
    let (path, query) := pathAndQuery rest
    some ⟨scheme, [], none, none, none, resolved path, query⟩

/-- The bytes of a text in which a percent sign and two digits stand for a byte. -/
def percentDecoded : List Char → List UInt8
  | '%' :: high :: low :: rest =>
    if isHexDigit high && isHexDigit low then
      (UInt8.ofNat (digit high * 16 + digit low)) :: percentDecoded rest
    else
      (String.ofList ['%']).toUTF8.toList ++ percentDecoded (high :: low :: rest)
  | c :: rest => (String.ofList [c]).toUTF8.toList ++ percentDecoded rest
  | [] => []
where
  /-- The value of a hexadecimal digit. -/
  digit (c : Char) : Nat :=
    if Text.isDigit c then c.toNat - 48 else (Text.lowerAscii c).toNat - 87

/-- The value of a name in the query, the last one of that name. -/
def queried? (url : Url) (name : String) : Option (List UInt8) :=
  let pairs := (cutAt '&' url.query).filter fun piece => !piece.isEmpty
  let decode (part : List Char) : List UInt8 :=
    percentDecoded (part.map fun c => if c == '+' then ' ' else c)
  ((pairs.map fun piece =>
    (decode (piece.takeWhile (· != '=')), decode ((piece.dropWhile (· != '=')).drop 1))).reverse.find?
      fun pair => pair.1 == name.toUTF8.toList).map Prod.snd

end Url

end AccessFeed.Remote
