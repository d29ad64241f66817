/-
This file says what is left of a text on an output that is no terminal.

A terminal takes some characters as commands: single control characters, and
sequences that begin with the escape character. Elsewhere neither is shown, nor is
what a sequence that was left open would take with it. Blanks that are control
characters are shown even inside a sequence, and the characters behind such a
blank are shown with it, up to the next control character; then the sequence goes
on where it was.
-/

namespace AccessFeed.Command

/-- The part of a control sequence that a text is in, or none. -/
inductive ControlPart
  | none
  | escape
  | shortSequence
  | parameters
  | command
  | deviceOpening
  | deviceParameters
  | deviceSigns
  | message
deriving DecidableEq, Repr

/-- What has been read of a text: the part of a sequence it is in, and whether characters are shown
all the same since a blank was. -/
structure ShownPart where
  part : ControlPart := .none
  showing : Bool := false
deriving DecidableEq, Repr

/-- The character that begins sequences. -/
def escapeCharacter : Char := '\x1b'

/-- The characters that end every sequence. -/
def cancelCharacters : List Char := ['\x18', '\x1a']

/-- The character that ends commands to the terminal. -/
def bellCharacter : Char := '\x07'

/-- The byte that ends messages; it counts as one also among the bytes of another character. -/
def terminatorByte : UInt8 := 0x9c

/-- The blanks among the control characters that are shown. -/
def blankControls : List Char := ['\t', '\n', '\x0c', '\r']

/-- Whether a character lies between two others, which count. -/
def liesBetween (first last c : Char) : Bool :=
  first ≤ c && c ≤ last

namespace ControlPart

/-- The part of a sequence that the character behind its escape begins. -/
def behindEscape (c : Char) : ControlPart :=
  if liesBetween ' ' '/' c then .shortSequence
  else if c = '[' then .parameters
  else if c = ']' then .command
  else if c = 'P' then .deviceOpening
  else if c = 'X' || c = '^' || c = '_' then .message
  else if liesBetween '0' '~' c then .none
  else .escape

/-- The part of a device sequence behind a character of its signs or parameters, if it begins
another one. -/
def behindDeviceSign (part : ControlPart) (c : Char) : ControlPart :=
  if liesBetween '@' '~' c then .message
  else if liesBetween ' ' '/' c then .deviceSigns
  else if liesBetween '0' '?' c then
    match part with
    | .deviceOpening => .deviceParameters
    | .deviceParameters => if c ≤ ';' then .deviceParameters else .message
    | _ => .message
  else part

/-- The part of a sequence behind a character. -/
def next (part : ControlPart) (c : Char) : ControlPart :=
  if c = escapeCharacter then .escape
  else if cancelCharacters.contains c then .none
  else
    match part with
    | .none => .none
    | .escape => behindEscape c
    | .shortSequence => if liesBetween '0' '~' c then .none else .shortSequence
    | .parameters => if liesBetween '@' '~' c then .none else .parameters
    | .command => if c = bellCharacter then .none else .command
    | .message =>
      if (String.utf8EncodeChar c).contains terminatorByte then .none else .message
    | device => behindDeviceSign device c

/-- Whether a character is shown in a part of a sequence. -/
def shows (part : ControlPart) (c : Char) : Bool :=
  match part with
  | .none => blankControls.contains c || (' ' ≤ c && c != '\x7f')
  | .escape => blankControls.contains c
  | .shortSequence => blankControls.contains c
  | .parameters => blankControls.contains c
  | _ => false

end ControlPart

namespace ShownPart

/-- Whether a character is shown. -/
def shows (reading : ShownPart) (c : Char) : Bool :=
  (if reading.showing then ControlPart.none else reading.part).shows c

/-- What has been read with one more character. One that takes several bytes ends the sequence when
it is shown. -/
def next (reading : ShownPart) (c : Char) : ShownPart :=
  if reading.shows c then ⟨if c ≤ '\x7f' then reading.part else .none, true⟩
  else ⟨reading.part.next c, false⟩

/-- The characters that are shown of those to come. -/
def shownOf (reading : ShownPart) : List Char → List Char
  | [] => []
  | c :: rest =>
    let shown := shownOf (reading.next c) rest
    if reading.shows c then c :: shown else shown

end ShownPart

/-- What is shown of a text on an output that is no terminal. -/
def shownText (text : String) : String :=
  String.ofList (ShownPart.shownOf {} text.toList)

/-- A text that a terminal would show in bold letters. -/
def boldText (text : String) : String :=
  "\x1b[1m" ++ text ++ "\x1b[0m"

end AccessFeed.Command
