/-
This file reads the arguments of the command line.

An option with a value takes it from behind an equals sign or from the next
argument, and a short one also from the characters behind its letter. A value is
checked when the argument behind it has been looked at, so an unknown argument is
noticed before a bad value in front of it. After two hyphens alone nothing is an
option any more, and no argument may be anything but an option.
-/

import AccessFeed.Calendar.Scan
import AccessFeed.Command.Terminal
import AccessFeed.Settings.Source

namespace AccessFeed.Command

open Calendar (Date)

/-- The options of the command line. -/
inductive Switch
  | config
  | jsonLogs
  | summary
  | help
  | version
deriving DecidableEq, Repr

namespace Switch

/-- All options, in the order in which they are explained. -/
def all : List Switch := [.config, .jsonLogs, .summary, .help, .version]

/-- The long name of an option. -/
def longName : Switch → String
  | .config => "config"
  | .jsonLogs => "json-logs"
  | .summary => "summary"
  | .help => "help"
  | .version => "version"

/-- The letter of an option. -/
def letter? : Switch → Option Char
  | .config => some 'c'
  | .jsonLogs => none
  | .summary => none
  | .help => some 'h'
  | .version => some 'V'

/-- How the value of an option is called, if it has one. -/
def valueName? : Switch → Option String
  | .config => some "CONFIG"
  | .jsonLogs => none
  | .summary => some "YYYY-MM-DD"
  | .help => none
  | .version => none

/-- What an option does. -/
def purpose : Switch → String
  | .config => "Configuration file layered over the built-in defaults"
  | .jsonLogs => "Emit logs as JSON"
  | .summary => "Print the access summary of this day as JSON and exit"
  | .help => "Print help"
  | .version => "Print version"

/-- How the value of an option follows its name in messages. -/
def valueText (switch : Switch) : String :=
  match switch.valueName? with
  | some value => " <" ++ value ++ ">"
  | none => ""

/-- An option as messages name it. -/
def display (switch : Switch) : String :=
  "--" ++ switch.longName ++ switch.valueText

/-- The option with a long name. -/
def ofLongName? (name : String) : Option Switch :=
  all.find? fun switch => switch.longName == name

/-- The option with a letter. -/
def ofLetter? (letter : Char) : Option Switch :=
  all.find? fun switch => switch.letter? == some letter

end Switch

/-- What is wrong with the arguments. -/
inductive ArgumentFault
  | missingValue (switch : Switch)
  | invalidValue (value : String) (switch : Switch) (cause : String)
  | repeated (switch : Switch)
  | unexpected (argument : String)
  | unexpectedValue (value : String) (switch : Switch)
deriving DecidableEq, Repr

/-- The wording of what is wrong with the arguments, as a terminal takes it. -/
def ArgumentFault.message : ArgumentFault → String
  | .missingValue switch =>
    "a value is required for '" ++ switch.display ++ "' but none was supplied"
  | .invalidValue value switch cause =>
    "invalid value '" ++ boldText value ++ "' for '" ++ switch.display ++ "': " ++ cause
  | .repeated switch => "the argument '" ++ switch.display ++ "' cannot be used multiple times"
  | .unexpected argument => "unexpected argument '" ++ boldText argument ++ "' found"
  | .unexpectedValue value switch =>
    "unexpected value '" ++ boldText value ++ "' for '" ++ switch.display ++
      "' found; no more were expected"

/-- Why reading the arguments ends before the last of them. -/
inductive ArgumentStop
  | help
  | version
  | fault (fault : ArgumentFault)
deriving DecidableEq, Repr

/-- What the arguments have said so far. An option still waits to be settled until the argument
behind its value has been looked at. -/
structure Heard where
  config : Option String := none
  jsonLogs : Bool := false
  summary : Option Date := none
  waiting : Option (Switch × Option String) := none
  optionsOver : Bool := false
deriving DecidableEq, Repr

namespace Heard

/-- Ends the reading with a fault. -/
def refuse {Value : Type} (fault : ArgumentFault) : Except ArgumentStop Value :=
  .error (.fault fault)

/-- Settles an option with its value; the values of options without any do not count. -/
def accept (heard : Heard) (switch : Switch) (value : String) : Except ArgumentStop Heard :=
  match switch with
  | .config =>
    if heard.config.isSome then refuse (.repeated switch)
    else .ok { heard with config := some value }
  | .summary =>
    if heard.summary.isSome then refuse (.repeated switch)
    else
      match Date.read value with
      | .ok date => .ok { heard with summary := some date }
      | .error fault => refuse (.invalidValue value switch fault.message)
  | .jsonLogs =>
    if heard.jsonLogs then refuse (.repeated switch) else .ok { heard with jsonLogs := true }
  | .help => .error .help
  | .version => .error .version

/-- Settles the option that waits, which has to have its value by now. -/
def settle (heard : Heard) : Except ArgumentStop Heard :=
  match heard.waiting with
  | none => .ok heard
  | some (switch, none) => refuse (.missingValue switch)
  | some (switch, some value) => { heard with waiting := none }.accept switch value

/-- Hears an option, with the value attached to it. -/
def option (heard : Heard) (switch : Switch) (attached : Option String) :
    Except ArgumentStop Heard := do
  let heard ← heard.settle
  match switch.valueName?, attached with
  | none, _ => heard.accept switch ""
  | some _, some value => heard.accept switch value
  | some _, none => pure { heard with waiting := some (switch, none) }

/-- Hears an argument that begins with two hyphens, the characters behind them being `word`. -/
def longOption (heard : Heard) (word : List Char) : Except ArgumentStop Heard :=
  let name := String.ofList (word.takeWhile (· != '='))
  let attached :=
    match word.dropWhile (· != '=') with
    | _ :: value => some (String.ofList value)
    | [] => none
  match Switch.ofLongName? name with
  | none => refuse (.unexpected ("--" ++ name))
  | some switch =>
    match switch.valueName?, attached with
    | none, some value => refuse (.unexpectedValue value switch)
    | _, _ => heard.option switch attached

/-- Hears the letters behind one hyphen. -/
def letters (heard : Heard) : List Char → Except ArgumentStop Heard
  | [] => .ok heard
  | letter :: rest =>
    match Switch.ofLetter? letter with
    | none => refuse (.unexpected (String.ofList ['-', letter]))
    | some switch =>
      match switch.valueName?, rest with
      | none, _ => (heard.option switch none).bind fun heard => heard.letters rest
      | some _, [] => heard.option switch none
      | some _, '=' :: value => heard.option switch (some (String.ofList value))
      | some _, value => heard.option switch (some (String.ofList value))

/-- Hears an argument that is no option: the value of the option that waits for one. -/
def word (heard : Heard) (argument : String) : Except ArgumentStop Heard :=
  match heard.waiting with
  | some (switch, none) => .ok { heard with waiting := some (switch, some argument) }
  | _ => refuse (.unexpected argument)

/-- Hears the next argument. -/
def next (heard : Heard) (argument : String) : Except ArgumentStop Heard :=
  if heard.optionsOver then refuse (.unexpected argument)
  else
    match argument.toList with
    | ['-', '-'] => .ok { heard with optionsOver := true }
    | '-' :: '-' :: rest => heard.longOption rest
    | ['-'] => heard.word argument
    | '-' :: rest => heard.letters rest
    | _ => heard.word argument

end Heard

/-- What the program is asked to do. -/
structure Arguments where
  configPath : String
  jsonLogs : Bool
  summaryDate : Option Date
deriving DecidableEq, Repr

/-- Reads the arguments. Where they name no configuration the environment may do so. -/
def Arguments.read (arguments : List String) (environment : Option String) :
    Except ArgumentStop Arguments := do
  let heard ← arguments.foldlM Heard.next {}
  let heard ← heard.settle
  pure
    { configPath := (heard.config.orElse fun _ => environment).getD Settings.defaultPath
      jsonLogs := heard.jsonLogs
      summaryDate := heard.summary }

/-! ### Help -/

/-- The name of the program. -/
def programName : String := "access-event-stream"

/-- The version of the program. -/
def programVersion : String := "0.3.0"

/-- What the program is. -/
def programPurpose : String := "Access event stream consumer"

/-- The answer to a question for the version. -/
def versionText : String := programName ++ " " ++ programVersion

/-- What stands in front of the name of an option in the help: its letter, or the room for one. -/
def Switch.lead (switch : Switch) : String :=
  match switch.letter? with
  | some letter => String.ofList ['-', letter, ',', ' ']
  | none => "    "

/-- The width of an option as the help names it. -/
def Switch.headingWidth (switch : Switch) : Nat :=
  switch.lead.length + switch.display.length

/-- The column of the help in which the purposes of the options begin. -/
def purposeColumn : Nat :=
  2 + (Switch.all.map Switch.headingWidth).foldl max 0 + 2

/-- A number of blanks. -/
def blanks (count : Nat) : String :=
  String.ofList (List.replicate count ' ')

/-- What the help says of the path of the configuration, given what the environment says of it; a
line of the path after the first begins in the column of the purposes. -/
def pathNote (environment : Option String) : String :=
  " [env: " ++ Settings.pathVariable ++ "=" ++
    (environment.getD "").replace "\n" ("\n" ++ blanks purposeColumn) ++ "] [default: " ++
    Settings.defaultPath ++ "]"

/-- The line of an option in the help, given what the environment says of the configuration. -/
def Switch.helpLine (environment : Option String) (switch : Switch) : String :=
  "  " ++ switch.lead ++ boldText ("--" ++ switch.longName) ++ switch.valueText ++
    blanks (purposeColumn - 2 - switch.headingWidth) ++ switch.purpose ++
    match switch with
    | .config => pathNote environment
    | _ => ""

/-- The answer to a question for help, as a terminal takes it. -/
def helpText (environment : Option String) : String :=
  "\n".intercalate
    ([programPurpose, "", "Usage: " ++ programName ++ " [OPTIONS]", "", "Options:"] ++
      Switch.all.map (Switch.helpLine environment))

end AccessFeed.Command
