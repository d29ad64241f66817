/-
This file runs the program once its arguments and its surroundings are known.

The arguments come first, then the settings, which are read and checked, then the
archive. A summary is then made from the archive alone; otherwise the pipeline
needs the connection to its server. The first step that fails ends the program.
-/

import AccessFeed.Archive.Opening
import AccessFeed.Archive.Summary
import AccessFeed.Command.Arguments
import AccessFeed.Json.Printer
import AccessFeed.Remote.Connection
import AccessFeed.Settings.Check
import AccessFeed.Settings.Layout

namespace AccessFeed.Command

open Archive (DailySummary Disk)
open Calendar (Instant Zone)

/-- What the program came to. -/
inductive Completion
  | told (text : String)
  | summarized (summary : DailySummary)
  | serving (link : Remote.Link)
  | misused (fault : ArgumentFault)
  | failed (cause : String)
deriving Repr

namespace Completion

/-- The exit code of the program. -/
def exitCode : Completion → Nat
  | .misused _ => 2
  | .failed _ => 1
  | _ => 0

/-- What the program writes to its output. -/
def output : Completion → String
  | .told text => shownText text
  | .summarized summary => summary.toJson.indented
  | _ => ""

/-- What the program complains of. -/
def complaint : Completion → String
  | .misused fault => shownText ("error: " ++ fault.message)
  | .failed cause => "Error: " ++ cause
  | _ => ""

end Completion

/-- What surrounds the program: files and variables, the archives on disk, the clock, and what
dialling a server leads to. -/
structure Surroundings where
  settings : Settings.Surroundings
  disk : Disk
  now : Instant
  dial : List Remote.Address → Remote.Dialled

namespace Surroundings

/-- The settings that the arguments ask for. -/
def load (surroundings : Surroundings) (arguments : Arguments) : Except String Settings :=
  match Settings.load surroundings.settings arguments.configPath with
  | .ok json => .ok (.ofJson json)
  | .error _ => .error ("Failed to load configuration from " ++ arguments.configPath)

/-- The summary of a day, or the connection to the server when none is asked for. -/
def work (surroundings : Surroundings) (settings : Settings) (arguments : Arguments)
    (zones : List Zone) : Except Failure Completion := do
  settings.check zones
  let zone ← settings.zone zones
  let archive ← Archive.openFor surroundings.disk settings.storage surroundings.now
  match arguments.summaryDate with
  | some date => (archive.summary zone date).1.map .summarized
  | none => (Remote.Link.connect settings.server surroundings.dial).map .serving

/-- The paths that matter for the settings, given the arguments: those on the way to the file and to
the one that stands in for it. -/
def documentPaths (surroundings : Settings.Surroundings) (arguments : List String) : List String :=
  match Arguments.read arguments (surroundings.named? Settings.pathVariable) with
  | .ok arguments =>
    let path := arguments.configPath
    Files.waysTo path ++ (Settings.Surroundings.extended? path).toList
  | .error _ => []

/-- The paths that matter for the archive, given the arguments: those on the way to it. -/
def archivePaths (surroundings : Settings.Surroundings) (arguments : List String) : List String :=
  match Arguments.read arguments (surroundings.named? Settings.pathVariable) with
  | .error _ => []
  | .ok arguments =>
    match Settings.load surroundings arguments.configPath with
    | .error _ => []
    | .ok json =>
      ((Settings.ofJson json).storage.path.map fun path =>
        Files.waysTo (Disk.inside path Disk.innerFolder)).getD []

/-- Runs the program with given arguments where there are some zones. -/
def run (surroundings : Surroundings) (arguments : List String)
    (zones : List Zone := Zone.database) : Completion :=
  let environment := surroundings.settings.named? Settings.pathVariable
  match Arguments.read arguments environment with
  | .error .help => .told (helpText environment)
  | .error .version => .told versionText
  | .error (.fault fault) => .misused fault
  | .ok arguments =>
    match surroundings.load arguments with
    | .error cause => .failed cause
    | .ok settings =>
      match surroundings.work settings arguments zones with
      | .ok completion => completion
      | .error failure => .failed failure.message

end Surroundings

end AccessFeed.Command
