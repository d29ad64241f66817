/-
This file is the command line of the program: it reads the variables, the files
and the clock, runs the program on them, and writes what it came to.
-/

import AccessFeed.Command.Run
import Std.Time.DateTime.Timestamp

namespace AccessFeed.Command

/-- The variables in a listing in which each is ended by a zero character. -/
def variablesOf (listing : String) : List (String × String) :=
  (listing.splitOn "\x00").filterMap fun entry =>
    match entry.toList.dropWhile (· != '=') with
    | _ :: value =>
      some (String.ofList (entry.toList.takeWhile (· != '=')), String.ofList value)
    | [] => none

/-- The content of those of the given files that can be read. -/
def readable (paths : List String) : IO (List (String × String)) :=
  paths.filterMapM fun (path : String) => do
    try pure (some (path, ← IO.FS.readFile path))
    catch _ => pure none

/-- Those of the given paths that lead to folders. -/
def foldersAmong (paths : List String) : IO (List String) :=
  paths.filterM fun (path : String) => do
    try
      let _ ← IO.FS.realPath (path ++ "/.")
      pure true
    catch _ => pure false

/-- The variables of the environment. -/
def environmentListed : IO (List (String × String)) := do
  pure ((← readable ["/proc/self/environ"]).flatMap fun file => variablesOf file.2)

/-- The instant that the clock shows. -/
def clock : IO Calendar.Instant := do
  let passed := (← Std.Time.Timestamp.now).toNanosecondsSinceUnixEpoch.val
  pure ⟨passed / 1000000000, (passed % 1000000000).toNat⟩

/-- What surrounds the program as it starts with given arguments. -/
def look (arguments : List String) : IO Surroundings := do
  let environment ← environmentListed
  let documentPaths := Surroundings.documentPaths { files := [], environment } arguments
  let settings : Settings.Surroundings :=
    { files := ← readable documentPaths, folders := ← foldersAmong documentPaths, environment }
  let archivePaths := Surroundings.archivePaths settings arguments
  let disk : Archive.Disk :=
    { plainFiles := (← readable archivePaths).map Prod.fst, folders := ← foldersAmong archivePaths }
  pure ⟨settings, disk, ← clock, Remote.Link.isolated⟩

end AccessFeed.Command

/-- Runs the program and answers its exit code. -/
def main (arguments : List String) : IO UInt32 := do
  let completion := (← AccessFeed.Command.look arguments).run arguments
  if !completion.output.isEmpty then IO.println completion.output
  if !completion.complaint.isEmpty then IO.eprintln completion.complaint
  pure (UInt32.ofNat completion.exitCode)
