/-
This file defines the lines that the pipeline writes to its log.

Only warnings and errors are kept, as they are what an operator is told.
-/

namespace AccessFeed

/-- How grave a line of the log is. -/
inductive LogLevel
  | warn
  | error
deriving DecidableEq, Repr

/-- A line of the log. -/
structure LogLine where
  level : LogLevel
  message : String
deriving DecidableEq, Repr

namespace LogLine

/-- A line as it is shown. -/
def display (line : LogLine) : String :=
  (match line.level with
    | .warn => "WARN "
    | .error => "ERROR ") ++ line.message

end LogLine

end AccessFeed
