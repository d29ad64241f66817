/-
This file classifies every failure the pipeline reports to its callers.

A failure carries the text of its cause. Its kind is one of six, and the kind
alone decides the stable code and the status a caller-facing surface would
report. Every narrower error of the library converts into a failure.
-/

namespace AccessFeed

/-- The closed classification of failures. -/
inductive FailureKind
  | unknown
  | invalidData
  | invalidParameter
  | noResource
  | dataNotFound
  | dataAlreadyExists
deriving DecidableEq, Repr

namespace FailureKind

/-- All kinds, in the order of their codes. -/
def all : List FailureKind :=
  [.unknown, .invalidData, .invalidParameter, .noResource, .dataNotFound, .dataAlreadyExists]

/-- The name a kind is reported under. -/
def name : FailureKind → String
  | .unknown => "Unknown"
  | .invalidData => "InvalidData"
  | .invalidParameter => "InvalidParameter"
  | .noResource => "NoResource"
  | .dataNotFound => "DataNotFound"
  | .dataAlreadyExists => "DataAlreadyExists"

/-- The stable code of a kind. -/
def code : FailureKind → String
  | .unknown => "E000"
  | .invalidData => "E001"
  | .invalidParameter => "E002"
  | .noResource => "E003"
  | .dataNotFound => "E004"
  | .dataAlreadyExists => "E005"

/-- The status reported for a kind. -/
def status : FailureKind → Nat
  | .invalidData => 400
  | .invalidParameter => 400
  | .noResource => 404
  | .dataNotFound => 404
  | .dataAlreadyExists => 409
  | .unknown => 500

/-- The general description of a kind. -/
def message : FailureKind → String
  | .unknown => "Unknown error"
  | .invalidData => "Invalid data"
  | .invalidParameter => "Invalid parameter"
  | .noResource => "No such resource"
  | .dataNotFound => "Data not found"
  | .dataAlreadyExists => "Data already exists"

/-- A kind as shown to a reader: its description and its code. -/
def display (kind : FailureKind) : String :=
  kind.message ++ " (" ++ kind.code ++ ")"

end FailureKind

/-- A failure and the text of its cause. -/
inductive Failure
  | database (cause : String)
  | notFound (cause : String)
  | alreadyExists (cause : String)
  | invalidData (cause : String)
  | invalidParameter (cause : String)
  | configuration (cause : String)
  | io (cause : String)
  | serialization (cause : String)
  | stream (cause : String)
  | timeout (cause : String)
  | internal (cause : String)
deriving DecidableEq, Repr

namespace Failure

/-- The kind of a failure. -/
def kind : Failure → FailureKind
  | .notFound _ => .dataNotFound
  | .alreadyExists _ => .dataAlreadyExists
  | .invalidData _ => .invalidData
  | .serialization _ => .invalidData
  | .invalidParameter _ => .invalidParameter
  | .stream _ => .noResource
  | .timeout _ => .noResource
  | .database _ => .unknown
  | .configuration _ => .unknown
  | .io _ => .unknown
  | .internal _ => .unknown

/-- The name a failure is reported under. -/
def name : Failure → String
  | .database _ => "Database"
  | .notFound _ => "NotFound"
  | .alreadyExists _ => "AlreadyExists"
  | .invalidData _ => "InvalidData"
  | .invalidParameter _ => "InvalidParameter"
  | .configuration _ => "Configuration"
  | .io _ => "Io"
  | .serialization _ => "Serialization"
  | .stream _ => "Stream"
  | .timeout _ => "Timeout"
  | .internal _ => "Internal"

/-- The failure with a name, if it is one of the names. -/
def ofName? (name cause : String) : Option Failure :=
  [database cause, notFound cause, alreadyExists cause, invalidData cause, invalidParameter cause,
    configuration cause, io cause, serialization cause, stream cause, timeout cause,
    internal cause].find? fun failure => failure.name == name

/-- The wording of a failure. -/
def message : Failure → String
  | .database cause => "Database error: " ++ cause
  | .notFound cause => "Not found: " ++ cause
  | .alreadyExists cause => "Already exists: " ++ cause
  | .invalidData cause => "Invalid data: " ++ cause
  | .invalidParameter cause => "Invalid parameter: " ++ cause
  | .configuration cause => "Configuration error: " ++ cause
  | .io cause => "IO error: " ++ cause
  | .serialization cause => "Serialization error: " ++ cause
  | .stream cause => "Stream store error: " ++ cause
  | .timeout cause => "Operation timed out: " ++ cause
  | .internal cause => "Internal error: " ++ cause

end Failure

end AccessFeed
