/-
This file names the errors of handling an event.

A record whose payload cannot be decoded will never be handled, and is told
apart from the errors that a later attempt may not meet.
-/

import AccessFeed.Failure

namespace AccessFeed.Event

/-- An error of handling an event, with the text of its cause. -/
inductive HandlerError
  | parsing (cause : String)
  | categoryNotFound (cause : String)
  | validation (cause : String)
  | persistence (cause : String)
deriving DecidableEq, Repr

namespace HandlerError

/-- Whether the payload could not be decoded. -/
def isParsing : HandlerError → Bool
  | .parsing _ => true
  | _ => false

/-- The short label of an error. -/
def label : HandlerError → String
  | .parsing _ => "parsing"
  | .categoryNotFound _ => "category"
  | .validation _ => "validation"
  | .persistence _ => "persistence"

/-- The error with a label, if it is one of the labels. -/
def ofLabel? (label cause : String) : Option HandlerError :=
  [parsing cause, categoryNotFound cause, validation cause, persistence cause].find? fun error =>
    error.label == label

/-- The wording of an error. -/
def message : HandlerError → String
  | .parsing cause => "Event parsing failed: " ++ cause
  | .categoryNotFound cause => "Category not found: " ++ cause
  | .validation cause => "Invalid event: " ++ cause
  | .persistence cause => "Persistence failed: " ++ cause

/-- A failure of the storage met while handling an event. -/
def ofFailure (failure : Failure) : HandlerError :=
  .persistence failure.message

/-- An error of handling as a failure of the pipeline. -/
def toFailure : HandlerError → Failure
  | .parsing cause => .invalidData cause
  | .validation cause => .invalidData cause
  | .categoryNotFound cause => .notFound cause
  | .persistence cause => .database cause

end HandlerError

end AccessFeed.Event
