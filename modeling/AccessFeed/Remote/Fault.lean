/-
This file classifies what can go wrong between the pipeline and the server of
the stream store.

A fault is a kind with a description, an error line of the server with a code
that has no kind of its own, or an interruption of the connection. An error line
begins with a code that ends at the first space. Every fault becomes an error of
the stream store: what decides is the code of a group that exists, then the
connection, then the kind.
-/

import AccessFeed.Streams.Error

namespace AccessFeed.Remote

open Streams (StoreError)

/-- The kinds of a fault. -/
inductive FaultKind
  | responseError
  | authenticationFailed
  | typeError
  | execAbortError
  | busyLoadingError
  | noScriptError
  | invalidClientConfig
  | moved
  | ask
  | tryAgain
  | clusterDown
  | crossSlot
  | masterDown
  | ioError
  | clientError
  | extensionError
  | readOnly
  | masterNameNotFoundBySentinel
  | noValidReplicasFoundBySentinel
  | emptySentinelList
  | notBusy
deriving DecidableEq, Repr

namespace FaultKind

/-- All kinds. -/
def all : List FaultKind :=
  [.responseError, .authenticationFailed, .typeError, .execAbortError, .busyLoadingError,
    .noScriptError, .invalidClientConfig, .moved, .ask, .tryAgain, .clusterDown, .crossSlot,
    .masterDown, .ioError, .clientError, .extensionError, .readOnly,
    .masterNameNotFoundBySentinel, .noValidReplicasFoundBySentinel, .emptySentinelList, .notBusy]

/-- The name of a kind. -/
def name : FaultKind → String
  | .responseError => "ResponseError"
  | .authenticationFailed => "AuthenticationFailed"
  | .typeError => "TypeError"
  | .execAbortError => "ExecAbortError"
  | .busyLoadingError => "BusyLoadingError"
  | .noScriptError => "NoScriptError"
  | .invalidClientConfig => "InvalidClientConfig"
  | .moved => "Moved"
  | .ask => "Ask"
  | .tryAgain => "TryAgain"
  | .clusterDown => "ClusterDown"
  | .crossSlot => "CrossSlot"
  | .masterDown => "MasterDown"
  | .ioError => "IoError"
  | .clientError => "ClientError"
  | .extensionError => "ExtensionError"
  | .readOnly => "ReadOnly"
  | .masterNameNotFoundBySentinel => "MasterNameNotFoundBySentinel"
  | .noValidReplicasFoundBySentinel => "NoValidReplicasFoundBySentinel"
  | .emptySentinelList => "EmptySentinelList"
  | .notBusy => "NotBusy"

/-- The kind with a name. -/
def ofName? (name : String) : Option FaultKind :=
  all.find? fun kind => kind.name == name

/-- The codes of error lines that have a kind of their own. -/
def codes : List (String × FaultKind) :=
  [("ERR", .responseError), ("EXECABORT", .execAbortError), ("LOADING", .busyLoadingError),
    ("NOSCRIPT", .noScriptError), ("MOVED", .moved), ("ASK", .ask), ("TRYAGAIN", .tryAgain),
    ("CLUSTERDOWN", .clusterDown), ("CROSSSLOT", .crossSlot), ("MASTERDOWN", .masterDown),
    ("READONLY", .readOnly), ("NOTBUSY", .notBusy)]

/-- The kind of an error line's code, if it has one. -/
def ofCode? (code : String) : Option FaultKind :=
  (codes.find? fun entry => entry.1 == code).map Prod.snd

/-- The code of a kind, if error lines have it. -/
def code? (kind : FaultKind) : Option String :=
  (codes.find? fun entry => entry.2 == kind).map Prod.fst

/-- Whether a kind says that the slots of a cluster have to be looked up again. -/
def isClusterError : FaultKind → Bool
  | .moved | .ask | .tryAgain | .clusterDown => true
  | _ => false

end FaultKind

/-- How a connection was interrupted. -/
inductive Interruption
  | timedOut
  | wouldBlock
  | other
deriving DecidableEq, Repr

/-- The interruption with a name; all but two are alike. -/
def Interruption.ofName (name : String) : Interruption :=
  match name with
  | "timed_out" => .timedOut
  | "would_block" => .wouldBlock
  | _ => .other

/-- What went wrong between the pipeline and the server. -/
inductive Fault
  | described (kind : FaultKind) (description : String) (detail : Option String)
  | extension (code detail : String)
  | interrupted (how : Interruption) (text : String)
deriving DecidableEq, Repr

/-- Whether a word occurs in a text. -/
def mentions (word : List Char) : List Char → Bool
  | [] => word.isEmpty
  | c :: rest => word.isPrefixOf (c :: rest) || mentions word rest

/-- The text of an error line up to its end, which is a carriage return before a line feed. -/
def lineText : List Char → List Char
  | [] => []
  | '\r' :: '\n' :: _ => []
  | c :: rest => c :: lineText rest

/-- The code of an error line, and what stands behind the first space. -/
def splitCode (line : List Char) : List Char × Option (List Char) :=
  match line with
  | [] => ([], none)
  | ' ' :: rest => ([], some rest)
  | c :: rest =>
    let (code, detail) := splitCode rest
    (c :: code, detail)

namespace Fault

/-- The fault that an error line with a given code and rest reports. -/
def ofCode (code : String) (rest : Option String) : Fault :=
  match FaultKind.ofCode? code with
  | some kind => .described kind "An error was signalled by the server" rest
  | none => .extension code (rest.getD "Unknown extension error encountered")

/-- The fault that an error line reports. -/
def ofLine (line : String) : Fault :=
  let (code, rest) := splitCode (lineText line.toList)
  ofCode (String.ofList code) (rest.map String.ofList)

/-- A fault of a kind that has a description alone. -/
def plain (kind : FaultKind) (description : String) : Fault :=
  .described kind description none

/-- The kind of a fault. -/
def kind : Fault → FaultKind
  | .described kind _ _ => kind
  | .extension _ _ => .extensionError
  | .interrupted _ _ => .ioError

/-- The code of a fault, if the server gave one or its kind has one. -/
def code? : Fault → Option String
  | .described kind _ _ => kind.code?
  | .extension code _ => some code
  | .interrupted _ _ => none

/-- The wording of a fault. -/
def message : Fault → String
  | .described kind description none => description ++ "- " ++ kind.name
  | .described kind description (some detail) =>
    description ++ " - " ++ kind.name ++ ": " ++ detail
  | .extension code detail => code ++ ": " ++ detail
  | .interrupted _ text => text

/-- The code of a group that exists. -/
def busyGroup : String := "BUSYGROUP"

/-- Whether a fault is taken for a group that exists: its code or its wording says so. -/
def saysGroupExists (fault : Fault) : Bool :=
  fault.code? == some busyGroup || mentions busyGroup.toList fault.message.toList

/-- A fault as an error of the stream store. -/
def toStoreError (fault : Fault) : StoreError :=
  if fault.saysGroupExists then .groupExists fault.message
  else match fault with
    | .interrupted .timedOut text => .timeout text
    | .interrupted .wouldBlock text => .timeout text
    | .interrupted .other text => .connection text
    | .extension _ _ => .commandExecution fault.message
    | .described kind _ _ =>
      if kind.isClusterError || kind == .masterDown then .clusterSystem fault.message
      else if kind == .typeError then .protocol fault.message
      else .commandExecution fault.message

end Fault

end AccessFeed.Remote
