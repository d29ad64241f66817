/-
This file reads the addresses of the servers of the stream store.

A server is reached over the network, by its host and the number it listens at,
or through a socket of the file system. The address also names the database of
the server and may carry the user and the password. The host is looked at first,
then the scheme, the database, the user and the password; the first that is wrong
is the fault.
-/

import AccessFeed.Remote.Fault
import AccessFeed.Remote.Reply
import AccessFeed.Remote.Url

namespace AccessFeed.Remote

/-- Where a server listens. -/
inductive Endpoint
  | network (host : String) (number : Nat)
  | socket (path : List UInt8)
deriving DecidableEq, Repr

/-- The address of a server. -/
structure Address where
  endpoint : Endpoint
  database : Int
  userName : Option String
  password : Option String
deriving DecidableEq, Repr

namespace Address

/-- The number of a server whose address names none. -/
def defaultNumber : Nat := 6379

/-- The fault of an address. -/
def fault (description : String) : Fault :=
  .plain .invalidClientConfig description

/-- The number of a database; none is the first. -/
def database? (source : List Char) : Except Fault Int :=
  if source.isEmpty then .ok 0
  else match Text.readInt64 source with
    | .ok number => .ok number
    | .error _ => .error (fault "Invalid database number")

/-- A text without the slashes around it. -/
def withoutSlashes (path : List Char) : List Char :=
  ((path.dropWhile (· == '/')).reverse.dropWhile (· == '/')).reverse

/-- A user or a password with its percent signs carried out. -/
def credential (what : String) (source : List Char) : Except Fault String :=
  match text? (Url.percentDecoded source) with
  | some text => .ok text
  | none => .error (fault (what ++ " is not valid UTF-8 string"))

/-- The address of a server in the network. -/
def ofNetwork (url : Url) : Except Fault Address :=
  match url.host with
  | none => .error (fault "Missing hostname")
  | some host => do
    if url.scheme == "rediss" then
      throw (fault "can't connect with TLS, the feature is not enabled")
    let database ← database? (withoutSlashes url.path)
    let userName ←
      if url.userName.isEmpty then pure none
      else (credential "Username" url.userName).map some
    let password ← match url.password with
      | none => pure none
      | some password => (credential "Password" password).map some
    pure ⟨.network (String.ofList host) (url.number.getD defaultNumber), database, userName, password⟩

/-- The address of a server at a socket of the file system. -/
def ofSocket (url : Url) : Except Fault Address :=
  let here := url.host.isNone || url.host == some "localhost".toList
  if !here || url.path.head? != some '/' then .error (fault "Missing path")
  else do
    let database ← match url.queried? "db" with
      | none => pure 0
      | some number =>
        match text? number with
        | some number =>
          if number.isEmpty then throw (fault "Invalid database number")
          else database? number.toList
        | none => throw (fault "Invalid database number")
    pure ⟨.socket (Url.percentDecoded url.path), database, (url.queried? "user").bind text?,
      (url.queried? "pass").bind text?⟩

/-- Reads the address of a server. -/
def read (source : String) : Except Fault Address :=
  match Url.read source with
  | none => .error (fault "Redis URL did not parse")
  | some url =>
    if url.scheme == "redis" || url.scheme == "rediss" then ofNetwork url
    else if url.scheme == "unix" || url.scheme == "redis+unix" then ofSocket url
    else .error (fault "Redis URL did not parse")

end Address

end AccessFeed.Remote
