/-
This file opens the connection to the server of the stream store.

A cluster is reached through any of its nodes, a single server at its address.
The addresses are read before anything is dialled. The user and the password of
the settings go before those of an address; where the settings give none, all
nodes of a cluster have to agree on them. A connection counts as open when the
server has answered a first request with a text.
-/

import AccessFeed.Remote.Address
import AccessFeed.Settings.Basic

namespace AccessFeed.Remote

open Streams (StoreError)

/-- What became of a request: a reply, or none in time, or the connection was dropped. -/
inductive Outcome
  | replied (reply : Reply)
  | silent
  | dropped
deriving Repr, Inhabited

/-- A request to the server: the name it has in messages, and its words. -/
structure Request where
  name : String
  words : List String
deriving DecidableEq, Repr

/-- A request whose reply did not come in time. -/
def Request.overdue (request : Request) (timeout : Nat) : StoreError :=
  .timeout (request.name ++ " exceeded " ++ Text.decimal timeout ++ "ms")

/-- What a request brought, read as a value. An error line anywhere in the reply takes its place. -/
def Request.result {Value : Type} (request : Request) (timeout : Nat) (read : Reading Value) :
    Outcome → Except StoreError Value
  | .silent => .error (request.overdue timeout)
  | .dropped => .error (Fault.interrupted .other "broken pipe").toStoreError
  | .replied reply =>
    match reply.firstError? with
    | some line => .error (Fault.ofLine line).toStoreError
    | none =>
      match read reply with
      | .ok value => .ok value
      | .error fault => .error fault.toStoreError

/-- The request that asks whether a server is there. -/
def Request.ping : Request := ⟨"PING", ["PING"]⟩

/-- What dialling a server led to: a fault, or a connection on which the first request had an
outcome. -/
inductive Dialled
  | failed (fault : Fault)
  | connected (first : Outcome)
deriving Repr

/-- An open connection. -/
structure Link where
  addresses : List Address
  isCluster : Bool
  timeout : Nat
deriving DecidableEq, Repr

namespace Link

/-- The address of a single server, with the user and the password of the settings. -/
def address (server : Settings.Server) : Except Failure Address :=
  match Address.read server.url with
  | .ok address =>
    .ok { address with
      userName := server.username.orElse fun _ => address.userName
      password := server.password.orElse fun _ => address.password }
  | .error fault =>
    .error (.configuration ("Invalid Redis URL '" ++ server.url ++ "': " ++ fault.message))

/-- The fault of a node of a cluster, given the user and the password that all nodes share. -/
def nodeFault? (userName password : Option String) (node : Address) : Option Fault :=
  match node.endpoint with
  | .socket _ =>
    some (Address.fault ("This library cannot use unix socket because Redis's cluster command " ++
      "returns only cluster's IP and port."))
  | .network _ _ =>
    if password.isSome && node.password != password then
      some (Address.fault "Cannot use different password among initial nodes.")
    else if userName.isSome && node.userName != userName then
      some (Address.fault "Cannot use different username among initial nodes.")
    else none

/-- The addresses of the nodes of a cluster. -/
def nodes (server : Settings.Server) : Except Fault (List Address) := do
  let nodes ← server.clusterNodes.mapM Address.read
  match nodes with
  | [] => throw (Address.fault "Initial nodes can't be empty.")
  | first :: _ =>
    let userName := if server.username.isSome then none else first.userName
    let password := if server.password.isSome then none else first.password
    match nodes.findSome? (nodeFault? userName password) with
    | some fault => throw fault
    | none => pure nodes

/-- The connection once dialling has led to something. -/
def afterDialling (link : Link) (refused : Fault → Failure) : Dialled → Except Failure Link
  | .failed fault => .error (refused fault)
  | .connected first =>
    match Request.ping.result link.timeout Reply.text first with
    | .ok _ => .ok link
    | .error error => .error (.internal ("Redis connection test failed: " ++ error.message))

/-- Opens the connection that the settings describe, with what dialling its addresses leads to. -/
def connect (server : Settings.Server) (dial : List Address → Dialled) : Except Failure Link :=
  if server.isCluster then
    match nodes server with
    | .error fault =>
      .error (.internal ("Failed to create Redis cluster client: " ++ fault.message))
    | .ok addresses =>
      afterDialling ⟨addresses, true, server.commandTimeout⟩
        (fun _ => .internal ("Failed to connect to Redis cluster: " ++
          (Fault.plain .ioError "Failed to create initial connections").message))
        (dial addresses)
  else
    match address server with
    | .error failure => .error failure
    | .ok address =>
      afterDialling ⟨[address], false, server.commandTimeout⟩
        (fun fault => .internal ("Failed to connect to Redis: " ++ fault.message))
        (dial [address])

/-- What dialling leads to where there is no network and no server has left a socket. -/
def isolated (addresses : List Address) : Dialled :=
  match addresses with
  | ⟨.socket _, _, _, _⟩ :: _ =>
    .failed (.interrupted .other "No such file or directory (os error 2)")
  | _ => .failed (.interrupted .other "Network is unreachable (os error 101)")

end Link

end AccessFeed.Remote
