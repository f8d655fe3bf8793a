import TestDaemon.Client.Link
import TestDaemon.Connection

/-! # A server's connection as a peer

The requests of a client are the input of a connection, and what the connection writes is delivered to
the client. Behind that the client meets the end of the stream if the connection has ended, and else
nothing until its next request.
-/

namespace TestDaemon

/-- A connection as a client's peer, and whether it has ended. -/
structure Served where
  connection : Connection
  ended : Bool

namespace Served

/-- A connection that has not served anything. -/
def start (context : Context) (limit : Nat) : Served := ⟨.new context limit .unlimited, false⟩

/-- Serve what a client has sent. -/
def react (services : Services) (served : Served) (request : Bytes) : Reaction Served :=
  if served.ended then ⟨none, [], .closed, served⟩
  else
    let connection := served.connection
    let fed := { connection with decoder := connection.decoder.feed request }
    let step := fed.serve services false
    match step.result with
    | .ok none => ⟨none, step.output, .silent, ⟨step.connection, false⟩⟩
    | _ => ⟨none, step.output, .closed, ⟨step.connection, true⟩⟩

/-- The link of a client that has just connected. -/
def link (served : Served) : Link Served := ⟨served, [], .silent⟩

end Served

/-- Connections as peers. -/
def Remote.serving (services : Services) : Remote Served where
  react := Served.react services

end TestDaemon
