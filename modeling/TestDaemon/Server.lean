import TestDaemon.Context
import TestDaemon.Host
import TestDaemon.Server.Lifecycle
import TestDaemon.Settings

/-! # Servers

A server that is started and stopped by one caller at a time: it listens on its host from a start to
the next stop, and keeps its deployments across both.
-/

namespace TestDaemon

/-- The frame limit of a server and what it serves requests with. -/
structure ServerOptions where
  maxFrameBytes : Nat
  services : Services

structure Server where
  bindAddress : SocketAddress
  options : ServerOptions
  store : Store
  lifecycle : Lifecycle

namespace Error

def bindPortRange : Error := ⟨.config, "Bind port must be between 0 and 65535"⟩

def unresolvedAddress (name cause : String) : Error :=
  ⟨.config, "Address \"" ++ name ++ "\" could not be resolved: " ++ cause⟩

def bindFailed (address : SocketAddress) (cause : OsError) : Error :=
  ⟨.lifecycle, s!"Encountered error in binding {address.text}; could not start server: {cause.text}"⟩

end Error

/-- The address to listen on. Without a name that is every address of the host. -/
def SocketAddress.ofBinding (name : Option String) (port : Nat) : Except Error SocketAddress :=
  if 65535 < port then .error .bindPortRange
  else match name with
    | none => .ok { ip := .unspecified, port := UInt16.ofNat port }
    | some name => (Host.resolve name (UInt16.ofNat port)).mapError (.unresolvedAddress name)

def ServerOptions.describe (options : ServerOptions) : String :=
  s!"ServerOptions \x7b max_frame_bytes: {options.maxFrameBytes}, .. \x7d"

namespace Server

def new (bindAddress : SocketAddress) (options : ServerOptions) : Server :=
  ⟨bindAddress, options, .empty, .initial⟩

/-- A server with the default frame limit. -/
def create (services : Services) (name : Option String) (port : Nat) : Except Error Server :=
  (SocketAddress.ofBinding name port).map fun address =>
    new address ⟨FrameDecoder.defaultLimit, services⟩

def ofSettings (services : Services) (settings : ServerSettings) : Except Error Server :=
  (SocketAddress.ofBinding settings.bindAddress settings.port.toNat).map fun address =>
    new address ⟨settings.maxFrameBytes.toNat, services⟩

def state (server : Server) : ServerState := server.lifecycle.published

def isRunning (server : Server) : Bool := server.state.isRunning

/-- The address that the server listens on. -/
def boundAddress (server : Server) : Except Error SocketAddress :=
  match server.state with
  | .running address => .ok address
  | _ => .error .notRunning

/-- Listen on the host and begin a run. -/
def start (host : Host) (server : Server) : Except Error SocketAddress × Server × Host :=
  match server.lifecycle.current with
  | some _ => (.error .alreadyRunning, server, host)
  | none =>
    match host.listen server.bindAddress with
    | .error cause =>
      (.error (.bindFailed server.bindAddress cause),
        { server with lifecycle := server.lifecycle.publish .stopped }, host)
    | .ok (address, host) =>
      let begun := server.lifecycle.beginRun address
      (.ok address,
        { server with lifecycle := begun.announce server.lifecycle.runs.length address }, host)

/-- End the run under way and close its listener. -/
def stop (host : Host) (server : Server) : Except Error Unit × Server × Host :=
  match server.lifecycle.current with
  | none => (.error .notRunning, server, host)
  | some index =>
    let cancelled := server.lifecycle.withdraw.cancel index
    let ended := (cancelled.closeListener index).complete index
    let host := match server.lifecycle.runs[index]? with
      | some run => host.release run.address
      | none => host
    (.ok (), { server with lifecycle := ended.publish .stopped }, host)

/-- A summary for logs. -/
def describe (server : Server) : String :=
  s!"Server \x7b bind_address: {server.bindAddress.text}, state: {server.state.text}, .. \x7d"

end Server

end TestDaemon
