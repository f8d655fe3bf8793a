import TestDaemon.Address.Shorthand
import TestDaemon.OsError

/-! # Hosts

The network of a host as servers and clients meet it. Names are resolved only if they are literals.
Sockets may listen on any address, but not on a reserved port nor where another one listens. The host
is isolated: it has no route to any address.
-/

namespace TestDaemon

/-- A host with its listening sockets. -/
structure Host where
  listening : List SocketAddress
  deriving DecidableEq, Repr

namespace Host

def idle : Host := ⟨[]⟩

/-- What is said of a name that could only be looked up on the network. -/
def unresolvedName : String :=
  "failed to lookup address information: Temporary failure in name resolution"

/-- What is said of a name that no address can have. -/
def unknownName : String := "failed to lookup address information: Name or service not known"

/-- The address of a name with a port, or what is said of the failure to find it. -/
def resolve (name : String) (port : UInt16) : Except String SocketAddress :=
  if '\x00' ∈ name.toList then .error OsError.nulInName
  else match IpAddress.parse? name <|> IpAddress.ofShorthand? name with
    | some ip => .ok { ip, port }
    | none =>
      let base := name.toList.takeWhile (· != '%')
      match IpAddress.readGroupsAddress? base with
      | some (ip, []) =>
        match ip.link? (String.ofList (name.toList.drop (base.length + 1))) with
        | some link => .ok { ip, port, link }
        | none => .error unknownName
      | _ => .error (if name = "*" then unknownName else unresolvedName)

/-- Ports below 1024 need a privilege. -/
def isReserved (port : UInt16) : Bool := 0 < port && port < 1024

/-- Whether two sockets may not listen at the same time. -/
def clash (a b : SocketAddress) : Bool :=
  a.port == b.port && (a.ip == b.ip || a.ip == .unspecified || b.ip == .unspecified)

/-- The first port that the system chooses where none is given. -/
def firstFreePort : Nat := 32768

/-- A port that no socket listens on. -/
def freePort? (host : Host) : Option UInt16 :=
  let ports := (List.range (UInt16.size - firstFreePort)).map fun n => UInt16.ofNat (firstFreePort + n)
  ports.find? fun port => host.listening.all (·.port != port)

/-- Listen on an address, and give the address with the port that was chosen. -/
def listen (host : Host) (address : SocketAddress) : Except OsError (SocketAddress × Host) :=
  if isReserved address.port then .error .accessDenied
  else if address.port = 0 then
    match host.freePort? with
    | none => .error .addressInUse
    | some port => .ok ({ address with port }, ⟨{ address with port } :: host.listening⟩)
  else if host.listening.any (clash address) then .error .addressInUse
  else .ok (address, ⟨address :: host.listening⟩)

/-- Cease to listen on an address. -/
def release (host : Host) (address : SocketAddress) : Host := ⟨host.listening.erase address⟩

/-- What a client is told that tries to connect. -/
def refusal (name : String) : String :=
  match resolve name 0 with
  | .error text => text
  | .ok _ => OsError.networkUnreachable.text

end Host

end TestDaemon
