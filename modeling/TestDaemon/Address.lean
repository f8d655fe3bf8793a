/-! # Internet addresses

Addresses of hosts, and of sockets on them, with their canonical written forms. The longest run of two
or more zero groups in an address of 16-bit groups is written as `::`, the first one if there are
several. An address that embeds one of four octets is written with those octets.
-/

namespace TestDaemon

inductive IpAddress where
  | v4 (octets : Vector UInt8 4)
  | v6 (groups : Vector UInt16 8)
  deriving DecidableEq, Repr

/-- An address and a port on it. `link` is the link that an address of groups is meant on, and 0 if
that does not matter. -/
structure SocketAddress where
  ip : IpAddress
  port : UInt16
  link : UInt32 := 0
  deriving DecidableEq, Repr

namespace IpAddress

/-- The address that stands for all addresses of a host. -/
def unspecified : IpAddress := v4 #v[0, 0, 0, 0]

def loopback : IpAddress := v4 #v[127, 0, 0, 1]

def octetsText (octets : List UInt8) : String :=
  String.intercalate "." (octets.map fun octet => toString octet.toNat)

def groupsText (groups : List UInt16) : String :=
  String.intercalate ":" (groups.map fun group => String.ofList (Nat.toDigits 16 group.toNat))

/-- The number of zeros at the front. -/
def leadingZeros (groups : List UInt16) : Nat := (groups.takeWhile (· = 0)).length

/-- Where the first of the longest runs of zeros starts, and its length. -/
def longestZeros (groups : List UInt16) : Nat × Nat :=
  (List.range groups.length).foldl
    (fun longest start =>
      let length := leadingZeros (groups.drop start)
      if longest.2 < length then (start, length) else longest)
    (0, 0)

/-- The octets in an address that embeds one of four octets. -/
def embedded? : List UInt16 → Option (List UInt8)
  | [0, 0, 0, 0, 0, 0xFFFF, high, low] =>
    some [(high >>> 8).toUInt8, high.toUInt8, (low >>> 8).toUInt8, low.toUInt8]
  | _ => none

def text : IpAddress → String
  | v4 octets => octetsText octets.toList
  | v6 groups =>
    match embedded? groups.toList with
    | some octets => "::ffff:" ++ octetsText octets
    | none =>
      let (start, length) := longestZeros groups.toList
      if length < 2 then groupsText groups.toList
      else groupsText (groups.toList.take start) ++ "::" ++
        groupsText (groups.toList.drop (start + length))

end IpAddress

/-- An address of 16-bit groups stands in brackets before its port, with its link behind it. -/
def SocketAddress.text (address : SocketAddress) : String :=
  match address.ip with
  | .v4 _ => s!"{address.ip.text}:{address.port.toNat}"
  | .v6 _ =>
    let link := if address.link = 0 then "" else s!"%{address.link.toNat}"
    s!"[{address.ip.text}{link}]:{address.port.toNat}"

end TestDaemon
