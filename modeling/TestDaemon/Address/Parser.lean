import TestDaemon.Address
import TestDaemon.Text.Digits

/-! # Reading internet addresses

An octet is written in decimal without needless zeros, a group in up to four hexadecimal digits. `::`
stands for one or more zero groups, and the last two groups may be written as four octets.
-/

namespace TestDaemon

namespace IpAddress

open Text

/-- Read one octet. -/
def readOctet? (chars : List Char) : Option (UInt8 × List Char) :=
  let digits := chars.takeWhile (isDigitOf 10)
  let padded := digits.head? = some '0' ∧ 1 < digits.length
  if digits.isEmpty ∨ 3 < digits.length ∨ padded ∨ 255 < numberOf 10 digits then none
  else some (UInt8.ofNat (numberOf 10 digits), chars.drop digits.length)

def pass? (c : Char) : List Char → Option (List Char)
  | [] => none
  | head :: rest => if head = c then some rest else none

/-- Read four octets. -/
def readOctets? (chars : List Char) : Option (Vector UInt8 4 × List Char) := do
  let (a, rest) ← readOctet? chars
  let (b, rest) ← readOctet? (← pass? '.' rest)
  let (c, rest) ← readOctet? (← pass? '.' rest)
  let (d, rest) ← readOctet? (← pass? '.' rest)
  return (#v[a, b, c, d], rest)

/-- Read one group. -/
def readGroup? (chars : List Char) : Option (UInt16 × List Char) :=
  let digits := chars.takeWhile (isDigitOf 16)
  if digits.isEmpty ∨ 4 < digits.length then none
  else some (UInt16.ofNat (numberOf 16 digits), chars.drop digits.length)

/-- The two groups that four octets make. -/
def groupsOfOctets (octets : Vector UInt8 4) : List UInt16 :=
  [octets[0].toUInt16 <<< 8 ||| octets[1].toUInt16, octets[2].toUInt16 <<< 8 ||| octets[3].toUInt16]

/-- Read at most `room` groups with colons between them, and tell whether octets ended them. -/
def readGroups : (room : Nat) → (first : Bool) → List Char → List UInt16 × Bool × List Char
  | 0, _, chars => ([], false, chars)
  | room + 1, first, chars =>
    let behind := if first then some chars else pass? ':' chars
    match if room = 0 then none else behind.bind readOctets? with
    | some (octets, rest) => (groupsOfOctets octets, true, rest)
    | none =>
      match behind.bind readGroup? with
      | none => ([], false, chars)
      | some (group, rest) =>
        let (groups, ended, rest) := readGroups room false rest
        (group :: groups, ended, rest)

def ofGroups? (groups : List UInt16) : Option IpAddress :=
  if size : groups.length = 8 then some (v6 ⟨groups.toArray, by simpa using size⟩) else none

/-- Read an address of groups. -/
def readGroupsAddress? (chars : List Char) : Option (IpAddress × List Char) :=
  let (head, ended, rest) := readGroups 8 true chars
  if head.length = 8 then (ofGroups? head).map (·, rest)
  else if ended then none
  else do
    let rest ← pass? ':' (← pass? ':' rest)
    let (tail, _, rest) := readGroups (7 - head.length) true rest
    let zeros := List.replicate (8 - head.length - tail.length) 0
    (ofGroups? (head ++ zeros ++ tail)).map (·, rest)

/-- Read an address of either form. -/
def read? (chars : List Char) : Option (IpAddress × List Char) :=
  match readOctets? chars with
  | some (octets, rest) => some (v4 octets, rest)
  | none => readGroupsAddress? chars

/-- The address that a text is the literal of. -/
def parse? (text : String) : Option IpAddress :=
  match (readOctets? text.toList).map fun (octets, rest) => (v4 octets, rest) with
  | some (address, []) => some address
  | _ =>
    match readGroupsAddress? text.toList with
    | some (address, []) => some address
    | _ => none

end IpAddress

namespace SocketAddress

open IpAddress Text

/-- Read the port behind a colon, up to the end of the text. -/
def readPort? (chars : List Char) : Option UInt16 := do
  let digits ← pass? ':' chars
  if digits.isEmpty ∨ ¬ digits.all (isDigitOf 10) ∨ 65535 < numberOf 10 digits then none
  else some (UInt16.ofNat (numberOf 10 digits))

/-- The socket address that a text is the literal of. -/
def parse? (text : String) : Option SocketAddress :=
  match text.toList with
  | '[' :: rest => do
    let (ip, rest) ← readGroupsAddress? rest
    let port ← readPort? (← pass? ']' rest)
    return { ip, port }
  | chars => do
    let (octets, rest) ← readOctets? chars
    let port ← readPort? rest
    return { ip := v4 octets, port }

end SocketAddress

end TestDaemon
