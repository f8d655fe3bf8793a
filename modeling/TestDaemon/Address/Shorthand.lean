import TestDaemon.Address.Parser

/-! # Shorthand for internet addresses

An address of four octets may be written in fewer parts: every part but the last one gives an octet, and
the last one all that remain. A part is octal behind a `0`, hexadecimal behind `0x`, and else decimal.
An address of groups may be followed by the number of the link that it is meant on.
-/

namespace TestDaemon

namespace IpAddress

open Text

/-- The number of one part. -/
def shorthandPart? (part : List Char) : Option Nat :=
  let (base, digits) := match part with
    | '0' :: 'x' :: digits => (16, digits)
    | '0' :: 'X' :: digits => (16, digits)
    | '0' :: digits => (8, '0' :: digits)
    | digits => (10, digits)
  if digits.isEmpty ∨ ¬ digits.all (isDigitOf base) then none else some (numberOf base digits)

/-- The texts between the dots; `run` holds the present one, reversed. -/
def partsFrom (run : List Char) : List Char → List (List Char)
  | [] => [run.reverse]
  | c :: rest => if c = '.' then run.reverse :: partsFrom [] rest else partsFrom (c :: run) rest

/-- The octets that parts stand for, where `room` octets are to be filled. -/
def octetsOfParts? : (room : Nat) → List Nat → Option (List Nat)
  | 0, _ | _, [] => none
  | room, [last] =>
    if last < Nat.pow 256 room then
      some ((List.range room).reverse.map fun place => last / Nat.pow 256 place % 256)
    else none
  | room + 1, part :: parts =>
    if part < 256 then (octetsOfParts? room parts).map (part :: ·) else none

/-- The address that a text is the shorthand of. -/
def ofShorthand? (text : String) : Option IpAddress := do
  let parts ← (partsFrom [] text.toList).mapM shorthandPart?
  match ← octetsOfParts? 4 parts with
  | [a, b, c, d] => some (v4 #v[.ofNat a, .ofNat b, .ofNat c, .ofNat d])
  | _ => none

/-- Whether an address of groups belongs to one link only. -/
def isLinkLocal : IpAddress → Bool
  | v4 _ => false
  | v6 groups => groups.get 0 &&& 0xFFC0 == 0xFE80 || groups.get 0 &&& 0xFF0F == 0xFF02

/-- The number of the link that is named behind an address. The first link is the one to the host
itself. -/
def link? (address : IpAddress) (name : String) : Option UInt32 :=
  if address.isLinkLocal && name == "lo" then some 1
  else if name.toList.isEmpty ∨ ¬ name.toList.all (isDigitOf 10) then none
  else if numberOf 10 name.toList < UInt32.size then some (UInt32.ofNat (numberOf 10 name.toList))
  else none

end IpAddress

end TestDaemon
