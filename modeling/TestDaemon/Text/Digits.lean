/-! # Digits

Numbers written in a base from 2 to 16; letters stand for the digits from 10 on, in either case.
-/

namespace TestDaemon

namespace Text

def digitValue? (c : Char) : Option Nat :=
  if c.isDigit then some (c.toNat - '0'.toNat)
  else if 'a' ≤ c ∧ c ≤ 'f' then some (c.toNat - 'a'.toNat + 10)
  else if 'A' ≤ c ∧ c ≤ 'F' then some (c.toNat - 'A'.toNat + 10)
  else none

/-- Whether a character is a digit in a base. -/
def isDigitOf (base : Nat) (c : Char) : Bool := (digitValue? c).any (· < base)

/-- The number that digits give in a base. -/
def numberOf (base : Nat) (digits : List Char) : Nat :=
  digits.foldl (fun n digit => base * n + (digitValue? digit).getD 0) 0

/-- The decimal number that a text writes, if it is below a bound. A plus sign may stand before it. -/
def number? (bound : Nat) (text : String) : Option Nat :=
  let digits := match text.toList with
    | '+' :: digits => digits
    | digits => digits
  if digits.isEmpty ∨ ¬ digits.all (isDigitOf 10) ∨ bound ≤ numberOf 10 digits then none
  else some (numberOf 10 digits)

/-- The decimal number of 16 bits that a text writes. -/
def word16? (text : String) : Option UInt16 := (number? UInt16.size text).map UInt16.ofNat

/-- The decimal number of 64 bits that a text writes. -/
def word64? (text : String) : Option UInt64 := (number? UInt64.size text).map UInt64.ofNat

end Text

end TestDaemon
