import TestDaemon.Timestamp

/-! # Written timestamps

RFC 3339 in UTC. A fraction has 3, 6 or 9 digits, the fewest that lose nothing, and none if it is
zero. Years outside 0 to 9999 carry their sign. A leap second is written as second 60.
-/

namespace TestDaemon.Timestamp

/-- The last `width` decimal digits of a number. -/
def digits : (width : Nat) → Nat → List Char
  | 0, _ => []
  | width + 1, n => digits width (n / 10) ++ [Nat.digitChar (n % 10)]

def yearChars (year : Int) : List Char :=
  if 0 ≤ year ∧ year ≤ 9999 then digits 4 year.toNat
  else
    let sign := if year < 0 then '-' else '+'
    sign :: (if year.natAbs < 10000 then digits 4 year.natAbs else Nat.toDigits 10 year.natAbs)

def fractionChars (nanos : Nat) : List Char :=
  if nanos = 0 then []
  else if nanos % 1000000 = 0 then '.' :: digits 3 (nanos / 1000000)
  else if nanos % 1000 = 0 then '.' :: digits 6 (nanos / 1000)
  else '.' :: digits 9 nanos

def toChars (timestamp : Timestamp) : List Char :=
  let date := Date.ofDayNumber (timestamp.second / 86400)
  let time := timestamp.secondOfDay.toNat
  let leap := timestamp.nanos / 1000000000
  yearChars date.year ++ '-' :: digits 2 date.month ++ '-' :: digits 2 date.day ++
    'T' :: digits 2 (time / 3600) ++ ':' :: digits 2 (time / 60 % 60) ++
    ':' :: digits 2 (time % 60 + leap) ++ fractionChars (timestamp.nanos % 1000000000) ++ ['Z']

end TestDaemon.Timestamp
