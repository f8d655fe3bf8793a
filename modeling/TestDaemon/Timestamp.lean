import TestDaemon.Timestamp.Calendar

/-! # Timestamps

A moment in UTC with nanoseconds. A leap second is a second of length two: it keeps the number of the
second before it, and its nanoseconds go on past 10^9.
-/

namespace TestDaemon

namespace Timestamp

/-- The first second of year -262143. -/
def firstSecond : Int := (Date.mk (-262143) 1 1).dayNumber * 86400

/-- The last second of year 262142. -/
def lastSecond : Int := (Date.mk 262142 12 31).dayNumber * 86400 + 86399

end Timestamp

structure Timestamp where
  second : Int
  nanos : Nat
  nanos_lt : nanos < 2000000000
  leap_last : 1000000000 ≤ nanos → second % 60 = 59
  first_le : Timestamp.firstSecond ≤ second
  le_last : second ≤ Timestamp.lastSecond
  deriving DecidableEq, Repr

namespace Timestamp

def of? (second : Int) (nanos : Nat) : Option Timestamp :=
  if bounded : nanos < 2000000000 then
    if last : 1000000000 ≤ nanos → second % 60 = 59 then
      if first : firstSecond ≤ second then
        if final : second ≤ lastSecond then some ⟨second, nanos, bounded, last, first, final⟩
        else none
      else none
    else none
  else none

def secondOfDay (timestamp : Timestamp) : Int := timestamp.second % 86400

/-- The nanoseconds from `start` to `finish`. A leap second counts when one of the two lies in it and
the other one is later in its day than the day's second that it lengthens. -/
def nanosBetween (start finish : Timestamp) : Int :=
  let leap : Int :=
    if start.secondOfDay < finish.secondOfDay ∧ 1000000000 ≤ start.nanos then 1
    else if finish.secondOfDay < start.secondOfDay ∧ 1000000000 ≤ finish.nanos then -1
    else 0
  (finish.second - start.second + leap) * 1000000000 + ((finish.nanos : Int) - start.nanos)

/-- The whole milliseconds from `start` to `finish`, cut off toward zero. -/
def millisBetween (start finish : Timestamp) : Int := (nanosBetween start finish).tdiv 1000000

instance : LE Timestamp := ⟨fun a b => a.second < b.second ∨ a.second = b.second ∧ a.nanos ≤ b.nanos⟩

instance (a b : Timestamp) : Decidable (a ≤ b) := inferInstanceAs (Decidable (_ ∨ _))

end Timestamp

end TestDaemon
