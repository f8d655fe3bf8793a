/-! # The Gregorian calendar

Dates of the proleptic Gregorian calendar and their day numbers, where day 0 is 1 January 1970. Year
0 is the year before year 1.
-/

namespace TestDaemon

structure Date where
  year : Int
  month : Nat
  day : Nat
  deriving DecidableEq, Repr

namespace Calendar

def isLeap (year : Int) : Bool := year % 4 == 0 && (year % 100 != 0 || year % 400 == 0)

def monthLengths (leap : Bool) : List Nat :=
  [31, if leap then 29 else 28, 31, 30, 31, 30, 31, 31, 30, 31, 30, 31]

def monthLength (year : Int) (month : Nat) : Nat :=
  ((monthLengths (isLeap year))[month - 1]?).getD 0

/-- The days from 1 January of year 1 to that of `year`. -/
def daysBeforeYear (year : Int) : Int :=
  let past := year - 1
  365 * past + past / 4 - past / 100 + past / 400

/-- The days of a year before its month. -/
def daysBeforeMonth (leap : Bool) (month : Nat) : Nat :=
  ((monthLengths leap).take (month - 1)).foldl (· + ·) 0

/-- The days from 1 January of year 1 to 1 January 1970. -/
def epoch : Int := 719162

/-- The year in which the `n`-th day after 1 January of year 1 falls: cycles of 400, 100, 4 and 1
years are counted off, of which the last one of 100 years and of 1 year may be a day longer. -/
def yearOfDay (n : Int) : Int :=
  let quadricentennials := n / 146097
  let inQuadricentennial := n % 146097
  let centuries := min (inQuadricentennial / 36524) 3
  let inCentury := inQuadricentennial - centuries * 36524
  let quadrennials := inCentury / 1461
  let inQuadrennial := inCentury % 1461
  let years := min (inQuadrennial / 365) 3
  400 * quadricentennials + 100 * centuries + 4 * quadrennials + years + 1

/-- The month and day of a day of the year, both counted from 1, where the lengths are those of the
months from `month` on. -/
def monthAndDay : (lengths : List Nat) → (month day : Nat) → Nat × Nat
  | [], month, day => (month, day + 1)
  | length :: rest, month, day =>
    if day < length then (month, day + 1) else monthAndDay rest (month + 1) (day - length)

end Calendar

namespace Date

def Valid (date : Date) : Prop :=
  1 ≤ date.month ∧ date.month ≤ 12 ∧
    1 ≤ date.day ∧ date.day ≤ Calendar.monthLength date.year date.month

instance (date : Date) : Decidable date.Valid := inferInstanceAs (Decidable (_ ∧ _))

def dayNumber (date : Date) : Int :=
  Calendar.daysBeforeYear date.year +
    (Calendar.daysBeforeMonth (Calendar.isLeap date.year) date.month : Nat) + date.day - 1 -
    Calendar.epoch

def ofDayNumber (number : Int) : Date :=
  let n := number + Calendar.epoch
  let year := Calendar.yearOfDay n
  let (month, day) := Calendar.monthAndDay (Calendar.monthLengths (Calendar.isLeap year)) 1
    (n - Calendar.daysBeforeYear year).toNat
  ⟨year, month, day⟩

end Date

end TestDaemon
