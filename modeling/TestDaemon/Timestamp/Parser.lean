import TestDaemon.Text.Blank
import TestDaemon.Timestamp

/-! # Reading timestamps

A lenient form of RFC 3339: blanks may stand before each number, before the marks between them and
before the zone; a fraction may have any number of digits, of which nine are kept; second 60 is a leap
second. The zone is `Z`, `UTC` or an offset in hours and minutes, with or without a colon.
-/

namespace TestDaemon

/-- Why a text is no timestamp. -/
inductive TimestampFault where
  | outOfRange
  | impossible
  | invalid
  | tooShort
  | tooLong
  deriving DecidableEq, Repr

def TimestampFault.text : TimestampFault → String
  | outOfRange => "input is out of range"
  | impossible => "no possible date and time matching input"
  | invalid => "input contains invalid characters"
  | tooShort => "premature end of input"
  | tooLong => "trailing input"

namespace Timestamp

abbrev Reader (α : Type) := List Char → Except TimestampFault (α × List Char)

def skipBlanks (chars : List Char) : List Char := chars.dropWhile isBlank

def digitsValue (digits : List Char) : Nat :=
  digits.foldl (fun n digit => 10 * n + (digit.toNat - '0'.toNat)) 0

/-- The first number past 64 bits. -/
def numberLimit : Nat := 0x8000000000000000

/-- A number of one digit or more, and of `width` at most where that is given. -/
def readNumber (width : Option Nat) : Reader Nat := fun chars =>
  let run := chars.takeWhile Char.isDigit
  let digits := match width with
    | some width => run.take width
    | none => run
  match digits, chars with
  | [], [] => .error .tooShort
  | [], _ :: _ => .error .invalid
  | _ :: _, _ =>
    let value := digitsValue digits
    if numberLimit ≤ value then .error .outOfRange else .ok (value, chars.drop digits.length)

/-- A number of at most two digits between bounds. -/
def readField (low high : Nat) : Reader Nat := fun chars => do
  let (value, rest) ← readNumber (some 2) (skipBlanks chars)
  if low ≤ value ∧ value ≤ high then return (value, rest) else throw .outOfRange

/-- A year: four digits at most, or a sign and any number of them. -/
def readYear : Reader Int := fun chars => do
  let (year, rest) ← match skipBlanks chars with
    | '-' :: rest => (readNumber none rest).map fun (value, rest) => (-(value : Int), rest)
    | '+' :: rest => (readNumber none rest).map fun (value, rest) => ((value : Int), rest)
    | rest => (readNumber (some 4) rest).map fun (value, rest) => ((value : Int), rest)
  if Int32.minValue.toInt ≤ year ∧ year ≤ Int32.maxValue.toInt then return (year, rest) else throw .outOfRange

/-- A mark between two numbers, perhaps behind blanks. -/
def readMark (mark : Char) (chars : List Char) : Except TimestampFault (List Char) :=
  match skipBlanks chars with
  | [] => .error .tooShort
  | c :: rest => if c = mark then .ok rest else .error .invalid

/-- A fraction of a second in nanoseconds, if there is one. -/
def readFraction : Reader Nat := fun chars =>
  match chars with
  | '.' :: chars => do
    let (value, rest) ← readNumber (some 9) chars
    let kept := (chars.takeWhile Char.isDigit).take 9
    return (value * Nat.pow 10 (9 - kept.length), rest.dropWhile Char.isDigit)
  | _ => .ok (0, chars)

/-- Two digits, the first of them below `tens`. -/
def readPair (tens : Nat) : Reader Nat := fun chars =>
  match chars with
  | [] => .error .tooShort
  | [c] => if c.toNat < 128 then .error .tooShort else .error .invalid
  | a :: b :: rest =>
    if a.isDigit && b.isDigit then
      if a.toNat - '0'.toNat < tens then .ok (digitsValue [a, b], rest) else .error .outOfRange
    else .error .invalid

/-- The sign of an offset. -/
def readSign : Reader Int := fun chars =>
  match chars with
  | [] => .error .tooShort
  | '+' :: rest => .ok (1, rest)
  | '-' :: rest => .ok (-1, rest)
  | '\u2212' :: rest => .ok (-1, rest)
  | _ :: _ => .error .invalid

/-- The zone, as the seconds that local time is ahead of UTC. -/
def readZone : Reader Int := fun chars =>
  match chars with
  | 'Z' :: rest => .ok (0, rest)
  | 'z' :: rest => .ok (0, rest)
  | _ =>
    if (chars.take 3).map Char.toUpper = ['U', 'T', 'C'] then .ok (0, chars.drop 3)
    else do
      let (sign, chars) ← readSign chars
      let (hours, chars) ← readPair 10 chars
      let (minutes, chars) ← readPair 6 (chars.dropWhile fun c => c = ':' || isBlank c)
      return (sign * (hours * 3600 + minutes * 60 : Nat), chars)

/-- The days from 1 January 1970 to a date, if there is such a date. -/
def readDate : Reader Date := fun chars => do
  let (year, chars) ← readYear chars
  let (month, chars) ← readField 1 12 (← readMark '-' chars)
  let (day, chars) ← readField 1 31 (← readMark '-' chars)
  return (⟨year, month, day⟩, chars)

/-- The mark between the date and the time. -/
def readSeparator (chars : List Char) : Except TimestampFault (List Char) :=
  match chars with
  | [] => .error .tooShort
  | c :: rest => if c = 't' ∨ c = 'T' ∨ c = ' ' then .ok rest else .error .invalid

/-- A time of the day, as its seconds and nanoseconds; second 60 lengthens the second before it. -/
def readTime : Reader (Nat × Nat) := fun chars => do
  let (hour, chars) ← readField 0 23 chars
  let (minute, chars) ← readField 0 59 (← readMark ':' chars)
  let (second, chars) ← readField 0 60 (← readMark ':' chars)
  let (fraction, chars) ← readFraction chars
  let (second, leap) := if second = 60 then (59, 1000000000) else (second, 0)
  return ((hour * 3600 + minute * 60 + second, leap + fraction), chars)

def firstYear : Int := -262143

def lastYear : Int := 262142

/-- The moment with a local date and time and an offset. -/
def ofLocal (date : Date) (time : Nat × Nat) (offset : Int) : Except TimestampFault Timestamp :=
  if ¬ date.Valid ∨ date.year < firstYear ∨ lastYear < date.year then .error .outOfRange
  else if offset ≤ -86400 ∨ 86400 ≤ offset then .error .outOfRange
  else match of? (date.dayNumber * 86400 + time.1 - offset) time.2 with
    | some timestamp => .ok timestamp
    | none => .error .impossible

/-- Read a timestamp that takes up the whole text. -/
def parseChars (chars : List Char) : Except TimestampFault Timestamp := do
  let (date, chars) ← readDate chars
  let (time, chars) ← readTime (← readSeparator chars)
  let (offset, chars) ← readZone (skipBlanks chars)
  if (skipBlanks chars).isEmpty then ofLocal date time offset else throw .tooLong

def parse (text : String) : Except TimestampFault Timestamp := parseChars text.toList

end Timestamp

end TestDaemon
