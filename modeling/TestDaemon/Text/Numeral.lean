/-! # Numerals

Numbers as shells and programs write them: after blanks and a sign, decimal digits, or where the base is
not fixed a head that tells it. Values are whole numbers of 64 bits.
-/

namespace TestDaemon

namespace Numeral

def isBlank (c : Char) : Bool := c == ' ' || ('\t' ≤ c && c ≤ '\x0d')

/-- The value of a digit of any base up to 36. -/
def digit? (c : Char) : Option Nat :=
  if c.isDigit then some (c.toNat - '0'.toNat)
  else if 'a' ≤ c && c ≤ 'z' then some (c.toNat - 'a'.toNat + 10)
  else if 'A' ≤ c && c ≤ 'Z' then some (c.toNat - 'A'.toNat + 10)
  else none

/-- The value of the digits of a base at the front, how many there are, and the rest. -/
def digits (base : Nat) : List Char → (value count : Nat) → Nat × Nat × List Char
  | [], value, count => (value, count, [])
  | c :: rest, value, count =>
    match digit? c with
    | some digit =>
      if digit < base then digits base rest (value * base + digit) (count + 1) else (value, count, c :: rest)
    | none => (value, count, c :: rest)

def largest : Int := 9223372036854775807

def smallest : Int := -9223372036854775808

/-- A number that is too large for its width becomes the largest, or the smallest one. -/
def clamp (value : Int) : Int := if largest < value then largest else if value < smallest then smallest else value

def isInRange (value : Int) : Bool := smallest ≤ value && value ≤ largest

/-- The number at the front of a text, with the rest; `none` if there is none. Base 0 is told by the
digits. The number is not bounded. -/
def scan? (base : Nat) (text : List Char) : Option (Int × List Char) :=
  let unblanked := text.dropWhile isBlank
  let (isNegative, unsigned) := match unblanked with
    | '-' :: rest => (true, rest)
    | '+' :: rest => (false, rest)
    | rest => (false, rest)
  let signed (value : Nat) : Int := if isNegative then -(value : Int) else value
  let inBase (base : Nat) (text : List Char) : Option (Int × List Char) :=
    match digits base text 0 0 with
    | (_, 0, _) => none
    | (value, _, rest) => some (signed value, rest)
  if base = 0 || base = 16 then
    match unsigned with
    | '0' :: x :: rest =>
      if x = 'x' || x = 'X' then
        match inBase 16 rest with
        | some result => some result
        | none => some (0, x :: rest)
      else inBase (if base = 0 then 8 else 16) unsigned
    | _ => inBase (if base = 0 then 10 else 16) unsigned
  else inBase base unsigned

/-- The number that a whole text is, but for blanks; the empty text is 0 where the base is not fixed. -/
def read? (base : Nat) (text : String) : Option Int :=
  match scan? base text.toList with
  | some (value, rest) => if rest.all isBlank && isInRange value then some value else none
  | none => if base = 0 && text.toList.all isBlank then some 0 else none

/-- The number in the range of a 64 bit word that a number stands for. -/
def wrap (value : Int) : Int := (Int64.ofInt value).toInt

end Numeral

end TestDaemon
