/-! # Binary floating point

The non-negative finite numbers of IEEE 754 binary64, `significand * 2 ^ exponent`, and the rounding
of a fraction to the nearest of them, where a tie goes to the even significand. Zero is the smallest
exponent with significand 0.
-/

namespace TestDaemon

structure Binary64 where
  significand : Nat
  exponent : Int
  deriving DecidableEq, Repr

namespace Binary64

/-- The exponent of the smallest positive number. -/
def minExponent : Int := -1074

/-- The exponent of the largest finite number. -/
def maxExponent : Int := 971

/-- The first number past the significands. -/
def limit : Nat := 0x20000000000000

def zero : Binary64 := ⟨0, minExponent⟩

/-- A fraction rounded to a natural number, a tie to the even one. -/
def roundHalfEven (num den : Nat) : Nat :=
  let quotient := num / den
  let twice := 2 * (num % den)
  if twice < den then quotient
  else if den < twice then quotient + 1
  else quotient + quotient % 2

/-- A fraction multiplied by a power of two, as a fraction. -/
def scale (num den : Nat) (power : Int) : Nat × Nat :=
  if 0 ≤ power then (num * Nat.pow 2 power.toNat, den) else (num, den * Nat.pow 2 (-power).toNat)

/-- The whole part of the binary logarithm of a positive fraction. -/
def log2 (num den : Nat) : Int :=
  let estimate : Int := (Nat.log2 num : Int) - Nat.log2 den
  let (low, high) := scale den 1 estimate
  if low ≤ num * high then estimate else estimate - 1

/-- The nearest number to a fraction; `none` if it is past the largest one. -/
def ofFraction? (num den : Nat) : Option Binary64 :=
  if num = 0 then some zero
  else
    let exponent := max (log2 num den - 52) minExponent
    let (top, bottom) := scale num den (-exponent)
    let rounded := roundHalfEven top bottom
    let number : Binary64 :=
      if rounded = limit then ⟨limit / 2, exponent + 1⟩ else ⟨rounded, exponent⟩
    if maxExponent < number.exponent then none else some number

/-- The number as a fraction. -/
def toFraction (number : Binary64) : Nat × Nat := scale number.significand 1 number.exponent

/-- The nearest number to `significand * 10 ^ power`. Far from the range of the format only the size
of the decimal matters, not its digits. -/
def ofDecimal? (significand : Nat) (power : Int) : Option Binary64 :=
  let size := power + (Nat.toDigits 10 significand).length
  if significand = 0 ∨ size < -400 then some zero
  else if 400 < size then none
  else if 0 ≤ power then ofFraction? (significand * Nat.pow 10 power.toNat) 1
  else ofFraction? significand (Nat.pow 10 (-power).toNat)

def mul? (a b : Binary64) : Option Binary64 :=
  let (numA, denA) := a.toFraction
  let (numB, denB) := b.toFraction
  ofFraction? (numA * numB) (denA * denB)

/-- The quotient by a positive number; `none` if it is past the largest number. -/
def div? (a b : Binary64) : Option Binary64 :=
  let (numA, denA) := a.toFraction
  let (numB, denB) := b.toFraction
  ofFraction? (numA * denB) (denA * numB)

end Binary64

end TestDaemon
