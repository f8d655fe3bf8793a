import TestDaemon.Binary64

/-! # Shortest decimals

The decimal that stands for a binary number: of those that read back to it the ones with the fewest
digits, and of these the nearest. It is found by trying the two neighbours of the number on the grid
of 1, 2, … digits.
-/

namespace TestDaemon

/-- The number `digits * 10 ^ exponent`. -/
structure Decimal where
  digits : Nat
  exponent : Int
  deriving DecidableEq, Repr

namespace Binary64

/-- The number of decimal digits before the point of a positive fraction; if it is below 1, the
negated number of zeros that follow the point. -/
def pointPosition (num den : Nat) : Int :=
  if den ≤ num then (Nat.toDigits 10 (num / den)).length
  else 1 - (Nat.toDigits 10 ((den + num - 1) / num - 1)).length

/-- A decimal as a fraction. -/
def decimalFraction (decimal : Decimal) : Nat × Nat :=
  if 0 ≤ decimal.exponent then (decimal.digits * Nat.pow 10 decimal.exponent.toNat, 1)
  else (decimal.digits, Nat.pow 10 (-decimal.exponent).toNat)

/-- Whether a decimal reads back to the number. -/
def readsBack (number : Binary64) (decimal : Decimal) : Bool :=
  let (num, den) := decimalFraction decimal
  ofFraction? num den == some number

/-- The distance of a decimal to the number, as the numerator over a denominator that depends on the
exponent of the decimal only. -/
def distance (number : Binary64) (decimal : Decimal) : Nat :=
  let (num, den) := number.toFraction
  let (decimalNum, decimalDen) := decimalFraction decimal
  let (a, b) := (num * decimalDen, decimalNum * den)
  (a - b) + (b - a)

/-- The better of the number's two neighbours on the grid of decimals with an exponent. -/
def neighbour? (number : Binary64) (exponent : Int) : Option Decimal :=
  let (num, den) := number.toFraction
  let below := if 0 ≤ exponent then num / (den * Nat.pow 10 exponent.toNat)
    else num * Nat.pow 10 (-exponent).toNat / den
  let low : Decimal := ⟨below, exponent⟩
  let high : Decimal := ⟨below + 1, exponent⟩
  match readsBack number low, readsBack number high with
  | true, true =>
    let (a, b) := (distance number low, distance number high)
    some (if a < b || (a == b && below % 2 == 0) then low else high)
  | true, false => some low
  | false, true => some high
  | false, false => none

/-- Remove the zeros at the end of the digits. -/
def trimZeros : (bound : Nat) → Decimal → Decimal
  | 0, decimal => decimal
  | bound + 1, decimal =>
    if decimal.digits % 10 = 0 ∧ decimal.digits ≠ 0 then
      trimZeros bound ⟨decimal.digits / 10, decimal.exponent + 1⟩
    else decimal

/-- The shortest decimal of a number. -/
def shortest (number : Binary64) : Decimal :=
  if number.significand = 0 then ⟨0, 0⟩
  else
    let (num, den) := number.toFraction
    let position := pointPosition num den
    let found := (List.range 17).findSome? fun count : Nat =>
      neighbour? number (position - 1 - (count : Int))
    trimZeros 17 (found.getD ⟨0, 0⟩)

/-- Digits with the point after the first `position` of them. -/
def placePoint (digits : List Char) (position : Int) : List Char :=
  if position ≤ 0 then '0' :: '.' :: List.replicate (-position).toNat '0' ++ digits
  else if digits.length ≤ position.toNat then
    digits ++ List.replicate (position.toNat - digits.length) '0' ++ ['.', '0']
  else digits.take position.toNat ++ '.' :: digits.drop position.toNat

/-- The number in positional notation, with a digit or more on each side of the point. -/
def toPositional (number : Binary64) : List Char :=
  let decimal := number.shortest
  let digits := Nat.toDigits 10 decimal.digits
  placePoint digits (digits.length + decimal.exponent)

/-- An exponent with its sign and two digits or more. -/
def exponentText (power : Int) : List Char :=
  let digits := Nat.toDigits 10 power.natAbs
  (if power < 0 then '-' else '+') :: List.replicate (2 - digits.length) '0' ++ digits

/-- The number in positional notation from 10^-5 up to 10^16, and else with an exponent. -/
def toScientific (number : Binary64) : List Char :=
  let decimal := number.shortest
  let digits := Nat.toDigits 10 decimal.digits
  let position : Int := digits.length + decimal.exponent
  if decimal.digits = 0 ∨ -5 < position ∧ position ≤ 16 then placePoint digits position
  else
    let mantissa := if digits.length = 1 then digits else placePoint digits 1
    mantissa ++ 'e' :: exponentText (position - 1)

end Binary64

end TestDaemon
