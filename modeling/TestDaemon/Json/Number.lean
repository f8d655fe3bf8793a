import TestDaemon.Binary64.Shortest
import TestDaemon.Json.Reader

/-! # JSON numbers

A number without fraction and exponent is an integer if it fits 64 bits; every other one is rounded to
binary floating point. The rounding works on at most 20 digits and in steps of powers of ten, so that
it may miss the nearest number by a little.
-/

namespace TestDaemon.Json

inductive Number where
  | integer (value : Int)
  | float (negative : Bool) (magnitude : Binary64)
  deriving DecidableEq, Repr

/-- The words for a number of an unexpected kind. -/
def Number.describe : Number → String
  | integer value => s!"integer `{value}`"
  | float negative magnitude =>
    let sign := if negative then "-" else ""
    "floating point `" ++ sign ++ String.ofList magnitude.toScientific ++ "`"

namespace Number

/-- The largest integer of 64 bits. -/
def limit : Nat := UInt64.size - 1

/-- A power of ten, rounded. -/
def powerOfTen (exponent : Nat) : Binary64 := (Binary64.ofDecimal? 1 exponent).getD .zero

/-- The value `number * 10 ^ exponent`, in steps of at most 10^308; two of them bring every start to zero. -/
def shift? : (bound : Nat) → (exponent : Int) → Binary64 → Option Binary64
  | 0, _, _ => some .zero
  | bound + 1, exponent, number =>
    if exponent.natAbs ≤ 308 then
      if 0 ≤ exponent then number.mul? (powerOfTen exponent.natAbs)
      else number.div? (powerOfTen exponent.natAbs)
    else if number.significand = 0 then some .zero
    else if 0 ≤ exponent then none
    else (number.div? (powerOfTen 308)).bind (shift? bound (exponent + 308))

/-- The number with a significand and a power of ten. -/
def ofParts (cursor : Cursor) (negative : Bool) (significand : Nat) (exponent : Int) :
    Except Fault (Number × Cursor) :=
  match (Binary64.ofFraction? significand 1).bind (shift? 4 exponent) with
  | some magnitude => .ok (.float negative magnitude, cursor)
  | none => .error (cursor.lookFault .numberOutOfRange)

/-- The digits at the front. -/
def digits (cursor : Cursor) : Bytes := cursor.rest.takeWhile Cursor.isDigit

def digitValue (byte : UInt8) : Nat := byte.toNat - 0x30

/-- The longest run of digits that still fits 64 bits behind `significand`: the number with them and
their count. -/
def absorb (significand count : Nat) : Bytes → Nat × Nat
  | [] => (significand, count)
  | byte :: rest =>
    let longer := 10 * significand + digitValue byte
    if limit < longer then (significand, count) else absorb longer (count + 1) rest

def atExponent (cursor : Cursor) : Bool := cursor.peek == some 0x65 || cursor.peek == some 0x45

/-- Read an exponent, from its letter on. -/
def readExponent (cursor : Cursor) (negative : Bool) (significand : Nat) (shift : Int) :
    Except Fault (Number × Cursor) :=
  let cursor := cursor.next
  let down := cursor.peek == some 0x2D
  let cursor := if down || cursor.peek == some 0x2B then cursor.next else cursor
  match cursor.peek with
  | none => .error (cursor.peekFault .endInValue)
  | some byte =>
    if !Cursor.isDigit byte then .error (cursor.peekFault .invalidNumber)
    else
      let run := digits cursor
      let values := run.map digitValue
      let heads := (List.range run.length).map fun i =>
        (values.take (i + 1)).foldl (fun n value => 10 * n + value) 0
      let fitting := (heads.takeWhile (· < 0x80000000)).length
      if fitting < run.length then
        if significand ≠ 0 ∧ !down then .error ((cursor.skip (fitting + 1)).fault .numberOutOfRange)
        else .ok (.float negative .zero, cursor.skip run.length)
      else
        let exponent : Nat := values.foldl (fun n value => 10 * n + value) 0
        ofParts (cursor.skip run.length) negative significand
          (if down then shift - (exponent : Int) else shift + (exponent : Int))

/-- Read a fraction, from its point on. -/
def readFraction (cursor : Cursor) (negative : Bool) (significand : Nat) (shift : Int) :
    Except Fault (Number × Cursor) :=
  let cursor := cursor.next
  let run := digits cursor
  if run.isEmpty then
    match cursor.peek with
    | some _ => .error (cursor.peekFault .invalidNumber)
    | none => .error (cursor.peekFault .endInValue)
  else
    let (significand, count) := absorb significand 0 run
    let cursor := cursor.skip run.length
    let shift := shift - count
    if atExponent cursor then readExponent cursor negative significand shift
    else ofParts cursor negative significand shift

/-- Read what follows the whole part of a number. -/
def readTail (cursor : Cursor) (negative : Bool) (significand : Nat) :
    Except Fault (Number × Cursor) :=
  if cursor.peek == some 0x2E then readFraction cursor negative significand 0
  else if atExponent cursor then readExponent cursor negative significand 0
  else if !negative then .ok (.integer significand, cursor)
  else if significand = 0 ∨ 0x8000000000000000 < significand then ofParts cursor true significand 0
  else .ok (.integer (-significand), cursor)

/-- Read a whole part that does not fit 64 bits, behind the digits that do. -/
def readLong (cursor : Cursor) (negative : Bool) (significand : Nat) :
    Except Fault (Number × Cursor) :=
  let run := digits cursor
  let cursor := cursor.skip run.length
  if cursor.peek == some 0x2E then readFraction cursor negative significand run.length
  else if atExponent cursor then readExponent cursor negative significand run.length
  else ofParts cursor negative significand run.length

/-- Read a number, behind its sign. -/
def read (negative : Bool) (cursor : Cursor) : Except Fault (Number × Cursor) :=
  match cursor.peek with
  | none => .error (cursor.peekFault .endInValue)
  | some byte =>
    if byte = 0x30 then
      let cursor := cursor.next
      if cursor.atDigit then .error (cursor.peekFault .invalidNumber)
      else readTail cursor negative 0
    else if Cursor.isDigit byte then
      let run := digits cursor
      let (significand, count) := absorb 0 0 run
      let cursor := cursor.skip count
      if count < run.length then readLong cursor negative significand
      else readTail cursor negative significand
    else .error (cursor.peekFault .invalidNumber)

end Number

end TestDaemon.Json
