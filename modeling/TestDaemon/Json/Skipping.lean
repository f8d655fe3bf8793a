import TestDaemon.Json.Reader

/-! # Passing over JSON values

A value that nobody asked for is passed without being built. The open lists and objects stand on a
stack; every step takes an octet or more, so the length of the input bounds their number.
-/

namespace TestDaemon.Json

/-- Pass an exponent, from its letter on. -/
def skipExponent (cursor : Cursor) : Except Fault Cursor :=
  let cursor := cursor.next
  let cursor := if cursor.peek == some 0x2B || cursor.peek == some 0x2D then cursor.next else cursor
  if cursor.atDigit then .ok (cursor.skip (cursor.rest.takeWhile Cursor.isDigit).length)
  else .error (cursor.peekFault .invalidNumber)

/-- Pass a number, behind its sign. -/
def skipNumber (cursor : Cursor) : Except Fault Cursor :=
  let whole := cursor.rest.takeWhile Cursor.isDigit
  if whole.isEmpty then .error (cursor.peekFault .invalidNumber)
  else if whole.head? == some 0x30 && 1 < whole.length then
    .error (cursor.next.peekFault .invalidNumber)
  else
    let cursor := cursor.skip whole.length
    let atExponent (cursor : Cursor) : Bool := cursor.peek == some 0x65 || cursor.peek == some 0x45
    if cursor.peek == some 0x2E then
      let cursor := cursor.next
      let fraction := cursor.rest.takeWhile Cursor.isDigit
      if fraction.isEmpty then .error (cursor.peekFault .invalidNumber)
      else
        let cursor := cursor.skip fraction.length
        if atExponent cursor then skipExponent cursor else .ok cursor
    else if atExponent cursor then skipExponent cursor
    else .ok cursor

inductive Bracket where
  | list
  | object
  deriving DecidableEq, Repr

namespace Bracket

def close : Bracket → UInt8
  | list => 0x5D
  | object => 0x7D

def unclosed : Bracket → Complaint
  | list => .endInList
  | object => .endInObject

def missingEnd : Bracket → Complaint
  | list => .expectedListEnd
  | object => .expectedObjectEnd

end Bracket

/-- Pass a key and its colon inside an object; in a list there is none. -/
def skipKey (bracket : Bracket) (cursor : Cursor) : Except Fault Cursor :=
  match bracket with
  | .list => .ok cursor
  | .object => do
    let cursor := cursor.skipBlanks
    match cursor.peek with
    | some 0x22 =>
      let cursor := (← skipString cursor.next).skipBlanks
      match cursor.peek with
      | some 0x3A => return cursor.next
      | some _ => throw (cursor.peekFault .expectedColon)
      | none => throw (cursor.peekFault .endInObject)
    | some _ => throw (cursor.peekFault .keyNotString)
    | none => throw (cursor.peekFault .endInObject)

/-- What is passed next: a value, or what may follow a value or an opening bracket. -/
inductive SkipState where
  | value
  | follow (comma : Bool)
  deriving DecidableEq, Repr

/-- Pass the rest of a value inside the open brackets, the innermost first. -/
def skipFrom : (bound : Nat) → SkipState → List Bracket → Cursor → Except Fault Cursor
  | 0, _, _, cursor => .error (cursor.fault .endInValue)
  | bound + 1, .value, stack, cursor => do
    let cursor := cursor.skipBlanks
    match cursor.peek with
    | none => throw (cursor.peekFault .endInValue)
    | some 0x6E => skipFrom bound (.follow true) stack (← readWord [0x75, 0x6C, 0x6C] cursor.next)
    | some 0x74 => skipFrom bound (.follow true) stack (← readWord [0x72, 0x75, 0x65] cursor.next)
    | some 0x66 =>
      skipFrom bound (.follow true) stack (← readWord [0x61, 0x6C, 0x73, 0x65] cursor.next)
    | some 0x2D => skipFrom bound (.follow true) stack (← skipNumber cursor.next)
    | some 0x22 => skipFrom bound (.follow true) stack (← skipString cursor.next)
    | some 0x5B => skipFrom bound (.follow false) (.list :: stack) cursor.next
    | some 0x7B => skipFrom bound (.follow false) (.object :: stack) cursor.next
    | some byte =>
      if Cursor.isDigit byte then skipFrom bound (.follow true) stack (← skipNumber cursor)
      else throw (cursor.peekFault .expectedValue)
  | _ + 1, .follow _, [], cursor => .ok cursor
  | bound + 1, .follow comma, bracket :: stack, cursor => do
    let cursor := cursor.skipBlanks
    match cursor.peek with
    | none => throw (cursor.peekFault bracket.unclosed)
    | some byte =>
      if byte = 0x2C ∧ comma then
        skipFrom bound .value (bracket :: stack) (← skipKey bracket cursor.next)
      else if byte = bracket.close then skipFrom bound (.follow true) stack cursor.next
      else if comma then throw (cursor.peekFault bracket.missingEnd)
      else skipFrom bound .value (bracket :: stack) (← skipKey bracket cursor)

/-- Pass a value. Every octet leads to two steps at most. -/
def skipValue (cursor : Cursor) : Except Fault Cursor :=
  skipFrom (2 * cursor.rest.length + 2) .value [] cursor

end TestDaemon.Json
