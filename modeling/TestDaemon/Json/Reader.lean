import TestDaemon.Text.Utf8

/-! # Reading JSON

A cursor stands in a byte string and counts what it has passed. A refusal names its place by the
octets before it; its text gives the line and the column, both counted from 1. Where the next octet is
at fault, the place is behind that octet, and at the end of the input it is the end.
-/

namespace TestDaemon.Json

structure Cursor where
  offset : Nat
  rest : Bytes
  deriving DecidableEq, Repr

/-- What is wrong with an input. -/
inductive Complaint where
  | endInList
  | endInObject
  | endInString
  | endInValue
  | expectedColon
  | expectedListEnd
  | expectedObjectEnd
  | expectedWord
  | expectedValue
  | invalidEscape
  | invalidNumber
  | numberOutOfRange
  | invalidText
  | controlCharacter
  | keyNotString
  | loneSurrogate
  | openEscape
  | trailingComma
  | trailingCharacters
  | unfit (text : String)
  deriving DecidableEq, Repr

namespace Complaint

def text : Complaint → String
  | endInList => "EOF while parsing a list"
  | endInObject => "EOF while parsing an object"
  | endInString => "EOF while parsing a string"
  | endInValue => "EOF while parsing a value"
  | expectedColon => "expected `:`"
  | expectedListEnd => "expected `,` or `]`"
  | expectedObjectEnd => "expected `,` or `\x7d`"
  | expectedWord => "expected ident"
  | expectedValue => "expected value"
  | invalidEscape => "invalid escape"
  | invalidNumber => "invalid number"
  | numberOutOfRange => "number out of range"
  | invalidText => "invalid unicode code point"
  | controlCharacter => "control character (\\u0000-\\u001F) found while parsing a string"
  | keyNotString => "key must be a string"
  | loneSurrogate => "lone leading surrogate in hex escape"
  | openEscape => "unexpected end of hex escape"
  | trailingComma => "trailing comma"
  | trailingCharacters => "trailing characters"
  | unfit text => text

end Complaint

/-- What was looked at behind the place of a fault. At the end of the input more of it could change the
complaint, or, where only a closing bracket was looked for, the place alone. -/
inductive Look where
  | nothing
  | octet
  | ending
  | unclosed
  deriving DecidableEq, Repr

/-- A complaint, its place, and what was looked at behind that place. -/
structure Fault where
  offset : Nat
  complaint : Complaint
  look : Look
  deriving DecidableEq, Repr

namespace Fault

/-- The line of an offset and the column in it. -/
def place (input : Bytes) (offset : Nat) : Nat × Nat :=
  let passed := input.take offset
  (passed.count 0x0A + 1, (passed.reverse.takeWhile (· != 0x0A)).length)

/-- The complaint with a place. -/
def messageAt (input : Bytes) (fault : Fault) (offset : Nat) : String :=
  let (line, column) := place input offset
  s!"{fault.complaint.text} at line {line} column {column}"

def message (input : Bytes) (fault : Fault) : String := fault.messageAt input fault.offset

/-- The message where the input is a stream: an octet that was looked at has been taken from it. -/
def streamMessage (input : Bytes) (fault : Fault) : String :=
  fault.messageAt input (if fault.look = .octet then fault.offset + 1 else fault.offset)

end Fault

namespace Cursor

def start (input : Bytes) : Cursor := ⟨0, input⟩

def peek (cursor : Cursor) : Option UInt8 := cursor.rest.head?

/-- Pass `count` octets. -/
def skip (cursor : Cursor) (count : Nat) : Cursor :=
  let rest := cursor.rest.drop count
  ⟨cursor.offset + (cursor.rest.length - rest.length), rest⟩

/-- Pass one octet. -/
def next (cursor : Cursor) : Cursor :=
  match cursor.rest with
  | [] => cursor
  | _ :: rest => ⟨cursor.offset + 1, rest⟩

/-- A fault at the cursor. -/
def fault (cursor : Cursor) (complaint : Complaint) : Fault := ⟨cursor.offset, complaint, .nothing⟩

/-- A fault at the cursor, after a look at what follows. -/
def lookFault (cursor : Cursor) (complaint : Complaint) : Fault :=
  ⟨cursor.offset, complaint, if cursor.rest.isEmpty then .ending else .octet⟩

/-- A fault at the cursor, after a look for a closing bracket. -/
def bracketFault (cursor : Cursor) (complaint : Complaint) : Fault :=
  ⟨cursor.offset, complaint, if cursor.rest.isEmpty then .unclosed else .octet⟩

/-- A fault of the octet after the cursor, or of the end of the input. -/
def peekFault (cursor : Cursor) (complaint : Complaint) : Fault :=
  match cursor.rest with
  | [] => ⟨cursor.offset, complaint, .ending⟩
  | _ :: _ => cursor.next.fault complaint

def isBlank (byte : UInt8) : Bool := byte == 0x20 || byte == 0x0A || byte == 0x09 || byte == 0x0D

def skipBlanksFrom (offset : Nat) : Bytes → Cursor
  | [] => ⟨offset, []⟩
  | byte :: rest => if isBlank byte then skipBlanksFrom (offset + 1) rest else ⟨offset, byte :: rest⟩

/-- Pass blanks and line ends. -/
def skipBlanks (cursor : Cursor) : Cursor := skipBlanksFrom cursor.offset cursor.rest

def isDigit (byte : UInt8) : Bool := 0x30 ≤ byte && byte ≤ 0x39

/-- Whether the next octet is a digit. -/
def atDigit (cursor : Cursor) : Bool := cursor.peek.any isDigit

end Cursor

/-- Pass the given octets. -/
def readWord : (word : Bytes) → Cursor → Except Fault Cursor
  | [], cursor => .ok cursor
  | expected :: word, cursor =>
    match cursor.peek with
    | none => .error (cursor.peekFault .endInValue)
    | some byte =>
      if byte = expected then readWord word cursor.next else .error (cursor.peekFault .expectedWord)

/-! ## Strings -/

/-- The value of a hexadecimal digit. -/
def hexValue? (byte : UInt8) : Option Nat :=
  if Cursor.isDigit byte then some (byte.toNat - 0x30)
  else if 0x61 ≤ byte && byte ≤ 0x66 then some (byte.toNat - 0x57)
  else if 0x41 ≤ byte && byte ≤ 0x46 then some (byte.toNat - 0x37)
  else none

/-- Where a reader of a string stands: between characters, behind a backslash, behind some of the four
digits of an escape, or behind the first escape of a surrogate pair and the backslash of the second. -/
inductive StringState where
  | plain
  | escape
  | hex (lead : Option Nat) (digits : List UInt8)
  | pair (lead : Nat)
  | pairEscape (lead : Nat)
  deriving DecidableEq, Repr

/-- The character of a short escape. -/
def shortEscape? (byte : UInt8) : Option UInt8 :=
  match byte with
  | 0x22 => some 0x22
  | 0x5C => some 0x5C
  | 0x2F => some 0x2F
  | 0x62 => some 0x08
  | 0x66 => some 0x0C
  | 0x6E => some 0x0A
  | 0x72 => some 0x0D
  | 0x74 => some 0x09
  | _ => none

/-- The octets of a character. -/
def unitBytes (unit : Nat) : Bytes := String.utf8EncodeChar (Char.ofNat unit)

/-- What the four digits of an escape come to: octets, or the wait for a second escape. A reader that
is not `checked` takes every number. -/
def closeHex (checked : Bool) (lead : Option Nat) (digits : List UInt8) :
    Except Complaint (Bytes × StringState) :=
  match digits.mapM hexValue? with
  | none => .error .invalidEscape
  | some values =>
    let unit := values.foldl (fun n value => 16 * n + value) 0
    if !checked then .ok ([], .plain)
    else match lead with
      | some high =>
        if 0xDC00 ≤ unit ∧ unit ≤ 0xDFFF then
          .ok (unitBytes ((high - 0xD800) * 1024 + (unit - 0xDC00) + 0x10000), .plain)
        else .error .loneSurrogate
      | none =>
        if 0xDC00 ≤ unit ∧ unit ≤ 0xDFFF then .error .loneSurrogate
        else if 0xD800 ≤ unit ∧ unit ≤ 0xDBFF then .ok ([], .pair unit)
        else .ok (unitBytes unit, .plain)

/-- One octet of a string: `none` if it closes the string, and else the octets that it completes and
the state after it. -/
def stringStep (checked : Bool) (state : StringState) (byte : UInt8) :
    Except Complaint (Option (Bytes × StringState)) :=
  match state with
  | .plain =>
    if byte = 0x22 then .ok none
    else if byte = 0x5C then .ok (some ([], .escape))
    else if byte < 0x20 then .error .controlCharacter
    else .ok (some ([byte], .plain))
  | .escape =>
    if byte = 0x75 then .ok (some ([], .hex none []))
    else match shortEscape? byte with
      | some char => .ok (some ([char], .plain))
      | none => .error .invalidEscape
  | .hex lead digits =>
    if digits.length < 3 then .ok (some ([], .hex lead (digits ++ [byte])))
    else (closeHex checked lead (digits ++ [byte])).map some
  | .pair lead => if byte = 0x5C then .ok (some ([], .pairEscape lead)) else .error .openEscape
  | .pairEscape lead => if byte = 0x75 then .ok (some ([], .hex (some lead) [])) else .error .openEscape

/-- Read a string up to its closing quote. -/
def readStringFrom (checked : Bool) (state : StringState) (offset : Nat) :
    Bytes → Except Fault (Bytes × Cursor)
  | [] => .error ⟨offset, .endInString, .ending⟩
  | byte :: rest =>
    match stringStep checked state byte with
    | .error complaint =>
      let passed := checked || complaint != .controlCharacter
      .error (if passed then ⟨offset + 1, complaint, .nothing⟩ else ⟨offset, complaint, .octet⟩)
    | .ok none => .ok ([], ⟨offset + 1, rest⟩)
    | .ok (some (bytes, state)) => do
      let (tail, cursor) ← readStringFrom checked state (offset + 1) rest
      return (bytes ++ tail, cursor)

/-- Read a string, behind its opening quote. Text that is not UTF-8 is refused before the closing quote
is passed. -/
def readString (cursor : Cursor) : Except Fault (String × Cursor) := do
  let (bytes, cursor) ← readStringFrom true .plain cursor.offset cursor.rest
  match Utf8.decode? bytes with
  | some text => return (text, cursor)
  | none => throw ⟨cursor.offset - 1, .invalidText, .octet⟩

/-- Pass a string, behind its opening quote. Its characters are not looked at. -/
def skipString (cursor : Cursor) : Except Fault Cursor := do
  let (_, cursor) ← readStringFrom false .plain cursor.offset cursor.rest
  return cursor

end TestDaemon.Json
