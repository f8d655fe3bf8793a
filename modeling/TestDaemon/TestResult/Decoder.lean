import TestDaemon.Error
import TestDaemon.Json.Number
import TestDaemon.Json.Skipping
import TestDaemon.TestResult
import TestDaemon.Text.Quoted
import TestDaemon.Timestamp.Parser

/-! # Reading test results

A result is a JSON object with the members of its written form, in any order, or a list of the four
values in that order. Other members are passed over, an absent or null message is none, and a status
may also be the key of an object with the value null.
-/

namespace TestDaemon

/-- What is expected where the value of another kind stands. -/
def Json.Complaint.unexpected (found expected : String) : Json.Complaint :=
  .unfit ("invalid type: " ++ found ++ ", expected " ++ expected)

namespace TestResult

open Json

/-- The refusal of a value that cannot be a list, an object or a string where `expected` is asked. -/
def unexpectedValue (expected : String) (cursor : Cursor) : Fault :=
  let word (letters : Bytes) (found : String) : Fault :=
    match readWord letters cursor.next with
    | .ok cursor => cursor.fault (.unexpected found expected)
    | .error fault => fault
  let number (negative : Bool) (cursor : Cursor) : Fault :=
    match Number.read negative cursor with
    | .ok (number, cursor) => cursor.lookFault (.unexpected number.describe expected)
    | .error fault => fault
  match cursor.peek with
  | some 0x6E => word [0x75, 0x6C, 0x6C] "null"
  | some 0x74 => word [0x72, 0x75, 0x65] "boolean `true`"
  | some 0x66 => word [0x61, 0x6C, 0x73, 0x65] "boolean `false`"
  | some 0x2D => number true cursor.next
  | some 0x22 =>
    match readString cursor.next with
    | .ok (text, cursor) => cursor.fault (.unexpected ("string " ++ Text.quote text) expected)
    | .error fault => fault
  | some 0x5B => cursor.lookFault (.unexpected "sequence" expected)
  | some 0x7B => cursor.lookFault (.unexpected "map" expected)
  | some byte =>
    if Cursor.isDigit byte then number false cursor else cursor.peekFault .expectedValue
  | none => cursor.peekFault .expectedValue

/-- Read a string. -/
def readText (expected : String) (cursor : Cursor) : Except Fault (String × Cursor) :=
  let cursor := cursor.skipBlanks
  match cursor.peek with
  | none => .error (cursor.peekFault .endInValue)
  | some 0x22 => readString cursor.next
  | some _ => .error (unexpectedValue expected cursor)

/-- Read a string or null. -/
def readMessage (cursor : Cursor) : Except Fault (Option String × Cursor) :=
  let cursor := cursor.skipBlanks
  match cursor.peek with
  | some 0x6E => (readWord [0x75, 0x6C, 0x6C] cursor.next).map fun cursor => (none, cursor)
  | _ => (readText "a string" cursor).map fun (text, cursor) => (some text, cursor)

/-- Read a timestamp in a string. -/
def readTimestamp (cursor : Cursor) : Except Fault (Timestamp × Cursor) := do
  let (text, cursor) ← readText "an RFC 3339 formatted date and time string" cursor
  match Timestamp.parse text with
  | .ok timestamp => return (timestamp, cursor)
  | .error fault => throw (cursor.fault (.unfit fault.text))

/-- The status of a name. -/
def statusOf? (name : String) : Option TestStatus :=
  [TestStatus.passed, .failed, .skipped].find? fun status => status.name = name

def unknownStatus (name : String) : Complaint :=
  .unfit ("unknown variant `" ++ name ++ "`, expected one of `passed`, `failed`, `skipped`")

def readStatusName (cursor : Cursor) : Except Fault (TestStatus × Cursor) := do
  let (name, cursor) ← readText "variant identifier" cursor
  match statusOf? name with
  | some status => return (status, cursor)
  | none => throw (cursor.fault (unknownStatus name))

/-- Read a status: its name, or an object that maps it to null. -/
def readStatus (cursor : Cursor) : Except Fault (TestStatus × Cursor) := do
  let cursor := cursor.skipBlanks
  match cursor.peek with
  | none => throw (cursor.peekFault .endInValue)
  | some 0x22 => readStatusName cursor
  | some 0x7B =>
    let (status, cursor) ← readStatusName cursor.next
    let cursor := cursor.skipBlanks
    match cursor.peek with
    | none => throw (cursor.peekFault .endInObject)
    | some 0x3A =>
      let cursor := cursor.next.skipBlanks
      match cursor.peek with
      | none => throw (cursor.peekFault .endInValue)
      | some 0x6E =>
        let cursor := (← readWord [0x75, 0x6C, 0x6C] cursor.next).skipBlanks
        match cursor.peek with
        | some 0x7D => return (status, cursor.next)
        | some _ => throw (cursor.lookFault .expectedValue)
        | none => throw (cursor.peekFault .endInObject)
      | some _ => throw (unexpectedValue "unit" cursor)
    | some _ => throw (cursor.peekFault .expectedColon)
  | some _ => throw (cursor.peekFault .expectedValue)

/-! ## Objects -/

/-- The members read so far. -/
structure Members where
  status : Option TestStatus
  message : Option (Option String)
  startedAt : Option Timestamp
  finishedAt : Option Timestamp

def Members.empty : Members := ⟨none, none, none, none⟩

/-- Why the members of an object are no result: a fault with its place, or a complaint that is only
placed once the object has been closed. -/
inductive Refusal where
  | placed (fault : Fault)
  | open (cursor : Cursor) (text : String)

def Refusal.ofFault {α : Type} (read : Except Fault α) : Except Refusal α := read.mapError .placed

/-- Pass the colon behind a key. -/
def readColon (cursor : Cursor) : Except Fault Cursor :=
  let cursor := cursor.skipBlanks
  match cursor.peek with
  | some 0x3A => .ok cursor.next
  | some _ => .error (cursor.peekFault .expectedColon)
  | none => .error (cursor.peekFault .endInObject)

/-- Read a member that may occur once. -/
def readOnce {α : Type} (name : String) (known : Option α) (read : Cursor → Except Fault (α × Cursor))
    (cursor : Cursor) : Except Refusal (α × Cursor) :=
  match known with
  | some _ => .error (.open cursor ("duplicate field `" ++ name ++ "`"))
  | none => Refusal.ofFault (readColon cursor >>= read)

/-- Read the value of a key. -/
def readMember (members : Members) (key : String) (cursor : Cursor) :
    Except Refusal (Members × Cursor) :=
  match key with
  | "status" => do
    let (status, cursor) ← readOnce key members.status readStatus cursor
    return ({ members with status := some status }, cursor)
  | "message" => do
    let (message, cursor) ← readOnce key members.message readMessage cursor
    return ({ members with message := some message }, cursor)
  | "started_at" => do
    let (startedAt, cursor) ← readOnce key members.startedAt readTimestamp cursor
    return ({ members with startedAt := some startedAt }, cursor)
  | "finished_at" => do
    let (finishedAt, cursor) ← readOnce key members.finishedAt readTimestamp cursor
    return ({ members with finishedAt := some finishedAt }, cursor)
  | _ => do
    let cursor ← Refusal.ofFault (readColon cursor >>= skipValue)
    return (members, cursor)

/-- The result with the given members. -/
def Members.close (members : Members) (cursor : Cursor) : Except Refusal (TestResult × Cursor) :=
  let missing (name : String) : Refusal := .open cursor ("missing field `" ++ name ++ "`")
  match members.status, members.startedAt, members.finishedAt with
  | none, _, _ => .error (missing "status")
  | _, none, _ => .error (missing "started_at")
  | _, _, none => .error (missing "finished_at")
  | some status, some startedAt, some finishedAt =>
    .ok (⟨status, members.message.join, startedAt, finishedAt⟩, cursor)

/-- Read members up to the closing brace. Every member takes an octet or more, so the length of the
input bounds their number. -/
def readMembers : (bound : Nat) → (first : Bool) → Members → Cursor →
    Except Refusal (TestResult × Cursor)
  | 0, _, _, cursor => .error (.placed (cursor.fault .endInObject))
  | bound + 1, first, members, cursor => do
    let cursor := cursor.skipBlanks
    match cursor.peek with
    | none => throw (.placed (cursor.peekFault .endInObject))
    | some 0x7D => members.close cursor
    | some byte =>
      if byte ≠ 0x2C ∧ !first then throw (.placed (cursor.peekFault .expectedObjectEnd))
      else
        let cursor := if first then cursor else cursor.next.skipBlanks
        match cursor.peek with
        | none => throw (.placed (cursor.peekFault .endInValue))
        | some 0x22 =>
          let (key, cursor) ← Refusal.ofFault (readString cursor.next)
          let (members, cursor) ← readMember members key cursor
          readMembers bound false members cursor
        | some 0x7D => throw (.placed (cursor.peekFault .trailingComma))
        | some _ => throw (.placed (cursor.peekFault .keyNotString))

/-- Pass the closing brace. -/
def closeObject (cursor : Cursor) : Except Fault Cursor :=
  let cursor := cursor.skipBlanks
  match cursor.peek with
  | some 0x7D => .ok cursor.next
  | some 0x2C => .error (cursor.peekFault .trailingComma)
  | some _ => .error (cursor.peekFault .trailingCharacters)
  | none => .error (cursor.peekFault .endInObject)

/-- A fault where the attempt to pass the closing brace leads. -/
def afterObject (cursor : Cursor) (complaint : Complaint) : Fault :=
  let cursor := cursor.skipBlanks
  if cursor.peek = some 0x7D then cursor.next.fault complaint else cursor.bracketFault complaint

/-! ## Lists -/

/-- Read an element of a list, if there is one more. -/
def readElement {α : Type} (first : Bool) (read : Cursor → Except Fault (α × Cursor))
    (cursor : Cursor) : Except Fault (Option α × Cursor) := do
  let cursor := cursor.skipBlanks
  match cursor.peek with
  | none => throw (cursor.peekFault .endInList)
  | some 0x5D => return (none, cursor)
  | some byte =>
    if byte ≠ 0x2C ∧ !first then throw (cursor.peekFault .expectedListEnd)
    else
      let cursor := if first then cursor else cursor.next.skipBlanks
      match cursor.peek with
      | none => throw (cursor.peekFault .endInValue)
      | some 0x5D => throw (cursor.peekFault .trailingComma)
      | some _ =>
        let (value, cursor) ← read cursor
        return (some value, cursor)

def readElements (cursor : Cursor) : Except Refusal (TestResult × Cursor) := do
  let short (cursor : Cursor) (count : Nat) : Refusal :=
    .open cursor s!"invalid length {count}, expected struct TestResult with 4 elements"
  let (status, cursor) ← Refusal.ofFault (readElement true readStatus cursor)
  match status with
  | none => throw (short cursor 0)
  | some status =>
    let (message, cursor) ← Refusal.ofFault (readElement false readMessage cursor)
    let (startedAt, cursor) ← Refusal.ofFault (readElement false readTimestamp cursor)
    match startedAt with
    | none => throw (short cursor 2)
    | some startedAt =>
      let (finishedAt, cursor) ← Refusal.ofFault (readElement false readTimestamp cursor)
      match finishedAt with
      | none => throw (short cursor 3)
      | some finishedAt => return (⟨status, message.join, startedAt, finishedAt⟩, cursor)

/-- Pass the closing bracket. -/
def closeList (cursor : Cursor) : Except Fault Cursor :=
  let cursor := cursor.skipBlanks
  match cursor.peek with
  | some 0x5D => .ok cursor.next
  | some 0x2C =>
    let cursor := cursor.next.skipBlanks
    .error (cursor.peekFault (if cursor.peek = some 0x5D then .trailingComma else .trailingCharacters))
  | some _ => .error (cursor.peekFault .trailingCharacters)
  | none => .error (cursor.peekFault .endInList)

/-- A fault where the attempt to pass the closing bracket leads. -/
def afterList (cursor : Cursor) (complaint : Complaint) : Fault :=
  let cursor := cursor.skipBlanks
  if cursor.peek = some 0x5D then cursor.next.fault complaint
  else if cursor.peek = some 0x2C then cursor.next.skipBlanks.bracketFault complaint
  else cursor.bracketFault complaint

/-- Place an open complaint behind the value that it is about. -/
def settle (after : Cursor → Complaint → Fault) (close : Cursor → Except Fault Cursor) :
    Except Refusal (TestResult × Cursor) → Except Fault (TestResult × Cursor)
  | .error (.placed fault) => .error fault
  | .error (.open cursor text) => .error (after cursor (.unfit text))
  | .ok (result, cursor) => (close cursor).map fun cursor => (result, cursor)

/-- Read a result and leave what follows it. -/
def read (cursor : Cursor) : Except Fault (TestResult × Cursor) :=
  let cursor := cursor.skipBlanks
  match cursor.peek with
  | none => .error (cursor.peekFault .endInValue)
  | some 0x5B => settle afterList closeList (readElements cursor.next)
  | some 0x7B =>
    settle afterObject closeObject
      (readMembers (cursor.rest.length + 1) true .empty cursor.next)
  | some _ => .error (unexpectedValue "struct TestResult" cursor)

/-- Read a result that takes up the whole input, apart from blanks. -/
def decode (input : Bytes) : Except Fault TestResult := do
  let (result, cursor) ← read (.start input)
  let cursor := cursor.skipBlanks
  match cursor.peek with
  | none => return result
  | some _ => throw (cursor.peekFault .trailingCharacters)

end TestResult

/-- The error of an input that is no test result. -/
def Error.invalidResult (input : Bytes) (fault : Json.Fault) : Error :=
  ⟨.execution, "invalid test result encoding: " ++ fault.message input⟩

end TestDaemon
