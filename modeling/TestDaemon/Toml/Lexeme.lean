import TestDaemon.Text.Digits
import TestDaemon.Toml.Node

/-! # The words of TOML

Keys, strings, numbers and dates. A reader takes what it can from the front of the text, and says
nothing about what follows; it fails where the text is no word of its kind.
-/

namespace TestDaemon.Toml

open Text

/-- A place in the text: the octets before it and the characters after it. -/
structure Cursor where
  offset : Nat
  rest : List Char
  deriving DecidableEq, Repr

abbrev Reader (α : Type) := Cursor → Option (α × Cursor)

namespace Cursor

def start (text : String) : Cursor := ⟨0, text.toList⟩

/-- The octets of a run of characters. -/
def width (chars : List Char) : Nat := chars.foldl (· + ·.utf8Size) 0

/-- Pass `count` characters. -/
def skip (cursor : Cursor) (count : Nat) : Cursor :=
  ⟨cursor.offset + width (cursor.rest.take count), cursor.rest.drop count⟩

/-- Pass the characters of a class. -/
def skipWhile (p : Char → Bool) (cursor : Cursor) : Cursor :=
  cursor.skip (cursor.rest.takeWhile p).length

/-- Pass the given characters. -/
def expect? (chars : List Char) (cursor : Cursor) : Option Cursor :=
  if chars.isPrefixOf cursor.rest then some (cursor.skip chars.length) else none

end Cursor

/-! ## Blanks -/

def isSpace (c : Char) : Bool := c == ' ' || c == '\t'

def skipSpaces (cursor : Cursor) : Cursor := cursor.skipWhile isSpace

/-- Characters that may stand in a comment. -/
def isCommentChar (c : Char) : Bool := c == '\t' || (0x20 ≤ c.toNat && c.toNat != 0x7F)

def readNewline? (cursor : Cursor) : Option Cursor :=
  match cursor.rest with
  | '\n' :: _ => some (cursor.skip 1)
  | '\r' :: '\n' :: _ => some (cursor.skip 2)
  | _ => none

/-- Pass a comment, if there is one. -/
def skipComment (cursor : Cursor) : Cursor :=
  match cursor.rest with
  | '#' :: _ => (cursor.skip 1).skipWhile isCommentChar
  | _ => cursor

/-- Pass the end of a line, or come to the end of the text. -/
def readLineEnd? (cursor : Cursor) : Option Cursor :=
  if cursor.rest.isEmpty then some cursor else readNewline? cursor

/-- Pass what may follow a value on its line. -/
def readLineTail? (cursor : Cursor) : Option Cursor := readLineEnd? (skipComment (skipSpaces cursor))

/-- Pass spaces, line ends and comments, each comment with its line end. -/
def skipLines? : (bound : Nat) → Cursor → Option Cursor
  | 0, _ => none
  | bound + 1, cursor =>
    let cursor := skipSpaces cursor
    match cursor.rest with
    | '#' :: _ => (readNewline? (skipComment cursor)).bind (skipLines? bound)
    | '\n' :: _ => (readNewline? cursor).bind (skipLines? bound)
    | '\r' :: _ => (readNewline? cursor).bind (skipLines? bound)
    | _ => some cursor

def skipBlankLines? (cursor : Cursor) : Option Cursor := skipLines? (cursor.rest.length + 1) cursor

/-! ## Strings -/

/-- Characters that stand for themselves in a string. -/
def isPlain (c : Char) : Bool := c == '\t' || (0x20 ≤ c.toNat && c.toNat != 0x7F)

/-- The character with a code point that some digits give. -/
def codePoint? (width : Nat) (chars : List Char) : Option Char := do
  let digits := chars.take width
  let complete := digits.length = width ∧ digits.all (isDigitOf 16)
  let value := numberOf 16 digits
  if complete ∧ value.isValidChar then some (Char.ofNat value) else none

/-- The character of an escape and the length of the escape behind its backslash. -/
def readEscape? : List Char → Option (Char × Nat)
  | 'b' :: _ => some ('\x08', 1)
  | 't' :: _ => some ('\t', 1)
  | 'n' :: _ => some ('\n', 1)
  | 'f' :: _ => some ('\x0c', 1)
  | 'r' :: _ => some ('\r', 1)
  | '"' :: _ => some ('"', 1)
  | '\\' :: _ => some ('\\', 1)
  | 'u' :: rest => (codePoint? 4 rest).map (·, 5)
  | 'U' :: rest => (codePoint? 8 rest).map (·, 9)
  | _ => none

/-- Read the rest of a basic string; every step takes a character or more. -/
def readBasic? : (bound : Nat) → Reader (List Char)
  | 0, _ => none
  | bound + 1, cursor =>
    match cursor.rest with
    | '"' :: _ => some ([], cursor.skip 1)
    | '\\' :: rest => do
      let (c, length) ← readEscape? rest
      let (text, cursor) ← readBasic? bound (cursor.skip (length + 1))
      return (c :: text, cursor)
    | c :: _ =>
      if isPlain c then (readBasic? bound (cursor.skip 1)).map fun (text, cursor) => (c :: text, cursor)
      else none
    | [] => none

/-- Pass the blanks behind a backslash at the end of a line. -/
def skipContinuation? (cursor : Cursor) : Option Cursor := do
  let cursor ← readNewline? (skipSpaces cursor)
  return cursor.skip (lengthOf cursor.rest)
where
  /-- The length of the spaces and line ends at the front. -/
  lengthOf : List Char → Nat
    | ' ' :: rest => lengthOf rest + 1
    | '\t' :: rest => lengthOf rest + 1
    | '\n' :: rest => lengthOf rest + 1
    | '\r' :: '\n' :: rest => lengthOf rest + 2
    | _ => 0

/-- The quotes that belong to a text before its closing three, and those passed: up to two more than
three close the text. -/
def closingQuotes (run : Nat) : Nat × Nat := (min run 5 - 3, min run 5)

/-- Read the rest of a string over several lines; every step takes a character or more. -/
def readMultiline? (quote : Char) (escapes : Bool) : (bound : Nat) → Reader (List Char)
  | 0, _ => none
  | bound + 1, cursor =>
    match readNewline? cursor with
    | some cursor =>
      (readMultiline? quote escapes bound cursor).map fun (text, cursor) => ('\n' :: text, cursor)
    | none =>
      match cursor.rest with
      | [] => none
      | c :: rest =>
        if c = quote then
          let run := (cursor.rest.takeWhile (· = quote)).length
          if 3 ≤ run then
            let (kept, passed) := closingQuotes run
            some (List.replicate kept quote, cursor.skip passed)
          else
            (readMultiline? quote escapes bound (cursor.skip run)).map fun (text, cursor) =>
              (List.replicate run quote ++ text, cursor)
        else if c = '\\' ∧ escapes then
          match skipContinuation? (cursor.skip 1) with
          | some cursor => readMultiline? quote escapes bound cursor
          | none => do
            let (c, length) ← readEscape? rest
            let (text, cursor) ← readMultiline? quote escapes bound (cursor.skip (length + 1))
            return (c :: text, cursor)
        else if isPlain c then
          (readMultiline? quote escapes bound (cursor.skip 1)).map fun (text, cursor) =>
            (c :: text, cursor)
        else none

/-- Pass a line end right behind the opening quotes. -/
def skipFirstNewline (cursor : Cursor) : Cursor := (readNewline? cursor).getD cursor

/-- Read a literal string, behind its opening quote. -/
def readLiteral? (cursor : Cursor) : Option (List Char × Cursor) :=
  let text := cursor.rest.takeWhile fun c => c != '\'' && isPlain c
  ((cursor.skip text.length).expect? ['\'']).map fun cursor => (text, cursor)

/-- Read a string on one line. -/
def readLineString? : Reader String := fun cursor =>
  match cursor.rest with
  | '"' :: _ =>
    (readBasic? cursor.rest.length (cursor.skip 1)).map fun (text, cursor) =>
      (String.ofList text, cursor)
  | '\'' :: _ =>
    (readLiteral? (cursor.skip 1)).map fun (text, cursor) => (String.ofList text, cursor)
  | _ => none

/-- Read a string of any form. -/
def readString? : Reader String := fun cursor =>
  let multiline (quote : Char) (escapes : Bool) : Option (String × Cursor) :=
    let cursor := skipFirstNewline (cursor.skip 3)
    (readMultiline? quote escapes (cursor.rest.length + 1) cursor).map fun (text, cursor) =>
      (String.ofList text, cursor)
  match cursor.rest with
  | '"' :: '"' :: '"' :: _ => multiline '"' true
  | '\'' :: '\'' :: '\'' :: _ => multiline '\'' false
  | _ => readLineString? cursor

/-! ## Keys -/

def isBareKeyChar (c : Char) : Bool :=
  c.isDigit || ('a' ≤ c && c ≤ 'z') || ('A' ≤ c && c ≤ 'Z') || c == '-' || c == '_'

/-- Read one part of a key. -/
def readKeyPart? : Reader Key := fun cursor => do
  let (name, after) ← match cursor.rest with
    | '"' :: _ => readLineString? cursor
    | '\'' :: _ => readLineString? cursor
    | _ =>
      let run := cursor.rest.takeWhile isBareKeyChar
      if run.isEmpty then none else some (String.ofList run, cursor.skip run.length)
  return (⟨name, ⟨cursor.offset, after.offset⟩⟩, after)

/-- Read the parts of a key; every part takes a character or more. -/
def readKeyParts? : (bound : Nat) → Reader (List Key)
  | 0, _ => none
  | bound + 1, cursor => do
    let (key, cursor) ← readKeyPart? (skipSpaces cursor)
    let cursor := skipSpaces cursor
    match cursor.rest with
    | '.' :: _ =>
      let (keys, cursor) ← readKeyParts? bound (cursor.skip 1)
      return (key :: keys, cursor)
    | _ => return ([key], cursor)

/-- The nesting of values and the parts of keys stay below this limit. -/
def depthLimit : Nat := 80

/-- Read a key: its parts before the last one, and the last one. -/
def readKey? : Reader (List Key × Key) := fun cursor => do
  let (keys, cursor) ← readKeyParts? (cursor.rest.length + 1) cursor
  if depthLimit ≤ keys.length then none
  else
    let last ← keys.getLast?
    return ((keys.dropLast, last), cursor)

/-! ## Numbers -/

/-- Read digits, between which single underscores may stand, and give the digits. -/
def readDigits? (p : Char → Bool) : (bound : Nat) → Reader (List Char)
  | 0, _ => none
  | bound + 1, cursor =>
    let run := cursor.rest.takeWhile p
    if run.isEmpty then none
    else
      let after := cursor.skip run.length
      match after.rest with
      | '_' :: _ =>
        (readDigits? p bound (after.skip 1)).map fun (digits, cursor) => (run ++ digits, cursor)
      | _ => some (run, after)

/-- Read a run of digits of any class. -/
def readRun? (p : Char → Bool) : Reader (List Char) := fun cursor =>
  readDigits? p (cursor.rest.length + 1) cursor

def readSign (cursor : Cursor) : Bool × Cursor :=
  match cursor.rest with
  | '-' :: _ => (true, cursor.skip 1)
  | '+' :: _ => (false, cursor.skip 1)
  | _ => (false, cursor)

/-- Read the whole part of a decimal number: a lone 0, or digits of which the first is not 0. -/
def readWhole? : Reader (List Char) := fun cursor =>
  match cursor.rest with
  | '0' :: _ => some (['0'], cursor.skip 1)
  | _ => readRun? Char.isDigit cursor

/-- The integer of 64 bits with a value. -/
def toInt64? (value : Int) : Option Int64 :=
  if Int64.minValue.toInt ≤ value ∧ value ≤ Int64.maxValue.toInt then some (Int64.ofInt value) else none

/-- Read an integer behind the mark of its base. -/
def readBased? (base : Nat) (p : Char → Bool) : Reader Int64 := fun cursor => do
  let (digits, cursor) ← readRun? p (cursor.skip 2)
  let value ← toInt64? (numberOf base digits)
  return (value, cursor)

def readInteger? : Reader Int64 := fun cursor =>
  match cursor.rest with
  | '0' :: 'x' :: _ => readBased? 16 (isDigitOf 16) cursor
  | '0' :: 'o' :: _ => readBased? 8 (isDigitOf 8) cursor
  | '0' :: 'b' :: _ => readBased? 2 (isDigitOf 2) cursor
  | _ => do
    let (negative, cursor) := readSign cursor
    let (digits, cursor) ← readWhole? cursor
    let magnitude := (numberOf 10 digits : Int)
    let value ← toInt64? (if negative then -magnitude else magnitude)
    return (value, cursor)

/-- Read an exponent, if there is one. -/
def readExponent? (cursor : Cursor) : Option (Option Int × Cursor) :=
  match cursor.rest with
  | c :: _ =>
    if c = 'e' ∨ c = 'E' then do
      let (negative, cursor) := readSign (cursor.skip 1)
      let (digits, cursor) ← readRun? Char.isDigit cursor
      let magnitude := (numberOf 10 digits : Int)
      return (some (if negative then -magnitude else magnitude), cursor)
    else some (none, cursor)
  | [] => some (none, cursor)

/-- Read the digits behind a point, if there is one. -/
def readFraction? (cursor : Cursor) : Option (Option (List Char) × Cursor) :=
  match cursor.rest with
  | '.' :: _ =>
    (readRun? Char.isDigit (cursor.skip 1)).map fun (digits, cursor) => (some digits, cursor)
  | _ => some (none, cursor)

/-- The float with a sign and a decimal. One past the range is refused if it is positive and taken for
an infinity if it is negative. -/
def toFloat? (negative : Bool) (digits : List Char) (exponent : Int) : Option FloatValue :=
  match Binary64.ofDecimal? (numberOf 10 digits) exponent with
  | some magnitude => some (.finite negative magnitude)
  | none => if negative then some (.infinite true) else none

/-- Read a decimal with a fraction, an exponent, or both. -/
def readDecimal? : Reader FloatValue := fun cursor => do
  let (negative, cursor) := readSign cursor
  let (whole, cursor) ← readWhole? cursor
  let (fraction, cursor) ← readFraction? cursor
  let (exponent, cursor) ← readExponent? cursor
  if fraction.isNone ∧ exponent.isNone then none
  else
    let fraction := fraction.getD []
    let value ← toFloat? negative (whole ++ fraction) (exponent.getD 0 - fraction.length)
    return (value, cursor)

/-- Read an infinity or NaN. -/
def readSpecial? : Reader FloatValue := fun cursor =>
  let (negative, cursor) := readSign cursor
  match cursor.rest with
  | 'i' :: 'n' :: 'f' :: _ => some (.infinite negative, cursor.skip 3)
  | 'n' :: 'a' :: 'n' :: _ => some (.nan, cursor.skip 3)
  | _ => none

def readFloat? : Reader FloatValue := fun cursor => readDecimal? cursor <|> readSpecial? cursor

/-! ## Dates and times -/

/-- Read a number of exactly `width` digits between bounds. -/
def readField? (width low high : Nat) : Reader Nat := fun cursor =>
  let digits := cursor.rest.take width
  let value := numberOf 10 digits
  if digits.length = width ∧ digits.all Char.isDigit ∧ low ≤ value ∧ value ≤ high then
    some (value, cursor.skip width)
  else none

def monthLength (year month : Nat) : Nat :=
  if month = 2 then if year % 4 = 0 ∧ (year % 100 ≠ 0 ∨ year % 400 = 0) then 29 else 28
  else if month = 4 ∨ month = 6 ∨ month = 9 ∨ month = 11 then 30
  else 31

def readDate? (cursor : Cursor) : Option Cursor := do
  let (year, cursor) ← readField? 4 0 9999 cursor
  let (month, cursor) ← readField? 2 1 12 (← cursor.expect? ['-'])
  let (_, cursor) ← readField? 2 1 (monthLength year month) (← cursor.expect? ['-'])
  return cursor

/-- Pass the fraction of a second, if there is one. -/
def skipSecondFraction (cursor : Cursor) : Cursor :=
  match cursor.rest with
  | '.' :: c :: _ => if c.isDigit then (cursor.skip 1).skipWhile Char.isDigit else cursor
  | _ => cursor

def readTime? (cursor : Cursor) : Option Cursor := do
  let (_, cursor) ← readField? 2 0 23 cursor
  let (_, cursor) ← readField? 2 0 59 (← cursor.expect? [':'])
  let (_, cursor) ← readField? 2 0 60 (← cursor.expect? [':'])
  return skipSecondFraction cursor

/-- Pass an offset from UTC. -/
def readOffset? (cursor : Cursor) : Option Cursor :=
  match cursor.rest with
  | 'Z' :: _ => some (cursor.skip 1)
  | 'z' :: _ => some (cursor.skip 1)
  | c :: _ =>
    if c = '+' ∨ c = '-' then do
      let (_, cursor) ← readField? 2 0 23 (cursor.skip 1)
      let (_, cursor) ← readField? 2 0 59 (← cursor.expect? [':'])
      return cursor
    else none
  | [] => none

/-- Pass the time of a date, if there is one, with its offset. -/
def skipDateTime (cursor : Cursor) : Cursor :=
  match cursor.rest with
  | c :: _ =>
    if c = 'T' ∨ c = 't' ∨ c = ' ' then
      match readTime? (cursor.skip 1) with
      | some cursor => (readOffset? cursor).getD cursor
      | none => cursor
    else cursor
  | [] => cursor

/-- Pass a date, a time or both. -/
def readDatetime? (cursor : Cursor) : Option Cursor :=
  (readDate? cursor).map skipDateTime <|> readTime? cursor

end TestDaemon.Toml
