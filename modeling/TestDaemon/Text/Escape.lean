/-! # Escapes

Octets that are written by a backslash and letters or octal digits.
-/

namespace TestDaemon

namespace Escape

/-- The octet of an escape by a letter. -/
def ofLetter? : Char → Option Char
  | 'a' => some '\x07'
  | 'b' => some '\x08'
  | 'e' => some '\x1b'
  | 'f' => some '\x0c'
  | 'n' => some '\n'
  | 'r' => some '\r'
  | 't' => some '\t'
  | 'v' => some '\x0b'
  | '\\' => some '\\'
  | _ => none

def isOctal (c : Char) : Bool := '0' ≤ c && c ≤ '7'

/-- The octet of the octal digits at the front, of which there are at most `limit`, and the rest. -/
def octal (limit : Nat) (text : List Char) : Char × List Char :=
  let digits := (text.take limit).takeWhile isOctal
  let value := digits.foldl (fun n c => 8 * n + (c.toNat - 48)) 0
  (Char.ofNat (value % 256), text.drop digits.length)

/-- The octet of the escape behind a backslash, with the rest. What is no escape is a backslash. -/
def one (text : List Char) : Char × List Char :=
  match text with
  | [] => ('\\', [])
  | c :: rest =>
    if isOctal c then octal 3 text
    else match ofLetter? c with
      | some octet => (octet, rest)
      | none => ('\\', text)

/-- A text with its escapes replaced, and whether the output goes on behind it. An escaped `c` ends it;
a zero in front of octal digits does not count as one of them. -/
def all : (bound : Nat) → List Char → List Char × Bool
  | 0, _ => ([], true)
  | _ + 1, [] => ([], true)
  | _ + 1, '\\' :: 'c' :: _ => ([], false)
  | bound + 1, '\\' :: '0' :: rest =>
    let (octet, rest) := octal 3 rest
    let (tail, goesOn) := all bound rest
    (octet :: tail, goesOn)
  | bound + 1, '\\' :: rest =>
    let (octet, rest) := one rest
    let (tail, goesOn) := all bound rest
    (octet :: tail, goesOn)
  | bound + 1, c :: rest =>
    let (tail, goesOn) := all bound rest
    (c :: tail, goesOn)

/-- A text with its escapes replaced, and whether the output goes on behind it. -/
def replaced (text : String) : String × Bool :=
  let (chars, goesOn) := all (text.length + 1) text.toList
  (String.ofList chars, goesOn)

end Escape

end TestDaemon
