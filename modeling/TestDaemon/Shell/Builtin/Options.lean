import TestDaemon.Shell.Engine

/-! # Options of built-in commands

Options are single letters; a number is one of 31 bits.
-/

namespace TestDaemon

namespace Shell

/-- A built-in command, with the name that it was called by and its arguments. -/
abbrev Builtin := Engine → (name : Octets) → (arguments : List Octets) → Run Nat

namespace Builtin

/-- Take the letters of one argument. -/
def takeLetters (flags valued : String) : List Char → List Octets → Run (List (Char × Octets) × List Octets)
  | [], rest => return ([], rest)
  | c :: letters, rest => do
    if valued.contains c then
      if !letters.isEmpty then return ([(c, String.ofList letters)], rest)
      match rest with
      | value :: rest => return ([(c, value)], rest)
      | [] => Run.fail s!"No arg for -{c} option"
    else if flags.contains c then
      let (given, rest) ← takeLetters flags valued letters rest
      return ((c, "") :: given, rest)
    else Run.fail s!"Illegal option -{c}"

/-- Take the options at the front: letters alone, and letters behind which a value follows. -/
def takeOptions (flags valued : String) : (bound : Nat) → List Octets → Run (List (Char × Octets) × List Octets)
  | 0, rest => return ([], rest)
  | _ + 1, [] => return ([], [])
  | bound + 1, argument :: rest => do
    if argument = "--" then return ([], rest)
    if !argument.startsWith "-" || argument = "-" then return ([], argument :: rest)
    let (first, rest) ← takeLetters flags valued argument.toList.tail rest
    let (given, rest) ← takeOptions flags valued bound rest
    return (first ++ given, rest)

def options (flags valued : String) (arguments : List Octets) :
    Run (List (Char × Octets) × List Octets) :=
  takeOptions flags valued (arguments.length + 1) arguments

/-- The first number past those that commands take. -/
def numberLimit : Int := 2147483648

/-- The number that a text is. -/
def number (text : Octets) : Run Nat := do
  match Numeral.read? 10 text with
  | some value => if 0 ≤ value && value < numberLimit then return value.toNat else Run.badNumber text
  | none => Run.badNumber text

/-- A text in single quotes, from which a shell reads it back. -/
def quotedAlways (text : Octets) : Octets :=
  let pieces := Octets.split '\'' text
  let parts := pieces.mapIdx fun index piece =>
    let head := if index = 0 then "" else "\"'\""
    if piece = "" && 1 < pieces.length then head else head ++ "'" ++ piece ++ "'"
  String.join parts

end Builtin

end Shell

end TestDaemon
