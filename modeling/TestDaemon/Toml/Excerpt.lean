import TestDaemon.Text.Utf8
import TestDaemon.Toml.Node

/-! # Marked excerpts

A fault in a document is shown by the line where its stretch begins, with a mark under the part of the
stretch on that line. Lines and columns count from 1, columns in characters; the mark has a caret for
each octet and one at least.
-/

namespace TestDaemon.Toml

/-- A complaint about a document, and the stretch that it is about. -/
structure Misfit where
  text : String
  span : Option Span
  deriving DecidableEq, Repr

namespace Misfit

/-- The lines of a text, without their line feeds. -/
def lines (octets : Bytes) : List Bytes :=
  octets.foldr
    (fun byte rest =>
      if byte = 0x0A then [] :: rest
      else match rest with
        | line :: rest => (byte :: line) :: rest
        | [] => [[byte]])
    [[]]

/-- The number of characters that begin in some octets. -/
def characters (octets : Bytes) : Nat := octets.countP fun byte => byte < 0x80 || 0xC0 ≤ byte

/-- The line and column of an offset, both counted from 0. -/
def place (octets : Bytes) (offset : Nat) : Nat × Nat :=
  let passed := octets.take offset
  (passed.count 0x0A, characters (passed.reverse.takeWhile (· != 0x0A)))

def blanks (count : Nat) : String := String.ofList (List.replicate count ' ')

/-- The excerpt with the complaint below it. -/
def message (text : String) (misfit : Misfit) : String :=
  match misfit.span with
  | none => misfit.text ++ "\n"
  | some span =>
    let octets := Utf8.encode text
    let (line, column) := place octets span.start
    let content := ((lines octets)[line]?).getD []
    let number := toString (line + 1)
    let gutter := blanks (number.length + 1) ++ "|"
    let carets := max 1 (min (span.stop - span.start) (content.length - column))
    s!"TOML parse error at line {number}, column {column + 1}\n" ++ gutter ++ "\n" ++
      number ++ " | " ++ Utf8.decodeLossy content ++ "\n" ++
      gutter ++ blanks (column + 1) ++ String.ofList (List.replicate carets '^') ++ "\n" ++
      misfit.text ++ "\n"

/-- The complaint with a stretch, if it has none of its own. -/
def within (span : Option Span) (misfit : Misfit) : Misfit :=
  { misfit with span := misfit.span <|> span }

end Misfit

end TestDaemon.Toml
