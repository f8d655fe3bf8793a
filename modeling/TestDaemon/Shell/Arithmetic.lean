import TestDaemon.Text.Numeral
import TestDaemon.Shell.State

/-! # Arithmetic

Expressions over numbers of 64 bits, which wrap around. An expression is carried out while it is read;
the parts whose value does not count are only read.
-/

namespace TestDaemon

namespace Shell

namespace Arithmetic

/-- The operators with two operands that an assignment may be combined with, and the comparisons. -/
inductive Operator where
  | multiply
  | divide
  | remainder
  | add
  | subtract
  | shiftLeft
  | shiftRight
  | less
  | lessOrEqual
  | greater
  | greaterOrEqual
  | equal
  | different
  | bitAnd
  | bitXor
  | bitOr
  deriving DecidableEq, Repr

/-- How loosely an operator binds. -/
def Operator.looseness : Operator → Nat
  | multiply | divide | remainder => 0
  | add | subtract => 1
  | shiftLeft | shiftRight => 2
  | less | lessOrEqual | greater | greaterOrEqual => 3
  | equal | different => 4
  | bitAnd => 5
  | bitXor => 6
  | bitOr => 7

inductive Lexeme where
  | number (value : Int)
  | name (name : Octets)
  | operator (operator : Operator)
  | assign (operator : Option Operator)
  | and
  | or
  | not
  | complement
  | question
  | colon
  | opening
  | closing
  | unknown
  deriving DecidableEq, Repr

/-- The operators and marks, longer ones first. -/
def marks : List (List Char × Lexeme) :=
  [(['<', '<', '='], .assign (some .shiftLeft)), (['>', '>', '='], .assign (some .shiftRight)),
    (['<', '<'], .operator .shiftLeft), (['>', '>'], .operator .shiftRight),
    (['<', '='], .operator .lessOrEqual), (['>', '='], .operator .greaterOrEqual),
    (['=', '='], .operator .equal), (['!', '='], .operator .different),
    (['&', '&'], .and), (['|', '|'], .or),
    (['*', '='], .assign (some .multiply)), (['/', '='], .assign (some .divide)),
    (['%', '='], .assign (some .remainder)), (['+', '='], .assign (some .add)),
    (['-', '='], .assign (some .subtract)), (['&', '='], .assign (some .bitAnd)),
    (['^', '='], .assign (some .bitXor)), (['|', '='], .assign (some .bitOr)),
    (['='], .assign none), (['<'], .operator .less), (['>'], .operator .greater),
    (['*'], .operator .multiply), (['/'], .operator .divide), (['%'], .operator .remainder),
    (['+'], .operator .add), (['-'], .operator .subtract), (['&'], .operator .bitAnd),
    (['^'], .operator .bitXor), (['|'], .operator .bitOr), (['!'], .not), (['~'], .complement),
    (['?'], .question), ([':'], .colon), (['('], .opening), ([')'], .closing)]

/-- The lexemes of an expression; what is not known ends it. -/
def lexemes : (bound : Nat) → List Char → List Lexeme
  | 0, _ => []
  | _ + 1, [] => []
  | bound + 1, c :: rest =>
    if c = ' ' || c = '\t' || c = '\n' then lexemes bound rest
    else if c.isDigit then
      match Numeral.scan? 0 (c :: rest) with
      | some (value, rest) => .number (Numeral.clamp value) :: lexemes bound rest
      | none => [.unknown]
    else if isNameStart c then
      .name (String.ofList (c :: rest.takeWhile isNameChar)) :: lexemes bound (rest.dropWhile isNameChar)
    else match marks.find? fun (mark, _) => mark.isPrefixOf (c :: rest) with
      | some (mark, lexeme) => lexeme :: lexemes bound ((c :: rest).drop mark.length)
      | none => [.unknown]

/-- Refuse an expression. -/
def refuse {α : Type} (text : Octets) (cause : String) : Run α :=
  Run.fail s!"arithmetic expression: {cause}: \"{text}\""

/-- The number that is the value of a variable. -/
def valueOf (name : Octets) : Run Int := do
  let text := ((← Run.shell).value? name).getD ""
  match Numeral.read? 0 text with
  | some value => return value
  | none => Run.badNumber text

def truth (b : Bool) : Int := if b then 1 else 0

/-- The bits of a number, as a word. -/
def word (value : Int) : UInt64 := UInt64.ofInt value

def ofWord (word : UInt64) : Int := word.toInt64.toInt

/-- Combine two numbers. -/
def combine (text : Octets) (operator : Operator) (a b : Int) : Run Int := do
  match operator with
  | .multiply => return Numeral.wrap (a * b)
  | .divide =>
    if b = 0 then refuse text "division by zero"
    if a = Numeral.smallest && b = -1 then throw (.killed 8)
    return a.tdiv b
  | .remainder =>
    if b = 0 then refuse text "division by zero"
    if a = Numeral.smallest && b = -1 then throw (.killed 8)
    return a.tmod b
  | .add => return Numeral.wrap (a + b)
  | .subtract => return Numeral.wrap (a - b)
  | .shiftLeft => return ofWord (word a <<< word b)
  | .shiftRight => return a >>> (b.emod 64).toNat
  | .less => return truth (a < b)
  | .lessOrEqual => return truth (a ≤ b)
  | .greater => return truth (b < a)
  | .greaterOrEqual => return truth (b ≤ a)
  | .equal => return truth (a == b)
  | .different => return truth (a != b)
  | .bitAnd => return ofWord (word a &&& word b)
  | .bitXor => return ofWord (word a ^^^ word b)
  | .bitOr => return ofWord (word a ||| word b)

mutual

/-- The value of an operand at the front, with the rest. -/
def operand (text : Octets) : (bound : Nat) → (counts : Bool) → List Lexeme → Run (Int × List Lexeme)
  | 0, _, _ => refuse text "expecting primary"
  | bound + 1, counts, lexemes => do
    match lexemes with
    | .opening :: rest =>
      let (value, rest) ← assignment text bound counts rest
      match rest with
      | .closing :: rest => return (value, rest)
      | _ => refuse text "expecting ')'"
    | .number value :: rest => return (value, rest)
    | .name name :: rest =>
      if counts then return (← valueOf name, rest) else return (0, rest)
    | .operator .add :: rest => operand text bound counts rest
    | .operator .subtract :: rest =>
      let (value, rest) ← operand text bound counts rest
      return (Numeral.wrap (-value), rest)
    | .not :: rest =>
      let (value, rest) ← operand text bound counts rest
      return (truth (value == 0), rest)
    | .complement :: rest =>
      let (value, rest) ← operand text bound counts rest
      return (-value - 1, rest)
    | _ => refuse text "expecting primary"

/-- Combine a value with the operands that follow, as long as their operators bind more closely than
`limit`. -/
def combined (text : Octets) : (bound : Nat) → (counts : Bool) → (limit : Nat) → Int → List Lexeme →
    Run (Int × List Lexeme)
  | 0, _, _, _, _ => refuse text "expecting primary"
  | bound + 1, counts, limit, a, lexemes => do
    match lexemes with
    | .operator operator :: rest =>
      if limit ≤ operator.looseness then return (a, lexemes)
      let (b, rest) ← operand text bound counts rest
      let (b, rest) ← combined text bound counts operator.looseness b rest
      let value ← if counts then combine text operator a b else pure b
      combined text bound counts limit value rest
    | _ => return (a, lexemes)

def conjunction (text : Octets) : (bound : Nat) → (counts : Bool) → List Lexeme → Run (Int × List Lexeme)
  | 0, _, _ => refuse text "expecting primary"
  | bound + 1, counts, lexemes => do
    let (a, rest) ← operand text bound counts lexemes
    let (a, rest) ← combined text bound counts 8 a rest
    match rest with
    | .and :: rest =>
      let (b, rest) ← conjunction text bound (counts && a != 0) rest
      return (truth (a != 0 && b != 0), rest)
    | _ => return (a, rest)

def disjunction (text : Octets) : (bound : Nat) → (counts : Bool) → List Lexeme → Run (Int × List Lexeme)
  | 0, _, _ => refuse text "expecting primary"
  | bound + 1, counts, lexemes => do
    let (a, rest) ← conjunction text bound counts lexemes
    match rest with
    | .or :: rest =>
      let (b, rest) ← disjunction text bound (counts && a == 0) rest
      return (truth (a != 0 || b != 0), rest)
    | _ => return (a, rest)

def choice (text : Octets) : (bound : Nat) → (counts : Bool) → List Lexeme → Run (Int × List Lexeme)
  | 0, _, _ => refuse text "expecting primary"
  | bound + 1, counts, lexemes => do
    let (a, rest) ← disjunction text bound counts lexemes
    match rest with
    | .question :: rest =>
      let (b, rest) ← assignment text bound (counts && a != 0) rest
      match rest with
      | .colon :: rest =>
        let (c, rest) ← choice text bound (counts && a == 0) rest
        return (if a != 0 then b else c, rest)
      | _ => refuse text "expecting ':'"
    | _ => return (a, rest)

def assignment (text : Octets) : (bound : Nat) → (counts : Bool) → List Lexeme → Run (Int × List Lexeme)
  | 0, _, _ => refuse text "expecting primary"
  | bound + 1, counts, lexemes => do
    match lexemes with
    | .name name :: .assign operator? :: rest =>
      let (value, rest) ← assignment text bound counts rest
      if !counts then return (value, rest)
      let value ← match operator? with
        | none => pure value
        | some operator => combine text operator (← valueOf name) value
      Run.setVariable name (toString value) false
      return (value, rest)
    | _ => choice text bound counts lexemes

end

/-- The value of an expression. -/
def evaluate (text : Octets) : Run Int := do
  let lexemes := lexemes (text.length + 1) text.toList
  let (value, rest) ← assignment text (8 * (lexemes.length + 2)) true lexemes
  if rest.isEmpty then return value else refuse text "expecting EOF"

end Arithmetic

end Shell

end TestDaemon
