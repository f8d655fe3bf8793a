import TestDaemon.Machine.Inspection
import TestDaemon.Shell.Builtin.Options

/-! # Tests

Conditions on texts, numbers and files. With few arguments their number tells how they are understood;
with more of them they are read as an expression.
-/

namespace TestDaemon

namespace Shell

namespace Testing

/-- The operators between two operands. -/
def binaries : List Octets :=
  ["=", "!=", "<", ">", "-eq", "-ne", "-gt", "-ge", "-lt", "-le", "-nt", "-ot", "-ef"]

def isBinary (text : Octets) : Bool := binaries.contains text

/-- The letter of an operator in front of one operand. -/
def unaryLetter? (text : Octets) : Option Char :=
  match text.toList with
  | ['-', c] => if "rwxefdcbpugkstznhLOGS".contains c then some c else none
  | _ => none

/-- What an argument is. -/
inductive Kind where
  | ending
  | operand
  | not
  | and
  | or
  | opening
  | closing
  | unary (letter : Char)
  | binary
  deriving DecidableEq, Repr

/-- What the first of some arguments is. An operator that has nothing to work on is an operand. -/
def kindOf : List Octets → Kind
  | [] => .ending
  | text :: rest =>
    match unaryLetter? text with
    | some letter =>
      match rest with
      | [] => .operand
      | [_] => .unary letter
      | next :: _ => if isBinary next then .operand else .unary letter
    | none =>
      if text = "!" then .not
      else if text = "-a" then .and
      else if text = "-o" then .or
      else if text = "(" then (if rest.isEmpty then .operand else .opening)
      else if text = ")" then .closing
      else if isBinary text then .binary
      else .operand

def refuse {α : Type} (operator : Octets) (cause : Octets) : Run α :=
  Run.fail (if operator = "" then cause else s!"{operator}: {cause}")

/-- A number of any size that fits into 64 bits. -/
def number (text : Octets) : Run Int := do
  match Numeral.read? 10 text with
  | some value => return value
  | none => Run.badNumber text

/-- The answer of an operator with one operand. -/
def askOne (letter : Char) (operand : Octets) : Run Bool := do
  match letter with
  | 'z' => return operand = ""
  | 'n' => return operand ≠ ""
  | 't' =>
    let _ ← number operand
    return false
  | letter => Inspection.ask letter operand

/-- The answer of an operator with two operands. -/
def askTwo (first operator second : Octets) : Run Bool := do
  let compare (test : Int → Int → Bool) : Run Bool := do
    return test (← number first) (← number second)
  match operator with
  | "=" => return first == second
  | "!=" => return first != second
  | "<" => return !Octets.le second first
  | ">" => return !Octets.le first second
  | "-eq" => compare (· == ·)
  | "-ne" => compare (· != ·)
  | "-gt" => compare fun a b => b < a
  | "-ge" => compare fun a b => b ≤ a
  | "-lt" => compare fun a b => a < b
  | "-le" => compare fun a b => a ≤ b
  | "-nt" => Inspection.isNewer first second
  | "-ot" => Inspection.isNewer second first
  | _ => Inspection.isSame first second

/-- What is left of the arguments behind an answer: the last argument that belongs to it, and the rest. -/
abbrev Answer := Bool × List Octets

mutual

/-- The answer of the simplest expression at the front. What is left starts with its last argument. -/
def primary : (bound : Nat) → Kind → List Octets → Run Answer
  | 0, _, _ => throw .endless
  | bound + 1, kind, arguments => do
    match kind with
    | .ending => return (false, arguments)
    | .opening =>
      let inner := arguments.tail
      if kindOf inner = .closing then return (false, inner)
      let (answer, rest) ← disjunction bound (kindOf inner) inner
      if kindOf rest.tail ≠ .closing then refuse "" "closing paren expected"
      return (answer, rest.tail)
    | .unary letter =>
      match arguments.tail with
      | [] => refuse (arguments.headD "") "argument expected"
      | operand :: rest => return (← askOne letter operand, operand :: rest)
    | _ =>
      match arguments with
      | first :: operator :: rest =>
        if kindOf (operator :: rest) = .binary then
          match rest with
          | [] => refuse operator "argument expected"
          | second :: rest => return (← askTwo first operator second, second :: rest)
        else return (first ≠ "", arguments)
      | [first] => return (first ≠ "", arguments)
      | [] => return (false, [])

def negation : (bound : Nat) → Kind → List Octets → Run Answer
  | 0, _, _ => throw .endless
  | bound + 1, kind, arguments => do
    if kind ≠ .not then primary bound kind arguments
    else
      let rest := arguments.tail
      let next := kindOf rest
      let (answer, rest) ← negation bound next (if next = .ending then arguments else rest)
      return (!answer, rest)

def conjunction : (bound : Nat) → Kind → List Octets → Run Answer
  | 0, _, _ => throw .endless
  | bound + 1, kind, arguments => do
    let (answer, rest) ← negation bound kind arguments
    if !rest.isEmpty && kindOf rest.tail = .and then
      let next := rest.drop 2
      let (other, rest) ← conjunction bound (kindOf next) next
      return (answer && other, rest)
    return (answer, rest)

def disjunction : (bound : Nat) → Kind → List Octets → Run Answer
  | 0, _, _ => throw .endless
  | bound + 1, kind, arguments => do
    let (answer, rest) ← conjunction bound kind arguments
    if !rest.isEmpty && kindOf rest.tail = .or then
      let next := rest.drop 2
      let (other, rest) ← disjunction bound (kindOf next) next
      return (answer || other, rest)
    return (answer, rest)

end

/-- The answer of an expression that starts with an argument of some kind, with nothing behind it. -/
def whole (kind : Kind) (arguments : List Octets) : Run Bool := do
  let (answer, rest) ← disjunction (4 * arguments.length + 8) kind arguments
  match rest with
  | first :: _ :: _ => refuse first "unexpected operator"
  | _ => return answer

/-- The answer to a test. -/
def answer : (bound : Nat) → List Octets → Run Bool
  | 0, _ => throw .endless
  | bound + 1, arguments => do
    match arguments with
    | [] => return false
    | [_, operator, _] => if isBinary operator then whole .operand arguments else short bound arguments
    | [_, _, _, _] => short bound arguments
    | _ => whole (kindOf arguments) arguments
where
  /-- The answer to a test of three or four arguments. -/
  short (bound : Nat) (arguments : List Octets) : Run Bool := do
    match arguments with
    | "(" :: rest =>
      if rest.getLast? = some ")" then
        let inner := rest.dropLast
        whole (kindOf inner) inner
      else whole .opening arguments
    | "!" :: rest => return !(← answer bound rest)
    | _ => whole (kindOf arguments) arguments

/-- Carry out a test; in brackets, the last argument closes them. -/
def run : Builtin := fun _ name arguments => do
  let arguments ← do
    if name = "[" then
      if arguments.getLast? = some "]" then pure arguments.dropLast else Run.fail "missing ]"
    else pure arguments
  return if ← answer (arguments.length + 1) arguments then 0 else 1

end Testing

end Shell

end TestDaemon
