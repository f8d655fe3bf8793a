import TestDaemon.Machine.Inspection
import TestDaemon.Shell.Engine

/-! # Conditions in double brackets

Words in double brackets are not split into fields. On the right of an equality sign stands a pattern;
numbers are arithmetic expressions.
-/

namespace TestDaemon

namespace Shell

namespace Condition

/-- The operators between two words. -/
def binaries : List Octets :=
  ["=", "==", "!=", "<", ">", "-eq", "-ne", "-gt", "-ge", "-lt", "-le", "-nt", "-ot", "-ef"]

/-- The letter of an operator in front of one word. -/
def unaryLetter? (word : Word) : Option Char :=
  match word with
  | [.char '-', .char c] => if "znabcdefghkprstuwxvoLOGSN".contains c then some c else none
  | _ => none

def text (engine : Engine) (word : Word) : Run Octets := Expansion.text engine.substitute .text word

def number (engine : Engine) (word : Word) : Run Int := do
  Arithmetic.evaluate (← text engine word)

def askOne (engine : Engine) (letter : Char) (word : Word) : Run Bool := do
  let text ← text engine word
  match letter with
  | 'z' => return text = ""
  | 'n' => return text ≠ ""
  | 'v' => return ((← Run.shell).value? text).isSome
  | 'o' => return (optionNames.find? (·.2 == text)).any fun (option, _) => (option = 'B')
  | 't' => return false
  | letter => Inspection.ask letter text

def askTwo (engine : Engine) (first : Word) (operator : Octets) (second : Word) : Run Bool := do
  let compare (test : Int → Int → Bool) : Run Bool := do
    return test (← number engine first) (← number engine second)
  let isMatch : Run Bool := do
    let subject ← text engine first
    return Pattern.isMatch (← Expansion.pattern engine.substitute second) subject
  match operator with
  | "=" | "==" => isMatch
  | "!=" => return !(← isMatch)
  | "<" => return !Octets.le (← text engine second) (← text engine first)
  | ">" => return !Octets.le (← text engine first) (← text engine second)
  | "-eq" => compare (· == ·)
  | "-ne" => compare (· != ·)
  | "-gt" => compare fun a b => b < a
  | "-ge" => compare fun a b => b ≤ a
  | "-lt" => compare fun a b => a < b
  | "-le" => compare fun a b => a ≤ b
  | "-nt" => Inspection.isNewer (← text engine first) (← text engine second)
  | "-ot" => Inspection.isNewer (← text engine second) (← text engine first)
  | _ => Inspection.isSame (← text engine first) (← text engine second)

/-- The operator between two words that a word is. -/
def binary? (word : Word) : Option Octets :=
  (Word.bareText? word).bind fun text => if binaries.contains text then some text else none

def refuse {α : Type} : Run α := Run.fail "syntax error in conditional expression"

mutual

/-- The answer of the first operand, with what follows it; where it does not count, it is only read. -/
def operand (engine : Engine) : (bound : Nat) → (counts : Bool) → List ConditionItem →
    Run (Bool × List ConditionItem)
  | 0, _, _ => refuse
  | bound + 1, counts, items => do
    match items with
    | .joint .negation :: rest =>
      let (answer, rest) ← operand engine bound counts rest
      return (!answer, rest)
    | .joint .opening :: rest =>
      let (answer, rest) ← disjunction engine bound counts rest
      match rest with
      | .joint .closing :: rest => return (answer, rest)
      | _ => refuse
    | .word first :: .word second :: rest =>
      match binary? second, rest with
      | some operator, .word third :: rest =>
        if counts then return (← askTwo engine first operator third, rest) else return (true, rest)
      | _, _ =>
        match unaryLetter? first with
        | some letter =>
          if counts then return (← askOne engine letter second, rest) else return (true, rest)
        | none => refuse
    | .word first :: rest =>
      if counts then return ((← text engine first) ≠ "", rest) else return (true, rest)
    | _ => refuse

def conjunction (engine : Engine) : (bound : Nat) → (counts : Bool) → List ConditionItem →
    Run (Bool × List ConditionItem)
  | 0, _, _ => refuse
  | bound + 1, counts, items => do
    let (answer, rest) ← operand engine bound counts items
    match rest with
    | .joint .both :: rest =>
      let (other, rest) ← conjunction engine bound (counts && answer) rest
      return (answer && other, rest)
    | _ => return (answer, rest)

def disjunction (engine : Engine) : (bound : Nat) → (counts : Bool) → List ConditionItem →
    Run (Bool × List ConditionItem)
  | 0, _, _ => refuse
  | bound + 1, counts, items => do
    let (answer, rest) ← conjunction engine bound counts items
    match rest with
    | .joint .either :: rest =>
      let (other, rest) ← disjunction engine bound (counts && !answer) rest
      return (answer || other, rest)
    | _ => return (answer, rest)

end

/-- The status of a condition. -/
def status (engine : Engine) (items : List ConditionItem) : Run Nat := do
  let (answer, rest) ← disjunction engine (4 * items.length + 8) true items
  if !rest.isEmpty then refuse
  return if answer then 0 else 1

end Condition

end Shell

end TestDaemon
