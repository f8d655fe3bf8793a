import TestDaemon.Machine.Inspection
import TestDaemon.Text.Conversion
import TestDaemon.Text.Escape
import TestDaemon.Text.Numeral
import TestDaemon.Text.Regex
import TestDaemon.Tool.Basic

/-! # Tools on values

Printing arguments, testing and calculating with them, and taking paths apart.
-/

namespace TestDaemon

namespace Tool

/-- The number that a text is, with a sign. -/
def integer? (text : Octets) : Option Int :=
  match text.toList with
  | '-' :: digits => (number? (String.ofList digits)).map fun n => -(n : Int)
  | '+' :: digits => (number? (String.ofList digits)).map Int.ofNat
  | digits => (number? (String.ofList digits)).map Int.ofNat

/-! ## Printing -/

/-- The value of the hexadecimal digits at the front, at most two of them, and the rest. -/
def hexOctet (text : List Char) : Option (Char × List Char) :=
  let isHex (c : Char) : Bool := c.isDigit || ('a' ≤ c && c ≤ 'f') || ('A' ≤ c && c ≤ 'F')
  let digits := (text.take 2).takeWhile isHex
  let value (c : Char) : Nat := if c.isDigit then c.toNat - 48 else c.toLower.toNat - 87
  if digits.isEmpty then none
  else some (Char.ofNat (digits.foldl (fun n c => 16 * n + value c) 0), text.drop digits.length)

/-- A text with its escapes replaced, and whether the output goes on behind it. -/
def unescaped : (bound : Nat) → List Char → List Char × Bool
  | 0, _ => ([], true)
  | _ + 1, [] => ([], true)
  | _ + 1, '\\' :: 'c' :: _ => ([], false)
  | bound + 1, '\\' :: rest =>
    let (octet, rest) := match rest with
      | '0' :: digits => Escape.octal 3 digits
      | 'x' :: digits => (hexOctet digits).getD ('\\', rest)
      | c :: _ => if c.isDigit then ('\\', rest) else Escape.one rest
      | [] => ('\\', [])
    let (tail, goesOn) := unescaped bound rest
    (octet :: tail, goesOn)
  | bound + 1, c :: rest =>
    let (tail, goesOn) := unescaped bound rest
    (c :: tail, goesOn)

/-- The letters of the options in front of what is printed. -/
def echoLetters : List Octets → List Char × List Octets
  | text :: rest =>
    match text.toList with
    | '-' :: c :: letters =>
      if (c :: letters).all fun c => "neE".contains c then
        let (more, rest) := echoLetters rest
        (c :: letters ++ more, rest)
      else ([], text :: rest)
    | _ => ([], text :: rest)
  | [] => ([], [])

def echo : Tool := fun invocation => do
  let (letters, words) := echoLetters invocation.arguments
  let text := " ".intercalate words
  let replaces := (letters.filter (· ≠ 'n')).getLast? = some 'e'
  let (chars, goesOn) := if replaces then unescaped (text.length + 1) text.toList else (text.toList, true)
  let ending := if letters.contains 'n' || !goesOn then "" else "\n"
  finish invocation (String.ofList chars ++ ending) 0

/-! ## Formats -/

namespace Format

/-- Where a format is: the arguments that are left, what has been printed, and the status. -/
structure Progress where
  arguments : List Octets
  output : Octets := ""
  status : Nat := 0

/-- Steps of formatting. -/
abbrev Formatting := StateT Progress Act

def put (text : Octets) : Formatting Unit :=
  modify fun progress => { progress with output := progress.output ++ text }

def next? : Formatting (Option Octets) :=
  modifyGet fun progress => (progress.arguments.head?, { progress with arguments := progress.arguments.tail })

/-- Complain about an argument and go on. -/
def warn (invocation : Invocation) (text : Octets) : Formatting Unit := do
  Complaint.say invocation text
  modify fun progress => { progress with status := 1 }

def checkRest (invocation : Invocation) (argument : Octets) (rest : Option (List Char)) :
    Formatting Unit := do
  match rest with
  | none => warn invocation (cited argument ++ ": expected a numeric value")
  | some [] => return
  | some _ => warn invocation (cited argument ++ ": value not completely converted")

def integer (invocation : Invocation) : Formatting Int := do
  match ← next? with
  | none => return 0
  | some argument =>
    match argument.toList with
    | '"' :: c :: _ | '\'' :: c :: _ => return c.toNat
    | chars =>
      match Numeral.scan? 0 chars with
      | none =>
        checkRest invocation argument none
        return 0
      | some (value, rest) =>
        checkRest invocation argument (some rest)
        return value

def real (invocation : Invocation) : Formatting Conversion.Real := do
  match ← next? with
  | none => return .finite false Binary64.zero
  | some argument =>
    match Conversion.scanReal? argument.toList with
    | none =>
      checkRest invocation argument none
      return .finite false Binary64.zero
    | some (value, rest) =>
      checkRest invocation argument (some rest)
      return value

/-- A width or a precision: digits, or the next argument for a star. -/
def measure (invocation : Invocation) (format : List Char) : Formatting (Option Int × List Char) := do
  match format with
  | '*' :: rest => return (some (← integer invocation), rest)
  | format =>
    let digits := format.takeWhile Char.isDigit
    let value? := if digits.isEmpty then none else (String.ofList digits).toNat?.map Int.ofNat
    return (value?, format.drop digits.length)

/-- Print one conversion; the result tells whether the output goes on. -/
def convert (invocation : Invocation) (conversion : Conversion) (written : Octets) : Formatting Bool := do
  match conversion.kind with
  | 'b' =>
    let text := (← next?).getD ""
    let (chars, goesOn) := unescaped (text.length + 1) text.toList
    put (conversion.text (String.ofList chars))
    return goesOn
  | 'c' =>
    let c := ((← next?).getD "").toList.headD '\x00'
    put ({ conversion with precision := none }.text c.toString)
    return true
  | 's' =>
    put (conversion.text ((← next?).getD ""))
    return true
  | 'q' =>
    put (quotedIfNeeded ((← next?).getD ""))
    return true
  | 'd' | 'i' =>
    put (conversion.signed (← integer invocation))
    return true
  | 'o' | 'u' | 'x' | 'X' =>
    put (conversion.unsigned ((← integer invocation).emod 18446744073709551616).toNat)
    return true
  | 'e' | 'E' | 'f' | 'F' | 'g' | 'G' =>
    put (conversion.real (← real invocation))
    return true
  | _ =>
    let _ ← print (← get).output
    Complaint.fatal invocation 1 s!"{written}: invalid conversion specification"

/-- Go through a format once; the result tells whether the output goes on. -/
def pass (invocation : Invocation) : (bound : Nat) → List Char → Formatting Bool
  | 0, _ => return true
  | _ + 1, [] => return true
  | _ + 1, '\\' :: 'c' :: _ => return false
  | bound + 1, '\\' :: rest => do
    let (octet, rest) := match rest with
      | 'x' :: digits => (hexOctet digits).getD ('\\', rest)
      | '"' :: rest => ('"', rest)
      | rest => Escape.one rest
    put octet.toString
    pass invocation bound rest
  | bound + 1, '%' :: '%' :: rest => do
    put "%"
    pass invocation bound rest
  | bound + 1, '%' :: rest => do
    let flags := rest.takeWhile fun c => "#-+ 0'I".contains c
    let (width?, left) ← measure invocation (rest.drop flags.length)
    let width := width?.getD 0
    let (precision, left) ← match left with
      | '.' :: left =>
        let (precision?, left) ← measure invocation left
        pure (if precision?.getD 0 < 0 then none else some (precision?.getD 0).toNat, left)
      | left => pure (none, left)
    let written := String.ofList ('%' :: rest.take (rest.length - left.length + 1))
    let conversion : Conversion :=
      ⟨if width < 0 then '-' :: flags else flags, width.natAbs, precision, left.headD '\x00'⟩
    if ← convert invocation conversion written then pass invocation bound left.tail else return false
  | bound + 1, c :: rest => do
    put c.toString
    pass invocation bound rest

/-- Use a format as long as it takes arguments and some are left. -/
def all (invocation : Invocation) (format : List Char) : (bound : Nat) → Formatting Unit
  | 0 => return
  | bound + 1 => do
    let before := (← get).arguments.length
    if ← pass invocation (format.length + 1) format then
      let left := (← get).arguments
      if left.length = before then
        match left with
        | [] => return
        | first :: _ =>
          Complaint.say invocation s!"warning: ignoring excess arguments, starting with {cited first}"
      else if !left.isEmpty then all invocation format bound

end Format

def printf : Tool := fun invocation => do
  let arguments := if invocation.arguments.head? = some "--" then invocation.arguments.tail
    else invocation.arguments
  match arguments with
  | [] => Complaint.misused invocation 1 "missing operand"
  | format :: arguments =>
    let (_, progress) ← (Format.all invocation format.toList (arguments.length + 1)).run { arguments }
    finish invocation progress.output progress.status

/-! ## Tests -/

namespace Condition

/-- The operators between two operands. -/
def binaries : List Octets :=
  ["=", "==", "!=", "-eq", "-ne", "-lt", "-le", "-gt", "-ge", "-nt", "-ot", "-ef"]

def isBinary (text : Octets) : Bool := binaries.contains text

/-- An answer and the arguments that are left. -/
abbrev Answer := Bool × List Octets

def refuse {α : Type} (invocation : Invocation) (text : Octets) : Act α := Complaint.fatal invocation 2 text

/-- Complain that something is missing behind the last argument. -/
def beyond {α : Type} (invocation : Invocation) : Act α :=
  let last := cited (invocation.arguments.getLast?.getD "")
  refuse invocation s!"missing argument after {last}"

def number (invocation : Invocation) (text : Octets) : Act Int := do
  let trimmed := String.ofList ((text.toList.dropWhile (· == ' ')).reverse.dropWhile (· == ' ')).reverse
  match integer? trimmed with
  | some value => return value
  | none => refuse invocation s!"invalid integer {cited text}"

/-- The answer of an operator with one operand. -/
def unary (invocation : Invocation) : List Octets → Act Answer
  | [] | [_] => beyond invocation
  | operator :: operand :: rest => do
    match operator.toList with
    | ['-', letter] =>
      match letter with
      | 'n' => return (operand ≠ "", rest)
      | 'z' => return (operand = "", rest)
      | 't' =>
        let _ ← number invocation operand
        return (false, rest)
      | letter =>
        if Inspection.letters.contains letter && letter ≠ 'a' || letter = 'N' then
          return (← Inspection.ask letter operand, rest)
        else refuse invocation s!"{cited operator}: unary operator expected"
    | _ => refuse invocation s!"{cited operator}: unary operator expected"

/-- The answer of an operator with two operands. -/
def binary (invocation : Invocation) (first operator second : Octets) : Act Bool := do
  let compare (test : Int → Int → Bool) : Act Bool := do
    return test (← number invocation first) (← number invocation second)
  match operator with
  | "=" | "==" => return first == second
  | "!=" => return first != second
  | "-eq" => compare (· == ·)
  | "-ne" => compare (· != ·)
  | "-gt" => compare fun a b => b < a
  | "-ge" => compare fun a b => b ≤ a
  | "-lt" => compare fun a b => a < b
  | "-le" => compare fun a b => a ≤ b
  | "-nt" => Inspection.isNewer first second
  | "-ot" => Inspection.isNewer second first
  | _ => Inspection.isSame first second

def isOption (text : Octets) : Bool :=
  match text.toList with
  | ['-', _] => true
  | _ => false

mutual

/-- The answer of the simplest expression at the front, with all that denies it. -/
def term (invocation : Invocation) : (bound : Nat) → List Octets → Act Answer
  | 0, _ => throw .endless
  | bound + 1, arguments => do
    match arguments with
    | [] => beyond invocation
    | "!" :: rest =>
      let (answer, rest) ← term invocation bound rest
      return (!answer, rest)
    | "(" :: rest =>
      if rest.isEmpty then beyond invocation
      let closing := (rest.drop 1).idxOf ")" + 1
      let count := if closing ≤ 3 then closing else rest.length
      let (answer, rest) ← counted invocation bound count rest
      match rest with
      | ")" :: rest => return (answer, rest)
      | [] => refuse invocation "')' expected"
      | found :: _ => refuse invocation s!"')' expected, found {cited found}"
    | first :: operator :: second :: rest =>
      if isBinary operator then return (← binary invocation first operator second, rest)
      else if isOption first then unary invocation arguments
      else return (first ≠ "", arguments.tail)
    | first :: rest => if isOption first then unary invocation arguments else return (first ≠ "", rest)

def conjunction (invocation : Invocation) : (bound : Nat) → List Octets → Act Answer
  | 0, _ => throw .endless
  | bound + 1, arguments => do
    let (answer, rest) ← term invocation bound arguments
    match rest with
    | "-a" :: rest =>
      let (other, rest) ← conjunction invocation bound rest
      return (answer && other, rest)
    | rest => return (answer, rest)

def disjunction (invocation : Invocation) : (bound : Nat) → List Octets → Act Answer
  | 0, _ => throw .endless
  | bound + 1, arguments => do
    let (answer, rest) ← conjunction invocation bound arguments
    match rest with
    | "-o" :: rest =>
      let (other, rest) ← disjunction invocation bound rest
      return (answer || other, rest)
    | rest => return (answer, rest)

/-- The answer of an expression of a number of arguments, which tells how it is understood. -/
def counted (invocation : Invocation) : (bound count : Nat) → List Octets → Act Answer
  | 0, _, _ => throw .endless
  | bound + 1, count, arguments => do
    match count, arguments with
    | 1, first :: rest => return (first ≠ "", rest)
    | 2, "!" :: first :: rest => return (first = "", rest)
    | 2, first :: rest =>
      if isOption first then unary invocation (first :: rest) else beyond invocation
    | 3, first :: operator :: second :: rest =>
      if isBinary operator then return (← binary invocation first operator second, rest)
      else if first = "!" then
        let (answer, rest) ← counted invocation bound 2 (operator :: second :: rest)
        return (!answer, rest)
      else if first = "(" && second = ")" then return (operator ≠ "", rest)
      else if operator = "-a" || operator = "-o" then disjunction invocation bound arguments
      else refuse invocation s!"{cited operator}: binary operator expected"
    | 4, "!" :: rest =>
      let (answer, rest) ← counted invocation bound 3 rest
      return (!answer, rest)
    | 4, "(" :: first :: second :: ")" :: rest =>
      let (answer, _) ← counted invocation bound 2 [first, second]
      return (answer, rest)
    | _, arguments => disjunction invocation bound arguments

end

/-- Answer a test; in brackets, the last argument closes them. -/
def run (inBrackets : Bool) : Tool := fun invocation => do
  let arguments ← do
    if inBrackets then
      if invocation.arguments.getLast? = some "]" then pure invocation.arguments.dropLast
      else refuse invocation "missing ']'"
    else pure invocation.arguments
  if arguments.isEmpty then return 1
  let invocation := { invocation with arguments }
  match ← counted invocation (8 * arguments.length + 16) arguments.length arguments with
  | (answer, []) => return if answer then 0 else 1
  | (_, extra :: _) => refuse invocation s!"extra argument {cited extra}"

end Condition

/-! ## Expressions -/

namespace Expression

/-- A value and the arguments that are left. -/
abbrev Value := Octets × List Octets

def isNull (text : Octets) : Bool :=
  text = "" || (integer? text).any (· == 0)

def truth (test : Bool) : Octets := if test then "1" else "0"

def refuse {α : Type} (invocation : Invocation) (text : Octets) : Act α := Complaint.fatal invocation 2 text

def number (invocation : Invocation) (text : Octets) : Act Int := do
  match integer? text with
  | some value => return value
  | none => refuse invocation "non-integer argument"

/-- The text of the first group of a match at the front, or how much matches. -/
def matched (invocation : Invocation) (text pattern : Octets) : Act Octets := do
  match Regex.parse false pattern with
  | .error fault => refuse invocation fault.message
  | .ok (regex, groups) =>
    match Regex.run ⟨false, false⟩ (Regex.boundFor text.toList) [.meet regex] none text.toList [] with
    | none => return if groups = 0 then "0" else ""
    | some (left, found) =>
      if groups = 0 then return toString (text.length - left.length)
      else return String.ofList ((found.lookup 1).getD [])

/-- The operators that bind alike, from the loosest to the tightest. -/
def levels : List (List Octets) :=
  [["|"], ["&"], ["<", "<=", "=", "==", "!=", ">=", ">"], ["+", "-"], ["*", "/", "%"], [":"]]

/-- The value of an operator. -/
def apply (invocation : Invocation) (operator first second : Octets) : Act Octets := do
  let compare (test : Ordering → Bool) : Octets :=
    match integer? first, integer? second with
    | some a, some b => truth (test (compareOfLessAndEq a b))
    | _, _ =>
      truth (test (if first = second then .eq else if Octets.le first second then .lt else .gt))
  match operator with
  | "|" => return if !isNull first then first else if isNull second then "0" else second
  | "&" => return if isNull first || isNull second then "0" else first
  | "<" => return compare (· == .lt)
  | "<=" => return compare (· != .gt)
  | "=" | "==" => return compare (· == .eq)
  | "!=" => return compare (· != .eq)
  | ">=" => return compare (· != .lt)
  | ">" => return compare (· == .gt)
  | ":" => matched invocation first second
  | operator =>
    let a ← number invocation first
    let b ← number invocation second
    match operator with
    | "+" => return toString (a + b)
    | "-" => return toString (a - b)
    | "*" => return toString (a * b)
    | operator =>
      if b = 0 then refuse invocation "division by zero"
      return toString (if operator = "/" then a.tdiv b else a.tmod b)

mutual

/-- The value of an operand. -/
def operand (invocation : Invocation) : (bound : Nat) → List Octets → Act Value
  | 0, _ => throw .endless
  | bound + 1, arguments => do
    let missing : Act Value := do
      let last := cited (invocation.arguments.getLast?.getD "")
      refuse invocation s!"syntax error: missing argument after {last}"
    match arguments with
    | [] => missing
    | "(" :: rest =>
      let (value, rest) ← level invocation bound levels rest
      match rest with
      | ")" :: rest => return (value, rest)
      | [] =>
        let last := cited (invocation.arguments.getLast?.getD "")
        refuse invocation s!"syntax error: expecting ')' after {last}"
      | found :: _ => refuse invocation s!"syntax error: expecting ')' instead of {cited found}"
    | ")" :: _ => refuse invocation "syntax error: unexpected ')'"
    | "+" :: rest =>
      match rest with
      | [] => missing
      | value :: rest => return (value, rest)
    | "length" :: rest =>
      let (value, rest) ← operand invocation bound rest
      return (toString value.length, rest)
    | "match" :: rest =>
      let (text, rest) ← operand invocation bound rest
      let (pattern, rest) ← operand invocation bound rest
      return (← matched invocation text pattern, rest)
    | "index" :: rest =>
      let (text, rest) ← operand invocation bound rest
      let (set, rest) ← operand invocation bound rest
      let index := (text.toList.findIdx? fun c => set.toList.contains c).elim 0 (· + 1)
      return (toString index, rest)
    | "substr" :: rest =>
      let (text, rest) ← operand invocation bound rest
      let (start, rest) ← operand invocation bound rest
      let (count, rest) ← operand invocation bound rest
      match integer? start, integer? count with
      | some start, some count =>
        if start ≤ 0 || count ≤ 0 then return ("", rest)
        return (String.ofList ((text.toList.drop (start.toNat - 1)).take count.toNat), rest)
      | _, _ => return ("", rest)
    | value :: rest => return (value, rest)

/-- The value of an expression of the operators of some levels. -/
def level (invocation : Invocation) : (bound : Nat) → List (List Octets) → List Octets → Act Value
  | 0, _, _ => throw .endless
  | bound + 1, [], arguments => operand invocation bound arguments
  | bound + 1, operators :: tighter, arguments => do
    let (first, rest) ← level invocation bound tighter arguments
    chain invocation bound operators tighter first rest

/-- Go on with operators that bind alike. -/
def chain (invocation : Invocation) : (bound : Nat) → List Octets → List (List Octets) → Octets →
    List Octets → Act Value
  | 0, _, _, _, _ => throw .endless
  | bound + 1, operators, tighter, first, rest => do
    match rest with
    | [] => return (first, [])
    | operator :: after =>
      if !operators.contains operator then return (first, rest)
      let (second, rest) ← level invocation bound tighter after
      chain invocation bound operators tighter (← apply invocation operator first second) rest

end

end Expression

def expr : Tool := fun invocation => do
  let arguments := if invocation.arguments.head? = some "--" then invocation.arguments.tail
    else invocation.arguments
  if arguments.isEmpty then Complaint.misused invocation 2 "missing operand"
  let invocation := { invocation with arguments }
  let bound := 10 * (arguments.length + 2)
  let (value, rest) ← Expression.level invocation bound Expression.levels arguments
  match rest with
  | found :: _ => Expression.refuse invocation s!"syntax error: unexpected argument {cited found}"
  | [] => finish invocation (value ++ "\n") (if Expression.isNull value then 1 else 0)

/-! ## Sequences -/

/-- A decimal number: its digits without the point, and how many stand behind it. -/
def decimal? (text : Octets) : Option (Int × Nat) :=
  let (isNegative, unsigned) := match text.toList with
    | '-' :: rest => (true, rest)
    | '+' :: rest => (false, rest)
    | rest => (false, rest)
  let whole := unsigned.takeWhile Char.isDigit
  let places := match unsigned.drop whole.length with
    | '.' :: rest => rest
    | _ => []
  let length := whole.length + (if places.isEmpty then 0 else places.length + 1)
  if (whole.isEmpty && places.isEmpty) || !places.all Char.isDigit ||
      (length ≠ unsigned.length && unsigned.drop whole.length ≠ ['.']) then none
  else
    let value : Int := ((whole ++ places).foldl (fun n c => 10 * n + (c.toNat - 48)) 0 : Nat)
    some (if isNegative then -value else value, places.length)

/-- A number with digits behind the point, filled up with zeros to a width. -/
def decimalText (value : Int) (places width : Nat) : Octets :=
  let digits := (toString value.natAbs).toList
  let digits := List.replicate (places + 1 - digits.length) '0' ++ digits
  let whole := digits.take (digits.length - places)
  let text := whole ++ (if places = 0 then [] else '.' :: digits.drop (digits.length - places))
  let sign := if value < 0 then ['-'] else []
  String.ofList (sign ++ List.replicate (width - sign.length - text.length) '0' ++ text)

/-- The numbers from one to another. -/
def numbersBetween (step last : Int) : (bound : Nat) → (current : Int) → List Int
  | 0, _ => []
  | bound + 1, current =>
    if (0 < step && last < current) || (step < 0 && current < last) then []
    else current :: numbersBetween step last bound (current + step)

namespace Sequence

/-- Take the options in front of the numbers; a number may start with a dash. -/
def takeOptions (invocation : Invocation) : (bound : Nat) → List Octets → (separator : Octets) →
    (isWide : Bool) → Act (Octets × Bool × List Octets)
  | 0, rest, separator, isWide => return (separator, isWide, rest)
  | bound + 1, arguments, separator, isWide => do
    match arguments with
    | "-w" :: rest | "--equal-width" :: rest => takeOptions invocation bound rest separator true
    | "-s" :: value :: rest => takeOptions invocation bound rest value isWide
    | "--" :: rest => return (separator, isWide, rest)
    | text :: rest =>
      match text.toList with
      | '-' :: 's' :: value => takeOptions invocation bound rest (String.ofList value) isWide
      | '-' :: c :: _ =>
        if c.isDigit || c = '.' then return (separator, isWide, arguments)
        Complaint.misused invocation 1 s!"invalid option -- '{c}'"
      | _ => return (separator, isWide, arguments)
    | [] => return (separator, isWide, [])

end Sequence

def seq : Tool := fun invocation => do
  let (separator, isWide, operands) ←
    Sequence.takeOptions invocation (invocation.arguments.length + 1) invocation.arguments "\n" false
  let decimal (text : Octets) : Act (Int × Nat) := do
    match decimal? text with
    | some value => return value
    | none => Complaint.misused invocation 1 s!"invalid floating point argument: {cited text}"
  let (first, step, last) ← match operands with
    | [] => Complaint.misused invocation 1 "missing operand"
    | [last] => pure ("1", "1", last)
    | [first, last] => pure (first, "1", last)
    | [first, step, last] => pure (first, step, last)
    | _ :: _ :: _ :: extra :: _ => Complaint.misused invocation 1 s!"extra operand {cited extra}"
  let (a, aPlaces) ← decimal first
  let (b, bPlaces) ← decimal step
  let (c, cPlaces) ← decimal last
  if b = 0 then Complaint.misused invocation 1 s!"invalid Zero increment value: {cited step}"
  let places := max aPlaces bPlaces
  let scale := max places cPlaces
  let scaled (value : Int) (own : Nat) : Int := value * (Nat.pow 10 (scale - own) : Nat)
  let numbers := numbersBetween (scaled b bPlaces) (scaled c cPlaces) 10000000 (scaled a aPlaces)
  let shown (width : Nat) (value : Int) : Octets :=
    decimalText (value.tdiv (Nat.pow 10 (scale - places) : Nat)) places width
  let ends := [numbers.head?, numbers.getLast?].filterMap id
  let width := if isWide then ends.foldl (fun width value => max width (shown 0 value).length) 0 else 0
  if numbers.isEmpty then return 0
  finish invocation (separator.intercalate (numbers.map (shown width)) ++ "\n") 0

/-! ## Paths -/

/-- A path without slashes at its end, but for one that is all of it. -/
def withoutSlashes (path : Octets) : Octets :=
  let kept := path.toList.reverse.dropWhile (· == '/')
  if kept.isEmpty && path ≠ "" then "/" else String.ofList kept.reverse

/-- The last name of a path. -/
def lastName (path : Octets) : Octets :=
  let path := withoutSlashes path
  if path = "/" then "/" else (Octets.split '/' path).getLast?.getD ""

def basename : Tool := fun invocation => do
  let options : Options :=
    { flags := "az", valued := "s", mixed := false,
      long := [("multiple", 'a'), ("suffix", 's'), ("zero", 'z')] }
  let given ← options.take invocation
  let ending := if has given 'z' then "\x00" else "\n"
  let cut (tail name : Octets) : Octets :=
    if tail ≠ "" && name ≠ tail && name.endsWith tail then
      String.ofList (name.toList.take (name.length - tail.length))
    else name
  match given.2 with
  | [] => Complaint.misused invocation 1 "missing operand"
  | paths =>
    if has given 'a' || has given 's' then
      let tail := (value? given 's').getD ""
      finish invocation (String.join (paths.map fun path => cut tail (lastName path) ++ ending)) 0
    else match paths with
      | _ :: _ :: extra :: _ => Complaint.misused invocation 1 s!"extra operand {cited extra}"
      | path :: rest => finish invocation (cut (rest.headD "") (lastName path) ++ ending) 0
      | [] => return 0

/-- The path of the directory in which a path leads to something. -/
def directoryName (path : Octets) : Octets :=
  let chars := path.toList.reverse.dropWhile (· == '/')
  let rest := chars.dropWhile (· != '/')
  if chars.isEmpty then (if path = "" then "." else "/")
  else if rest.isEmpty then "."
  else
    let kept := rest.dropWhile (· == '/')
    if kept.isEmpty then "/" else String.ofList kept.reverse

def dirname : Tool := fun invocation => do
  let options : Options := { flags := "z", mixed := false, long := [("zero", 'z')] }
  let given ← options.take invocation
  if given.2.isEmpty then Complaint.misused invocation 1 "missing operand"
  let ending := if has given 'z' then "\x00" else "\n"
  finish invocation (String.join (given.2.map fun path => directoryName path ++ ending)) 0

/-! ## The system -/

def uname : Tool := fun invocation => do
  let options : Options :=
    { flags := "asnrvmpio", long := [("all", 'a'), ("kernel-name", 's'), ("machine", 'm')] }
  let given ← options.take invocation
  let letters := if given.1.isEmpty then ['s'] else given.1.map (·.1)
  let parts := [('s', "Linux"), ('n', "localhost"), ('r', "5.15.0"), ('v', "#1 SMP"), ('m', "x86_64"),
    ('o', "GNU/Linux")]
  let shown := parts.filter fun (letter, _) => letters.contains 'a' || letters.contains letter
  finish invocation (" ".intercalate (shown.map (·.2)) ++ "\n") 0

def tty : Tool := fun invocation => do
  let options : Options := { flags := "s", status := 2 }
  let given ← options.take invocation
  if has given 's' then return 1 else finish invocation "not a tty\n" 1

/-- Send signals to processes of the test. -/
def kill : Tool := fun invocation => do
  let (signal?, targets) := match invocation.arguments with
    | "-s" :: name :: rest => (signalOf? name, rest)
    | "--" :: rest => (some Signal.terminate, rest)
    | text :: rest =>
      match text.toList with
      | '-' :: name => (signalOf? (String.ofList name), rest)
      | _ => (some Signal.terminate, text :: rest)
    | [] => (some Signal.terminate, [])
  match signal? with
  | none => Complaint.misused invocation 1 "invalid signal"
  | some signal =>
    if targets.isEmpty then Complaint.misused invocation 1 "no process ID specified"
    let mut status := 0
    for text in targets do
      match number? text with
      | none =>
        Complaint.say invocation s!"{cited text}: invalid process id"
        status := 1
      | some process =>
        let own := (← get).process
        if own.number = process || own.above.contains process then
          if signal ≠ 0 then
            Act.send process signal
            Act.obey []
        else
          Complaint.say invocation s!"({process}): No such process"
          status := 1
    return status
where
  /-- The signal of a name or a number. -/
  signalOf? (text : Octets) : Option Signal :=
    match number? text with
    | some number => some number
    | none =>
      let name := text.toUpper
      Signal.ofName? (if name.startsWith "SIG" then String.ofList (name.toList.drop 3) else name)

end Tool

end TestDaemon
