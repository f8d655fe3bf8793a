import TestDaemon.Shell.Builtin.Options
import TestDaemon.Text.Conversion
import TestDaemon.Text.Escape

/-! # Printing

Arguments are printed as they are, with their escapes replaced, or as a format tells.
-/

namespace TestDaemon

namespace Shell

namespace Printing

/-- The output for arguments, where an escape may end it. -/
def echoed : List Octets → (silent : Bool) → Octets
  | [], silent => if silent then "" else "\n"
  | text :: rest, silent =>
    let (text, goesOn) := Escape.replaced text
    if !goesOn then text
    else if rest.isEmpty then text ++ (if silent then "" else "\n")
    else text ++ " " ++ echoed rest silent

def echo : Builtin := fun _ _ arguments => do
  let silent := arguments.head? = some "-n"
  Run.print (echoed (if silent then arguments.tail else arguments) silent)
  return 0

/-! ## Formats -/

/-- Where a format is in its output: the arguments that are left, what has been printed, and the status. -/
structure Progress where
  arguments : List Octets
  output : Octets := ""
  status : Nat := 0

/-- Steps of formatting, which may be refused with a text. -/
abbrev Formatting := ExceptT Octets (StateT Progress Run)

namespace Formatting

def put (text : Octets) : Formatting Unit :=
  modify fun progress => { progress with output := progress.output ++ text }

def next? : Formatting (Option Octets) :=
  modifyGet fun progress => (progress.arguments.head?, { progress with arguments := progress.arguments.tail })

/-- Complain about an argument and go on. -/
def warn (text : Octets) : Formatting Unit := do
  Run.complain text
  modify fun progress => { progress with status := 1 }

/-- Complain if something is left of an argument of which a value was taken. -/
def checkRest (argument : Octets) (rest : Option (List Char)) : Formatting Unit := do
  match rest with
  | none => if argument ≠ "" then warn (argument ++ ": expected numeric value")
  | some [] => return
  | some _ => warn (argument ++ ": not completely converted")

/-- The whole number that the next argument is; a quote stands in front of a character. -/
def integer (isSigned : Bool) : Formatting Int := do
  match ← next? with
  | none => return 0
  | some argument =>
    match argument.toList with
    | '"' :: rest | '\'' :: rest => return (rest.headD '\x00').toNat
    | chars =>
      match Numeral.scan? 0 chars with
      | none =>
        checkRest argument none
        return 0
      | some (value, rest) =>
        checkRest argument (some rest)
        let (low, high) : Int × Int :=
          if isSigned then (Numeral.smallest, Numeral.largest)
          else (-18446744073709551615, 18446744073709551615)
        if value < low || high < value then
          if rest.isEmpty then warn (argument ++ ": Numerical result out of range")
          return if isSigned then Numeral.clamp value else high
        return value

def real : Formatting Conversion.Real := do
  match ← next? with
  | none => return .finite false Binary64.zero
  | some argument =>
    match argument.toList with
    | '"' :: rest | '\'' :: rest =>
      let value := (Binary64.ofFraction? (rest.headD '\x00').toNat 1).getD Binary64.zero
      return .finite false value
    | chars =>
      match Conversion.scanReal? chars with
      | none =>
        checkRest argument none
        return .finite false Binary64.zero
      | some (value, rest) =>
        checkRest argument (some rest)
        return value

/-- A width or a precision: digits, or the next argument for a star. -/
def measure (format : List Char) : Formatting (Option Int × List Char) := do
  match format with
  | '*' :: rest => return (some (← integer true), rest)
  | format =>
    let digits := format.takeWhile Char.isDigit
    let value? := if digits.isEmpty then none else (String.ofList digits).toNat?.map Int.ofNat
    return (value?, format.drop digits.length)

/-- Read a conversion behind its mark, with the rest of the format. -/
def conversion (format : List Char) : Formatting (Conversion × List Char) := do
  let flags := format.takeWhile fun c => "#-+ 0".contains c
  let (width?, rest) ← measure (format.drop flags.length)
  let width := width?.getD 0
  let flags := if width < 0 then '-' :: flags else flags
  let (precision, rest) ← match rest with
    | '.' :: rest =>
      let (precision?, rest) ← measure rest
      pure (if (precision?.getD 0) < 0 then none else some (precision?.getD 0).toNat, rest)
    | rest => pure (none, rest)
  match rest with
  | [] => throw "missing format character"
  | kind :: rest => return (⟨flags, width.natAbs, precision, kind⟩, rest)

/-- Print one conversion; the result tells whether the output goes on. -/
def convert (conversion : Conversion) (written : Octets) : Formatting Bool := do
  match conversion.kind with
  | 'b' =>
    let (text, goesOn) := Escape.replaced ((← next?).getD "")
    put (conversion.text text)
    return goesOn
  | 'c' =>
    let c := ((← next?).getD "").toList.headD '\x00'
    put ({ conversion with precision := none }.text c.toString)
    return true
  | 's' =>
    put (conversion.text ((← next?).getD ""))
    return true
  | 'd' | 'i' =>
    put (conversion.signed (← integer true))
    return true
  | 'o' | 'u' | 'x' | 'X' =>
    put (conversion.unsigned ((← integer false).emod 18446744073709551616).toNat)
    return true
  | 'e' | 'E' | 'f' | 'F' | 'g' | 'G' =>
    put (conversion.real (← real))
    return true
  | _ => throw (written ++ ": invalid directive")

/-- Go through a format once; the result tells whether the output goes on. -/
def pass : (bound : Nat) → List Char → Formatting Bool
  | 0, _ => return true
  | _ + 1, [] => return true
  | bound + 1, '\\' :: rest => do
    let (octet, rest) := Escape.one rest
    put octet.toString
    pass bound rest
  | bound + 1, '%' :: '%' :: rest => do
    put "%"
    pass bound rest
  | bound + 1, '%' :: rest => do
    let (conversion, left) ← conversion rest
    let written := String.ofList ('%' :: rest.take (rest.length - left.length))
    if ← convert conversion written then pass bound left else return false
  | bound + 1, c :: rest => do
    put c.toString
    pass bound rest

/-- Use a format as long as it takes arguments and some are left. -/
def all (format : List Char) : (bound : Nat) → Formatting Unit
  | 0 => return
  | bound + 1 => do
    let before := (← get).arguments.length
    if ← pass (format.length + 1) format then
      let left := (← get).arguments.length
      if left ≠ 0 && left ≠ before then all format bound

end Formatting

def printf : Builtin := fun _ _ arguments => do
  let (_, arguments) ← Builtin.options "" "" arguments
  match arguments with
  | [] => Run.fail "usage: printf format [arg ...]"
  | format :: arguments =>
    let (result, progress) ← (Formatting.all format.toList (arguments.length + 1)).run.run { arguments }
    match result with
    | .ok () =>
      Run.print progress.output
      return progress.status
    | .error text =>
      Run.complain text
      Run.print progress.output
      Run.setStatus 2
      throw (.failure 2)

end Printing

end Shell

end TestDaemon
