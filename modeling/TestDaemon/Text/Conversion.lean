import TestDaemon.Binary64

/-! # Conversions

How values are written by formats: the flags, the width and the precision of a conversion, whole numbers
in three bases, and real numbers with a fixed or a fitting number of digits.
-/

namespace TestDaemon

/-- A conversion of a format. The precision may be missing. -/
structure Conversion where
  flags : List Char := []
  width : Nat := 0
  precision : Option Nat := none
  kind : Char
  deriving DecidableEq, Repr

namespace Conversion

def has (conversion : Conversion) (flag : Char) : Bool := conversion.flags.contains flag

/-- A text with blanks up to the width, on one of its sides. -/
def pad (conversion : Conversion) (text : String) : String :=
  let blanks := String.ofList (List.replicate (conversion.width - text.length) ' ')
  if conversion.has '-' then text ++ blanks else blanks ++ text

/-- A number with its sign, with zeros or blanks up to the width. -/
def padNumber (conversion : Conversion) (withZeros : Bool) (sign digits : String) : String :=
  if withZeros && conversion.has '0' && !conversion.has '-' then
    let zeros := List.replicate (conversion.width - sign.length - digits.length) '0'
    sign ++ String.ofList zeros ++ digits
  else conversion.pad (sign ++ digits)

def signOf (conversion : Conversion) (isNegative : Bool) : String :=
  if isNegative then "-" else if conversion.has '+' then "+" else if conversion.has ' ' then " " else ""

/-- Digits with zeros in front of them up to the precision. -/
def withPrecision (conversion : Conversion) (digits : String) : String :=
  match conversion.precision with
  | none => digits
  | some precision =>
    let digits := if precision = 0 && digits = "0" then "" else digits
    String.ofList (List.replicate (precision - digits.length) '0') ++ digits

/-- A whole number with a sign. -/
def signed (conversion : Conversion) (value : Int) : String :=
  conversion.padNumber conversion.precision.isNone (conversion.signOf (value < 0))
    (conversion.withPrecision (toString value.natAbs))

/-- A whole number without a sign, in the base of the conversion. -/
def unsigned (conversion : Conversion) (value : Nat) : String :=
  let alternate := conversion.has '#'
  let (head, digits) := match conversion.kind with
    | 'o' =>
      let digits := conversion.withPrecision (String.ofList (Nat.toDigits 8 value))
      ("", if alternate && !digits.startsWith "0" then "0" ++ digits else digits)
    | 'x' =>
      (if alternate && value ≠ 0 then "0x" else "",
        conversion.withPrecision (String.ofList (Nat.toDigits 16 value)))
    | 'X' =>
      (if alternate && value ≠ 0 then "0X" else "",
        conversion.withPrecision (String.ofList ((Nat.toDigits 16 value).map Char.toUpper)))
    | _ => ("", conversion.withPrecision (toString value))
  conversion.padNumber conversion.precision.isNone head digits

/-- A text, cut off at the precision. -/
def text (conversion : Conversion) (value : String) : String :=
  conversion.pad (match conversion.precision with
    | none => value
    | some precision => String.ofList (value.toList.take precision))

/-! ## Real numbers -/

/-- A real number: finite with a sign, infinite, or none. -/
inductive Real where
  | finite (isNegative : Bool) (value : Binary64)
  | infinite (isNegative : Bool)
  | none
  deriving DecidableEq, Repr

/-- The digits of a fraction with a fixed number of places. -/
def fixedDigits (num den places : Nat) (alternate : Bool) : String :=
  let scaled := Binary64.roundHalfEven (num * Nat.pow 10 places) den
  let digits := (Nat.toDigits 10 scaled)
  let digits := List.replicate (places + 1 - digits.length) '0' ++ digits
  let whole := digits.take (digits.length - places)
  let rest := digits.drop (digits.length - places)
  String.ofList (whole ++ (if places = 0 && !alternate then [] else '.' :: rest))

/-- The first digits of a positive fraction, one in front of the point and `places` behind it, and the
power of ten that they are multiplied by. -/
def scientific (num den places : Nat) : Nat × Int :=
  if num = 0 then (0, 0)
  else
    let estimate : Int := ((Nat.toDigits 10 num).length : Int) - (Nat.toDigits 10 den).length
    let fits (power : Int) : Bool :=
      if 0 ≤ power then den * Nat.pow 10 power.toNat ≤ num else den ≤ num * Nat.pow 10 (-power).toNat
    let power := if fits estimate then estimate else estimate - 1
    let shift : Int := places - power
    let digits :=
      if 0 ≤ shift then Binary64.roundHalfEven (num * Nat.pow 10 shift.toNat) den
      else Binary64.roundHalfEven num (den * Nat.pow 10 (-shift).toNat)
    if Nat.pow 10 (places + 1) ≤ digits then (digits / 10, power + 1) else (digits, power)

def exponentText (power : Int) : String :=
  let digits := toString power.natAbs
  (if power < 0 then "-" else "+") ++ (if digits.length < 2 then "0" ++ digits else digits)

def scientificText (digits : Nat) (power : Int) (places : Nat) (alternate : Bool) : String :=
  fixedDigits digits (Nat.pow 10 places) places alternate ++ "e" ++ exponentText power

/-- A number without the zeros at its end behind the point. -/
def withoutZeros (text : String) : String :=
  if text.toList.contains '.' then
    let kept := text.toList.reverse.dropWhile (· = '0')
    String.ofList (match kept with
      | '.' :: rest => rest.reverse
      | kept => kept.reverse)
  else text

/-- The digits of a real number without its sign. -/
def realDigits (conversion : Conversion) (value : Binary64) : String :=
  let (num, den) := value.toFraction
  let places := conversion.precision.getD 6
  let alternate := conversion.has '#'
  match conversion.kind.toLower with
  | 'f' => fixedDigits num den places alternate
  | 'e' =>
    let (digits, power) := scientific num den places
    scientificText digits power places alternate
  | _ =>
    let count := max places 1
    let (digits, power) := scientific num den (count - 1)
    if power < -4 || (count : Int) ≤ power then
      let head := fixedDigits digits (Nat.pow 10 (count - 1)) (count - 1) alternate
      (if alternate then head else withoutZeros head) ++ "e" ++ exponentText power
    else
      let text := fixedDigits num den (count - 1 - power).toNat alternate
      if alternate then text else withoutZeros text

/-- A real number. -/
def real (conversion : Conversion) (value : Real) : String :=
  let inCase (text : String) : String := if conversion.kind.isUpper then text.toUpper else text
  match value with
  | .finite isNegative value =>
    conversion.padNumber true (conversion.signOf isNegative) (inCase (conversion.realDigits value))
  | .infinite isNegative => conversion.padNumber false (conversion.signOf isNegative) (inCase "inf")
  | .none => conversion.padNumber false (conversion.signOf false) (inCase "nan")

/-- The real number at the front of a text, with the rest; `none` if there is none. -/
def scanReal? (text : List Char) : Option (Real × List Char) :=
  let unblanked := text.dropWhile fun c => c == ' ' || ('\t' ≤ c && c ≤ '\x0d')
  let (isNegative, unsigned) := match unblanked with
    | '-' :: rest => (true, rest)
    | '+' :: rest => (false, rest)
    | rest => (false, rest)
  let lower := unsigned.map Char.toLower
  if ['i', 'n', 'f', 'i', 'n', 'i', 't', 'y'].isPrefixOf lower then some (.infinite isNegative, unsigned.drop 8)
  else if ['i', 'n', 'f'].isPrefixOf lower then some (.infinite isNegative, unsigned.drop 3)
  else if ['n', 'a', 'n'].isPrefixOf lower then some (.none, unsigned.drop 3)
  else
    let whole := unsigned.takeWhile Char.isDigit
    let rest := unsigned.drop whole.length
    let places := match rest with
      | '.' :: rest => rest.takeWhile Char.isDigit
      | _ => []
    if whole.isEmpty && places.isEmpty then none
    else
      let rest := match rest with
        | '.' :: rest => rest.drop places.length
        | rest => rest
      let digits := ((whole ++ places).foldl (fun n c => 10 * n + (c.toNat - 48)) 0)
      let (power, rest) := exponent rest
      match Binary64.ofDecimal? digits (power - places.length) with
      | some value => some (.finite isNegative value, rest)
      | none => some (.infinite isNegative, rest)
where
  /-- The exponent at the front, if there is one, with the rest. -/
  exponent (text : List Char) : Int × List Char :=
    match text with
    | e :: rest =>
      if e = 'e' || e = 'E' then
        let (isNegative, digitsAndRest) := match rest with
          | '-' :: rest => (true, rest)
          | '+' :: rest => (false, rest)
          | rest => (false, rest)
        let digits := digitsAndRest.takeWhile Char.isDigit
        if digits.isEmpty then (0, text)
        else
          let value : Int := digits.foldl (fun n c => 10 * n + (c.toNat - 48)) 0
          (if isNegative then -value else value, digitsAndRest.drop digits.length)
      else (0, text)
    | [] => (0, [])

end Conversion

end TestDaemon
