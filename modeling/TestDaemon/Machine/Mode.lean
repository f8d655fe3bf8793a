import TestDaemon.Machine.Octets

/-! # Modes

How the bits of a mode are written, and how a text describes changes of them.
-/

namespace TestDaemon

namespace Mode

/-- Four octal digits. -/
def octalText (mode : Nat) : Octets :=
  let digits := Nat.toDigits 8 mode
  String.ofList (List.replicate (4 - digits.length) '0' ++ digits)

/-- What each class of users may do. -/
def symbolicText (mode : Nat) : Octets :=
  let part (name : String) (bits : Nat) : String :=
    let letter (bit : Nat) (text : String) : String := if bits &&& bit != 0 then text else ""
    name ++ "=" ++ letter 4 "r" ++ letter 2 "w" ++ letter 1 "x"
  ",".intercalate [part "u" (mode / 64 % 8), part "g" (mode / 8 % 8), part "o" (mode % 8)]

/-- The bits of classes of users. -/
def classBits (letters : List Char) : Nat :=
  letters.foldl (fun bits c => bits ||| (match c with
    | 'u' => 0o4700
    | 'g' => 0o2070
    | 'o' => 0o1007
    | _ => 0o7777)) 0

/-- One change of a mode: who it is for, and its operators with the rights behind them. -/
def changeOnce? (isDirectory : Bool) (mask : Nat) (mode : Nat) (text : List Char) : Option Nat :=
  let who := text.takeWhile fun c => "ugoa".contains c
  let classes := if who.isEmpty then 0o7777 &&& (0o7777 ^^^ mask) else classBits who
  go classes (text.length + 1) mode (text.drop who.length)
where
  /-- Carry out the operators. -/
  go (classes : Nat) : (bound : Nat) → Nat → List Char → Option Nat
    | 0, _, _ => none
    | _ + 1, mode, [] => some mode
    | bound + 1, mode, operator :: rest =>
      if "+-=".contains operator then
        let letters := rest.takeWhile fun c => "rwxXstugo".contains c
        let copied (bits : Nat) : Nat := bits * 0o111
        let bits := letters.foldl (fun bits c => bits ||| (match c with
          | 'r' => 0o444
          | 'w' => 0o222
          | 'x' => 0o111
          | 'X' => if isDirectory || mode &&& 0o111 != 0 then 0o111 else 0
          | 's' => 0o6000
          | 't' => 0o1000
          | 'u' => copied (mode / 64 % 8)
          | 'g' => copied (mode / 8 % 8)
          | _ => copied (mode % 8))) 0
        let bits := bits &&& classes
        let mode := match operator with
          | '+' => mode ||| bits
          | '-' => mode &&& (0o7777 ^^^ bits)
          | _ => (mode &&& (0o7777 ^^^ (classes &&& 0o777))) ||| bits
        go classes bound mode (rest.drop letters.length)
      else none

/-- A mode after the changes that a text describes; `none` if it describes none. -/
def changed? (isDirectory : Bool) (mask mode : Nat) (text : Octets) : Option Nat :=
  if text ≠ "" && text.toList.all Char.isDigit then
    if text.toList.all fun c => c < '8' then
      let value := text.toList.foldl (fun n c => 8 * n + (c.toNat - 48)) 0
      if value ≤ 0o7777 then some value else none
    else none
  else if text = "" then none
  else (Octets.split ',' text).foldlM (fun mode part =>
    if part = "" then none else changeOnce? isDirectory mask mode part.toList) mode

end Mode

end TestDaemon
