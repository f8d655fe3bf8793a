import TestDaemon.Bytes

/-! # UTF-8

Text is encoded character by character. Decoding runs one octet at a time and marks every maximal
ill-formed part once, so that one scan serves both the strict reading, which refuses such parts, and
the lossy one, which puts U+FFFD in the place of each.
-/

namespace TestDaemon.Utf8

def encodeChars (text : List Char) : Bytes := text.flatMap String.utf8EncodeChar

def encode (text : String) : Bytes := encodeChars text.toList

/-- Where the decoder stands between octets: at the start of a character, or after some octets of
one that still owes `tails` octets, the next of them between `low` and `high`. -/
inductive State where
  | start
  | owing (tails : Nat) (low high : UInt8) (value : Nat)

/-- The state after the first octet of a character of several octets. The bounds of the second octet
rule out overlong forms, surrogates and values past U+10FFFF. -/
def lead? (b : UInt8) : Option State :=
  if b < 0xC2 then none
  else if b < 0xE0 then some (.owing 1 0x80 0xBF (b.toNat % 32))
  else if b = 0xE0 then some (.owing 2 0xA0 0xBF 0)
  else if b = 0xED then some (.owing 2 0x80 0x9F 13)
  else if b < 0xF0 then some (.owing 2 0x80 0xBF (b.toNat % 16))
  else if b = 0xF0 then some (.owing 3 0x90 0xBF 0)
  else if b < 0xF4 then some (.owing 3 0x80 0xBF (b.toNat % 8))
  else if b = 0xF4 then some (.owing 3 0x80 0x8F 4)
  else none

/-- One octet at the start of a character: what it completes, and the state after it. A part that
cannot begin a character is ill-formed by itself. -/
def begin (b : UInt8) : List (Option Char) × State :=
  if b < 0x80 then ([some (Char.ofNat b.toNat)], .start)
  else match lead? b with
    | some state => ([], state)
    | none => ([none], .start)

/-- One octet: what it completes, and the state after it. An octet that cannot continue the
character before it closes an ill-formed part and is read again from the start. -/
def step : State → UInt8 → List (Option Char) × State
  | .start, b => begin b
  | .owing tails low high value, b =>
    if low ≤ b ∧ b ≤ high then
      let value := value * 64 + b.toNat % 64
      if tails ≤ 1 then ([some (Char.ofNat value)], .start)
      else ([], .owing (tails - 1) 0x80 0xBF value)
    else
      let (units, state) := begin b
      (none :: units, state)

/-- The characters of a byte string, with `none` for each maximal ill-formed part. -/
def scan : State → Bytes → List (Option Char)
  | .start, [] => []
  | .owing .., [] => [none]
  | state, b :: rest =>
    let (units, next) := step state b
    units ++ scan next rest

/-- Decode, with U+FFFD for each maximal ill-formed part. -/
def decodeLossy (bytes : Bytes) : String :=
  String.ofList ((scan .start bytes).map (·.getD '\uFFFD'))

/-- Decode well-formed UTF-8 only. -/
def decode? (bytes : Bytes) : Option String := ((scan .start bytes).mapM id).map String.ofList

end TestDaemon.Utf8
