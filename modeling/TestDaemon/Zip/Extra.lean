import TestDaemon.Crc32
import TestDaemon.Text.Cp437
import TestDaemon.Text.Utf8
import TestDaemon.Zip.Record

/-! # Extra fields

A header may carry tagged fields behind its name. Some of them take the place of what the header says:
lengths that need 64 bits, the name in UTF-8, the method behind AES encryption. A field that is known
has to be well-formed, or the header cannot be used; an unknown one is passed over.
-/

namespace TestDaemon.Zip

/-- A tagged field. -/
structure ExtraField where
  tag : Nat
  data : Bytes
  deriving DecidableEq, Repr

namespace ExtraField

/-- Split an area into fields. A single octet at the end is padding. -/
def split? : Bytes → Option (List ExtraField)
  | [] | [_] => some []
  | first :: second :: area => do
    let (length, rest) ← Bytes.takeNat? 2 area
    let (data, _) ← Bytes.take? length rest
    let fields ← split? (area.drop (2 + length))
    return ⟨Bytes.toNatLE [first, second], data⟩ :: fields
termination_by area => area.length
decreasing_by simp; omega

end ExtraField

namespace Header

/-- Text of an entry: UTF-8 if flag 11 says so, and code page 437 if not. -/
def decodeText (header : Header) (text : Bytes) : String :=
  if header.flags.testBit 11 then Utf8.decodeLossy text else Cp437.decode text

/-- The method that stands for encryption by AES. -/
def aesMethod : Nat := 99

/-- The value that stands in a field of 32 bits whose number is in the field for 64 bits. -/
def overflowing : Nat := 0xFFFFFFFF

/-- Read a number of 64 bits in the place of another, where one is to be there. -/
def widen? (present : Bool) (narrow : Nat) (data : Bytes) : Option (Nat × Bytes) :=
  if present || narrow == overflowing then Bytes.takeNat? 8 data else some (narrow, data)

/-- Take lengths and the offset from the field for 64 bits. -/
def withWideNumbers? (header : Header) (data : Bytes) : Option Header := do
  let all := decide (24 ≤ data.length)
  let (size, data) ← widen? all header.size data
  let (compressedSize, data) ← widen? all header.compressedSize data
  let (offset, _) ← widen? all header.offset data
  return { header with size, compressedSize, offset }

/-- Whether the field of a Windows file system is the one with three times. -/
def isFileTimes (data : Bytes) : Bool :=
  data.length == 32 && (data.drop 4).take 4 == [1, 0, 24, 0]

/-- Take the method from the field of an encrypted entry: its version, vendor and strength come first. -/
def withSeal? (header : Header) (data : Bytes) : Option Header := do
  let (version, data) ← Bytes.takeNat? 2 data
  let data ← Bytes.after? [0x41, 0x45] data
  let (strength, data) ← Bytes.takeNat? 1 data
  let (method, rest) ← Bytes.takeNat? 2 data
  if rest = [] ∧ (version = 1 ∨ version = 2) ∧ 1 ≤ strength ∧ strength ≤ 3 then
    some { header with method, isSealed := true }
  else none

/-- Whether a field of times has the length that its flags, of which three are known, ask for. -/
def isTimes : Bytes → Bool
  | [] => false
  | flags :: times =>
    flags.toNat < 8 &&
      (times.length == 4 || times.length == 4 * ((List.range 3).filter flags.toNat.testBit).length)

/-- The text of a field that repeats another one, given with its checksum, in UTF-8. -/
def unicodeText? (repeated data : Bytes) : Option Bytes := do
  let (_, data) ← Bytes.takeNat? 1 data
  let (checksum, text) ← Bytes.takeNat? 4 data
  if checksum = (Crc32.checksum repeated).toNat ∧ (Utf8.decode? text).isSome then some text else none

/-- Apply a field to a header and its comment. -/
def withField? (header : Header) (comment : Bytes) (field : ExtraField) : Option (Header × Bytes) :=
  match field.tag with
  | 0x0001 => (header.withWideNumbers? field.data).map (·, comment)
  | 0x000A => if isFileTimes field.data then some (header, comment) else none
  | 0x5455 => if isTimes field.data then some (header, comment) else none
  | 0x6375 => (unicodeText? comment field.data).map (header, ·)
  | 0x7075 => (unicodeText? header.name field.data).map fun name =>
      ({ header with name, flags := header.flags ||| 0x800 }, comment)
  | 0x9901 => (header.withSeal? field.data).map (·, comment)
  | _ => some (header, comment)

/-- The comment as UTF-8. -/
def commentText (header : Header) (comment : Bytes) : Bytes :=
  Utf8.encode (header.decodeText comment)

/-- Apply the fields of an area in their order. The method that stands for AES needs its field. -/
def withExtra? (header : Header) (area comment : Bytes) : Option Header := do
  let fields ← ExtraField.split? area
  let (header, _) ← fields.foldlM (fun (header, comment) field => withField? header comment field)
    (header, header.commentText comment)
  if header.method = aesMethod && !header.isSealed then none else some header

/-- Read the header at the front of the bytes, with its extra fields applied, and what follows it. -/
def next? (bytes : Bytes) : Option (Header × Bytes) := do
  let (header, extra, comment, rest) ← read? bytes
  let header ← header.withExtra? extra comment
  return (header, rest)

end Header

end TestDaemon.Zip
