import TestDaemon.Bytes

/-! # Deflate

The compressed form of the data in an archive: a series of blocks, each of them stored as it is or
written in canonical prefix codes, with references back into what is already there. Reading accepts
every block type; bits after the last block are ignored. Writing uses stored blocks only.
-/

namespace TestDaemon.Deflate

/-! ## Bits -/

abbrev Bits := List Bool

/-- The bits of an octet, the lowest one first. -/
def bitsOfByte (byte : UInt8) : Bits := (List.range 8).map byte.toNat.testBit

def bitsOf (bytes : Bytes) : Bits := bytes.flatMap bitsOfByte

/-- The number whose bits are given from the lowest one. -/
def natOfBits : Bits → Nat
  | [] => 0
  | bit :: bits => bit.toNat + 2 * natOfBits bits

/-- A number of `width` bits, and what follows it. -/
def read? (width : Nat) (bits : Bits) : Option (Nat × Bits) :=
  let field := bits.take width
  if field.length = width then some (natOfBits field, bits.drop width) else none

/-- Octets that start at the front of the bits, and what follows them. -/
def readBytes? : (count : Nat) → Bits → Option (Bytes × Bits)
  | 0, bits => some ([], bits)
  | count + 1, bits => do
    let (byte, bits) ← read? 8 bits
    let (bytes, bits) ← readBytes? count bits
    return (UInt8.ofNat byte :: bytes, bits)

/-! ## Prefix codes -/

/-- A canonical prefix code: how many of its words have 1, 2, … bits, and the symbols in the order of
their words. -/
structure Code where
  counts : List Nat
  symbols : Array Nat
  deriving DecidableEq, Repr

namespace Code

/-- The code that gives symbol `n` a word of `lengths[n]` bits, or none if that is 0. -/
def ofLengths (lengths : List Nat) : Code :=
  let words := (List.range 15).map fun i =>
    (lengths.zipIdx.filter (·.1 == i + 1)).map (·.2)
  ⟨words.map (·.length), words.flatten.toArray⟩

/-- The words of full length that the code leaves free; `none` if it has too many words. -/
def freeWords? (code : Code) : Option Nat :=
  code.counts.foldlM (fun free count => if 2 * free < count then none else some (2 * free - count)) 1

/-- A code leaves no word free; where it is `lenient`, one may do so that has no word at all, or only
one and that of a single bit. -/
def isUsable (lenient : Bool) (code : Code) : Bool :=
  code.freeWords? == some 0 ||
    (lenient && code.symbols.size ≤ 1 && code.counts.head? == some code.symbols.size)

/-- Read one word; `rank` counts the words before it among those as long as what is read so far, and
`index` the symbols with shorter words. -/
def walk? (symbols : Array Nat) : (counts : List Nat) → (rank index : Nat) → Bits → Option (Nat × Bits)
  | [], _, _, _ => none
  | _ :: _, _, _, [] => none
  | count :: counts, rank, index, bit :: bits =>
    let rank := 2 * rank + bit.toNat
    if rank < count then (symbols[index + rank]?).map (·, bits)
    else walk? symbols counts (rank - count) (index + count) bits

/-- Read the symbol of the next word. -/
def read? (code : Code) (bits : Bits) : Option (Nat × Bits) := walk? code.symbols code.counts 0 0 bits

/-- The code of literals and lengths where a block brings none of its own. -/
def fixedLiterals : Code :=
  ofLengths (List.replicate 144 8 ++ List.replicate 112 9 ++ List.replicate 24 7 ++
    List.replicate 8 8)

/-- The code of distances where a block brings none of its own. -/
def fixedDistances : Code := ofLengths (List.replicate 32 5)

end Code

/-! ## Lengths and distances -/

/-- The least length of each length symbol from 257 on, and the width of the number added to it. -/
def lengthTable : List (Nat × Nat) :=
  [(3, 0), (4, 0), (5, 0), (6, 0), (7, 0), (8, 0), (9, 0), (10, 0), (11, 1), (13, 1), (15, 1),
    (17, 1), (19, 2), (23, 2), (27, 2), (31, 2), (35, 3), (43, 3), (51, 3), (59, 3), (67, 4), (83, 4),
    (99, 4), (115, 4), (131, 5), (163, 5), (195, 5), (227, 5), (258, 0)]

/-- The least distance of each distance symbol, and the width of the number added to it. -/
def distanceTable : List (Nat × Nat) :=
  [(1, 0), (2, 0), (3, 0), (4, 0), (5, 1), (7, 1), (9, 2), (13, 2), (17, 3), (25, 3), (33, 4),
    (49, 4), (65, 5), (97, 5), (129, 6), (193, 6), (257, 7), (385, 7), (513, 8), (769, 8), (1025, 9),
    (1537, 9), (2049, 10), (3073, 10), (4097, 11), (6145, 11), (8193, 12), (12289, 12), (16385, 13),
    (24577, 13)]

/-- Read the rest of a length or distance, given its symbol's place in the table. -/
def readScaled? (table : List (Nat × Nat)) (place : Nat) (bits : Bits) : Option (Nat × Bits) := do
  let (least, width) ← table[place]?
  let (extra, bits) ← read? width bits
  return (least + extra, bits)

/-- The octet at a distance from the end; those before the start are zero. -/
def behind (distance : Nat) (out : Array UInt8) : UInt8 :=
  if out.size < distance then 0 else (out[out.size - distance]?).getD 0

/-- Repeat `count` octets from `distance` octets before the end, octet by octet. -/
def copy (distance : Nat) : (count : Nat) → Array UInt8 → Array UInt8
  | 0, out => out
  | count + 1, out => copy distance count (out.push (behind distance out))

/-! ## Blocks -/

/-- Read the symbols of a block up to its end symbol. Every symbol takes a bit or more, so the number
of bits bounds their number. -/
def readSymbols? (literals distances : Code) :
    (bound : Nat) → Bits → Array UInt8 → Option (Bits × Array UInt8)
  | 0, _, _ => none
  | bound + 1, bits, out => do
    let (symbol, bits) ← literals.read? bits
    if symbol < 256 then readSymbols? literals distances bound bits (out.push (UInt8.ofNat symbol))
    else if symbol = 256 then some (bits, out)
    else
      let (length, bits) ← readScaled? lengthTable (symbol - 257) bits
      let (symbol, bits) ← distances.read? bits
      let (distance, bits) ← readScaled? distanceTable symbol bits
      readSymbols? literals distances bound bits (copy distance length out)

/-- Read a stored block: from the next octet on, its length, the complement of that, and the data. -/
def readStored? (bits : Bits) (out : Array UInt8) : Option (Bits × Array UInt8) := do
  let (length, bits) ← read? 16 (bits.drop (bits.length % 8))
  let (complement, bits) ← read? 16 bits
  if length + complement = 65535 then
    let (bytes, bits) ← readBytes? length bits
    return (bits, out ++ bytes.toArray)
  else none

/-- The order in which the word lengths of the code for word lengths are written. -/
def lengthOrder : List Nat := [16, 17, 18, 0, 8, 7, 9, 6, 10, 5, 11, 4, 12, 3, 13, 2, 14, 1, 15]

/-- Read numbers of 3 bits. -/
def readTriples? : (count : Nat) → Bits → Option (List Nat × Bits)
  | 0, bits => some ([], bits)
  | count + 1, bits => do
    let (first, bits) ← read? 3 bits
    let (rest, bits) ← readTriples? count bits
    return (first :: rest, bits)

/-- Read word lengths until `wanted` are there; `known` holds them, the last one first. -/
def readLengths? (code : Code) (wanted : Nat) :
    (bound : Nat) → (known : List Nat) → Bits → Option (List Nat × Bits)
  | 0, _, _ => none
  | bound + 1, known, bits =>
    if known.length = wanted then some (known.reverse, bits)
    else if wanted < known.length then none
    else do
      let (symbol, bits) ← code.read? bits
      if symbol < 16 then readLengths? code wanted bound (symbol :: known) bits
      else if symbol = 16 then
        let last ← known.head?
        let (extra, bits) ← read? 2 bits
        readLengths? code wanted bound (List.replicate (3 + extra) last ++ known) bits
      else
        let (least, width) := if symbol = 17 then (3, 3) else (11, 7)
        let (extra, bits) ← read? width bits
        readLengths? code wanted bound (List.replicate (least + extra) 0 ++ known) bits

/-- Read the codes that a block brings with it. -/
def readCodes? (bits : Bits) : Option (Code × Code × Bits) := do
  let (literalCount, bits) ← read? 5 bits
  let (distanceCount, bits) ← read? 5 bits
  let (lengthCount, bits) ← read? 4 bits
  let literalCount := literalCount + 257
  let distanceCount := distanceCount + 1
  if 286 < literalCount || 30 < distanceCount then none
  else
    let (triples, bits) ← readTriples? (lengthCount + 4) bits
    let lengths := (List.range 19).map fun symbol => (triples[lengthOrder.idxOf symbol]?).getD 0
    let code := Code.ofLengths lengths
    if code.isUsable false then
      let wanted := literalCount + distanceCount
      let (lengths, bits) ← readLengths? code wanted (wanted + 1) [] bits
      let literals := Code.ofLengths (lengths.take literalCount)
      let distances := Code.ofLengths (lengths.drop literalCount)
      if literals.isUsable true && distances.isUsable true then some (literals, distances, bits)
      else none
    else none

/-- Read the body of a block of the given type. -/
def readBlock? (type : Nat) (bits : Bits) (out : Array UInt8) : Option (Bits × Array UInt8) :=
  match type with
  | 0 => readStored? bits out
  | 1 => readSymbols? .fixedLiterals .fixedDistances bits.length bits out
  | 2 => do
    let (literals, distances, bits) ← readCodes? bits
    readSymbols? literals distances bits.length bits out
  | _ => none

/-- Read blocks up to the last one. Every block takes three bits or more, so the number of bits bounds
their number. -/
def readBlocks? : (bound : Nat) → Bits → Array UInt8 → Option (Array UInt8)
  | 0, _, _ => none
  | bound + 1, bits, out => do
    let (last, bits) ← read? 1 bits
    let (type, bits) ← read? 2 bits
    let (bits, out) ← readBlock? type bits out
    if last = 1 then some out else readBlocks? bound bits out

/-- The data that a deflate stream stands for; `none` if the stream is faulty or ends too early. -/
def decode? (bytes : Bytes) : Option Bytes :=
  let bits := bitsOf bytes
  (readBlocks? bits.length bits #[]).map (·.toList)

/-! ## Writing -/

/-- One stored block. -/
def storedBlock (last : Bool) (data : Bytes) : Bytes :=
  UInt8.ofNat last.toNat :: Bytes.ofNatLE 2 data.length ++ Bytes.ofNatLE 2 (65535 - data.length) ++ data

/-- A deflate stream of stored blocks. -/
def encode (data : Bytes) : Bytes :=
  if data.length ≤ 65535 then storedBlock true data
  else storedBlock false (data.take 65535) ++ encode (data.drop 65535)
termination_by data.length

end TestDaemon.Deflate
