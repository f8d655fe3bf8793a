import TestDaemon.Proofs.Deflate

/-! # Runs of zeros in deflate streams

A block in the fixed codes may hold one octet and go on with copies of up to 258 octets that begin at the
octet before them, so that a long run of the same octet takes few bits: 13 for each copy. A method of
deflation that writes runs of zeros in this way gives back all data, as the one with stored blocks does.
-/

namespace TestDaemon.Deflate

/-! ## Words in front of other bits -/

/-- What is read as a word is read so in front of any bits. -/
theorem Code.walk?_append {symbols : Array Nat} {counts : List Nat} {rank index symbol : Nat} {word : Bits}
    (read : walk? symbols counts rank index word = some (symbol, [])) (bits : Bits) :
    walk? symbols counts rank index (word ++ bits) = some (symbol, bits) := by
  induction counts generalizing rank index word with
  | nil => cases read
  | cons count counts ih =>
    cases word with
    | nil => cases read
    | cons bit word =>
      rw [List.cons_append, walk?]
      rw [walk?] at read
      split at read
      · next within =>
        obtain ⟨found, there, same⟩ := Option.map_eq_some_iff.mp read
        obtain ⟨rfl, rfl⟩ := Prod.mk.inj same
        rw [if_pos within, there]
        rfl
      · next beyond =>
        rw [if_neg beyond]
        exact ih read

theorem Code.read?_append {code : Code} {symbol : Nat} {word : Bits}
    (read : code.read? word = some (symbol, [])) (bits : Bits) :
    code.read? (word ++ bits) = some (symbol, bits) :=
  walk?_append read bits

/-! ## A block of zeros -/

/-- The fixed word of a zero. -/
def zeroWord : Bits := [false, false, true, true, false, false, false, false]

/-- The fixed words of a copy of 258 octets that begins one octet before the end. -/
def copyWords : Bits :=
  [true, true, false, false, false, true, false, true] ++ List.replicate 5 false

/-- The fixed word of the end of a block. -/
def endWord : Bits := List.replicate 7 false

theorem copy_zeros (distance count size : Nat) :
    copy distance count (Array.replicate size 0) = Array.replicate (size + count) 0 := by
  induction count generalizing size with
  | zero => rfl
  | succ count ih =>
    have zero : behind distance (Array.replicate size 0) = 0 := by
      rw [behind]
      split
      · rfl
      · rw [Array.getElem?_replicate]
        split <;> rfl
    rw [copy, zero, ← Array.replicate_succ, ih, Nat.add_right_comm, Nat.add_assoc]

section

variable {bound size : Nat} {bits : Bits}

theorem readSymbols?_zero :
    readSymbols? .fixedLiterals .fixedDistances (bound + 1) (zeroWord ++ bits) (Array.replicate size 0) =
      readSymbols? .fixedLiterals .fixedDistances bound bits (Array.replicate (size + 1) 0) := by
  have literal : Code.fixedLiterals.read? (zeroWord ++ bits) = some (0, bits) :=
    Code.read?_append (by decide +kernel) bits
  simp only [readSymbols?, literal, Option.bind_eq_bind, Option.bind_some, Nat.zero_lt_succ, if_true]
  rw [Array.replicate_succ]
  rfl

theorem readSymbols?_copy :
    readSymbols? .fixedLiterals .fixedDistances (bound + 1) (copyWords ++ bits) (Array.replicate size 0) =
      readSymbols? .fixedLiterals .fixedDistances bound bits (Array.replicate (size + 258) 0) := by
  have length (rest : Bits) : Code.fixedLiterals.read?
      ([true, true, false, false, false, true, false, true] ++ rest) = some (285, rest) :=
    Code.read?_append (by decide +kernel) rest
  have distance : Code.fixedDistances.read? (List.replicate 5 false ++ bits) = some (0, bits) :=
    Code.read?_append (by decide +kernel) bits
  have longest : readScaled? lengthTable (285 - 257) (List.replicate 5 false ++ bits) =
      some (258, List.replicate 5 false ++ bits) := rfl
  have nearest : readScaled? distanceTable 0 bits = some (1, bits) := rfl
  have noLiteral : ¬ 285 < 256 := by decide
  have noEnd : ¬ 285 = 256 := by decide
  rw [copyWords, List.append_assoc, readSymbols?, length]
  simp only [Option.bind_eq_bind, Option.bind_some, if_neg noLiteral, if_neg noEnd, longest, distance, nearest,
    copy_zeros]

theorem readSymbols?_end (out : Array UInt8) :
    readSymbols? .fixedLiterals .fixedDistances (bound + 1) (endWord ++ bits) out = some (bits, out) := by
  have finish : Code.fixedLiterals.read? (endWord ++ bits) = some (256, bits) :=
    Code.read?_append (by decide +kernel) bits
  have noLiteral : ¬ 256 < 256 := by decide
  simp only [readSymbols?, finish, if_neg noLiteral, if_true, Option.bind_eq_bind, Option.bind_some]

end

/-- The words of zeros, one by one and then in copies, up to the end of their block. -/
def zeroWords (singles copies : Nat) : Bits :=
  (List.replicate singles zeroWord).flatten ++ ((List.replicate copies copyWords).flatten ++ endWord)

theorem length_zeroWords (singles copies : Nat) :
    (zeroWords singles copies).length = 8 * singles + 13 * copies + 7 := by
  have zero : zeroWord.length = 8 := rfl
  have copy : copyWords.length = 13 := rfl
  have finish : endWord.length = 7 := rfl
  simp only [zeroWords, List.length_append, List.length_flatten, List.map_replicate, List.sum_replicate_nat, zero,
    copy, finish]
  omega

/-- The words of a block of zeros are read as those zeros. Every word is one step towards the bound. -/
theorem readSymbols?_zeroWords {singles copies bound : Nat} (enough : singles + copies < bound) (size : Nat)
    (bits : Bits) :
    readSymbols? .fixedLiterals .fixedDistances bound (zeroWords singles copies ++ bits)
        (Array.replicate size 0) =
      some (bits, Array.replicate (size + singles + 258 * copies) 0) := by
  induction singles generalizing bound size with
  | zero =>
    induction copies generalizing bound size with
    | zero =>
      obtain ⟨bound, rfl⟩ := Nat.exists_eq_add_one_of_ne_zero (Nat.ne_zero_of_lt enough)
      exact readSymbols?_end _
    | succ copies ih =>
      obtain ⟨bound, rfl⟩ := Nat.exists_eq_add_one_of_ne_zero (Nat.ne_zero_of_lt enough)
      have shape : zeroWords 0 (copies + 1) ++ bits = copyWords ++ (zeroWords 0 copies ++ bits) := by
        simp only [zeroWords, List.replicate_succ, List.replicate_zero, List.flatten_cons, List.flatten_nil,
          List.nil_append, List.append_assoc]
      have rest := @ih bound (by omega) (size + 258)
      rw [shape, readSymbols?_copy, rest]
      congr 3
      omega
  | succ singles ih =>
    obtain ⟨bound, rfl⟩ := Nat.exists_eq_add_one_of_ne_zero (Nat.ne_zero_of_lt enough)
    have shape : zeroWords (singles + 1) copies ++ bits = zeroWord ++ (zeroWords singles copies ++ bits) := by
      simp only [zeroWords, List.replicate_succ, List.flatten_cons, List.append_assoc]
    have rest := @ih bound (by omega) (size + 1)
    rw [shape, readSymbols?_zero, rest]
    congr 3
    omega

/-! ## Octets of bits -/

/-- Octets whose bits are given. -/
def packed : (count : Nat) → Bits → Bytes
  | 0, _ => []
  | count + 1, bits => UInt8.ofNat (natOfBits (bits.take 8)) :: packed count (bits.drop 8)

theorem length_packed (count : Nat) (bits : Bits) : (packed count bits).length = count := by
  induction count generalizing bits with
  | zero => rfl
  | succ count ih => rw [packed, List.length_cons, ih]

theorem bitsOfByte_natOfBits {field : Bits} (whole : field.length = 8) :
    bitsOfByte (UInt8.ofNat (natOfBits field)) = field := by
  have all : ∀ a b c d e f g h : Bool,
      bitsOfByte (UInt8.ofNat (natOfBits [a, b, c, d, e, f, g, h])) = [a, b, c, d, e, f, g, h] := by
    decide +kernel
  match field, whole with
  | [a, b, c, d, e, f, g, h], _ => exact all a b c d e f g h

theorem bitsOf_packed {count : Nat} {bits : Bits} (whole : bits.length = 8 * count) :
    bitsOf (packed count bits) = bits := by
  induction count generalizing bits with
  | zero => exact (List.eq_nil_of_length_eq_zero whole).symm
  | succ count ih =>
    have front : (bits.take 8).length = 8 := by
      rw [List.length_take]
      omega
    have back : (bits.drop 8).length = 8 * count := by
      rw [List.length_drop]
      omega
    rw [packed, bitsOf_cons, bitsOfByte_natOfBits front, ih back, List.take_append_drop]

/-! ## Streams -/

/-- How many octets the bits of a block of zeros take. -/
def zeroOctets (singles copies : Nat) : Nat := (3 + (8 * singles + 13 * copies + 7) + 7) / 8

/-- A deflate stream of zeros: one last block in the fixed codes. -/
def zeroStream (singles copies : Nat) : Bytes :=
  let bits := [true, true, false] ++ zeroWords singles copies
  let octets := zeroOctets singles copies
  packed octets (bits ++ List.replicate (8 * octets - bits.length) false)

theorem decode?_zeroStream (singles copies : Nat) :
    decode? (zeroStream singles copies) = some (List.replicate (singles + 258 * copies) 0) := by
  obtain ⟨padding, stream⟩ : ∃ padding, bitsOf (zeroStream singles copies) =
      true :: true :: false :: (zeroWords singles copies ++ padding) := by
    refine ⟨_, (bitsOf_packed ?_).trans (List.append_assoc ..)⟩
    simp only [List.length_append, length_zeroWords, List.length_replicate, List.length_cons, List.length_nil,
      zeroOctets]
    omega
  have last (bits : Bits) : read? 1 (true :: bits) = some (1, bits) := by simp [read?, natOfBits]
  have type (bits : Bits) : read? 2 (true :: false :: bits) = some (1, bits) := by simp [read?, natOfBits]
  have enough : singles + copies < (zeroWords singles copies ++ padding).length := by
    rw [List.length_append, length_zeroWords]
    omega
  have block := readSymbols?_zeroWords enough 0 padding
  rw [decode?, stream, List.length_cons, readBlocks?]
  simp only [last, type, readBlock?, Option.bind_eq_bind, Option.bind_some]
  have nothing : (#[] : Array UInt8) = Array.replicate 0 0 := rfl
  rw [nothing, block]
  simp

/-- A deflate stream that has zeros alone in copies, and all other data in stored blocks. -/
def encodeZeros (data : Bytes) : Bytes :=
  if data ≠ [] ∧ data = List.replicate data.length 0 then
    zeroStream ((data.length - 1) % 258 + 1) ((data.length - 1) / 258)
  else encode data

/-- Data are read back from it. -/
theorem decode?_encodeZeros (data : Bytes) : decode? (encodeZeros data) = some data := by
  rw [encodeZeros]
  split
  · next zeros =>
    obtain ⟨nonempty, zeros⟩ := zeros
    have positive := List.length_pos_iff.mpr nonempty
    have whole : (data.length - 1) % 258 + 1 + 258 * ((data.length - 1) / 258) = data.length := by omega
    rw [decode?_zeroStream, whole, ← zeros]
  · exact decode?_encode data

theorem length_encodeZeros {size : Nat} (positive : 0 < size) :
    (encodeZeros (List.replicate size 0)).length = zeroOctets ((size - 1) % 258 + 1) ((size - 1) / 258) := by
  have nonempty : List.replicate size (0 : UInt8) ≠ [] := by simpa using Nat.ne_of_gt positive
  have zeros : List.replicate size (0 : UInt8) = List.replicate (List.replicate size (0 : UInt8)).length 0 := by
    rw [List.length_replicate]
  rw [encodeZeros, if_pos ⟨nonempty, zeros⟩, zeroStream, length_packed, List.length_replicate]

end TestDaemon.Deflate
