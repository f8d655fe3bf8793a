import TestDaemon.Deflate
import Mathlib.Tactic.Ring

/-! # Reading stored blocks

Octets whose bits are read in groups of eight come back as they were, and so does a number of several
octets. A stored block begins at the next octet behind its type, so that what is written for it is read
whole, and a stream of such blocks gives back its data.
-/

namespace TestDaemon.Deflate

/-! ## Bits of octets -/

theorem natOfBits_testBit (width n : Nat) :
    natOfBits ((List.range width).map n.testBit) = n % 2 ^ width := by
  induction width generalizing n with
  | zero => simp [natOfBits, Nat.mod_one]
  | succ width ih =>
    have later : n.testBit ∘ Nat.succ = (n / 2).testBit := funext fun index => Nat.testBit_succ n index
    have first : (n.testBit 0).toNat = n % 2 := by
      rw [Nat.testBit_zero]
      rcases Nat.mod_two_eq_zero_or_one n with even | odd <;> simp [*]
    rw [List.range_succ_eq_map, List.map_cons, List.map_map, natOfBits, later, ih, first, Nat.pow_succ',
      Nat.mod_mul]

theorem natOfBits_append (low high : Bits) :
    natOfBits (low ++ high) = natOfBits low + 2 ^ low.length * natOfBits high := by
  induction low with
  | nil => simp [natOfBits]
  | cons bit low ih =>
    rw [List.cons_append, natOfBits, natOfBits, ih, List.length_cons]
    ring

@[simp] theorem bitsOfByte_length (byte : UInt8) : (bitsOfByte byte).length = 8 := rfl

theorem natOfBits_bitsOfByte (byte : UInt8) : natOfBits (bitsOfByte byte) = byte.toNat := by
  rw [bitsOfByte, natOfBits_testBit]
  exact Nat.mod_eq_of_lt byte.toNat_lt

theorem bitsOf_cons (byte : UInt8) (bytes : Bytes) : bitsOf (byte :: bytes) = bitsOfByte byte ++ bitsOf bytes :=
  rfl

theorem bitsOf_append (front back : Bytes) : bitsOf (front ++ back) = bitsOf front ++ bitsOf back := by
  simp [bitsOf]

@[simp] theorem bitsOf_length (bytes : Bytes) : (bitsOf bytes).length = 8 * bytes.length := by
  induction bytes with
  | nil => rfl
  | cons byte bytes ih =>
    rw [bitsOf_cons, List.length_append, ih, bitsOfByte_length, List.length_cons]
    omega

theorem natOfBits_bitsOf (bytes : Bytes) : natOfBits (bitsOf bytes) = Bytes.toNatLE bytes := by
  induction bytes with
  | nil => rfl
  | cons byte bytes ih =>
    rw [bitsOf_cons, natOfBits_append, natOfBits_bitsOfByte, ih, bitsOfByte_length]
    rfl

/-! ## Reading octets -/

theorem read?_append (field bits : Bits) : read? field.length (field ++ bits) = some (natOfBits field, bits) := by
  simp [read?]

theorem read?_byte (byte : UInt8) (bits : Bits) :
    read? 8 (bitsOfByte byte ++ bits) = some (byte.toNat, bits) := by
  rw [← natOfBits_bitsOfByte]
  exact read?_append (bitsOfByte byte) bits

/-- A number of two octets. -/
theorem read?_ofNatLE {n : Nat} (bounded : n ≤ 65535) (bits : Bits) :
    read? 16 (bitsOf (Bytes.ofNatLE 2 n) ++ bits) = some (n, bits) := by
  have read := read?_append (bitsOf (Bytes.ofNatLE 2 n)) bits
  have small : n % Bytes.capacity 2 = n := Nat.mod_eq_of_lt (Nat.lt_succ_of_le bounded)
  rwa [bitsOf_length, Bytes.ofNatLE_length, natOfBits_bitsOf, Bytes.toNatLE_ofNatLE, small] at read

theorem readBytes?_bitsOf (bytes : Bytes) (bits : Bits) :
    readBytes? bytes.length (bitsOf bytes ++ bits) = some (bytes, bits) := by
  induction bytes with
  | nil => rfl
  | cons byte bytes ih =>
    simp only [bitsOf_cons, List.append_assoc, List.length_cons, readBytes?, read?_byte,
      Option.bind_eq_bind, Option.bind_some, ih, UInt8.ofNat_toNat]
    rfl

/-! ## Stored blocks -/

theorem bitsOfByte_last (last : Bool) :
    bitsOfByte (UInt8.ofNat last.toNat) = last :: (List.replicate 2 false ++ List.replicate 5 false) := by
  cases last <;> decide

/-- The rest of the octet with the type is passed over. -/
theorem readStored?_block {data : Bytes} (fits : data.length ≤ 65535) (rest : Bytes) (out : Array UInt8) :
    readStored? (List.replicate 5 false ++ bitsOf (Bytes.ofNatLE 2 data.length ++
        (Bytes.ofNatLE 2 (65535 - data.length) ++ (data ++ rest)))) out =
      some (bitsOf rest, out ++ data.toArray) := by
  have padding (bytes : Bytes) : (List.replicate 5 false ++ bitsOf bytes).drop
      ((List.replicate 5 false ++ bitsOf bytes).length % 8) = bitsOf bytes := by
    have length : (List.replicate 5 false ++ bitsOf bytes).length % 8 = 5 := by
      rw [List.length_append, List.length_replicate, bitsOf_length]
      omega
    rw [length]
    rfl
  have complement : data.length + (65535 - data.length) = 65535 := by omega
  rw [readStored?, padding]
  simp only [bitsOf_append, read?_ofNatLE fits, read?_ofNatLE (Nat.sub_le 65535 data.length),
    Option.bind_eq_bind, Option.bind_some, if_pos complement, readBytes?_bitsOf]
  rfl

theorem readBlocks?_block {data : Bytes} (fits : data.length ≤ 65535) (last : Bool) (rest : Bytes)
    (bound : Nat) (out : Array UInt8) :
    readBlocks? (bound + 1) (bitsOf (storedBlock last data ++ rest)) out =
      if last then some (out ++ data.toArray) else readBlocks? bound (bitsOf rest) (out ++ data.toArray) := by
  have head (bits : Bits) : read? 1 (last :: bits) = some (last.toNat, bits) := by
    simp [read?, natOfBits]
  have type (bits : Bits) : read? 2 (List.replicate 2 false ++ bits) = some (0, bits) := rfl
  have body := readStored?_block fits rest out
  simp only [storedBlock, List.cons_append, List.append_assoc, bitsOf_cons, bitsOfByte_last, readBlocks?,
    head, type, readBlock?, body, Option.bind_eq_bind, Option.bind_some]
  cases last <;> rfl

/-! ## Streams -/

theorem readBlocks?_encode (data : Bytes) {bound : Nat} (enough : (encode data).length ≤ bound)
    (out : Array UInt8) : readBlocks? bound (bitsOf (encode data)) out = some (out ++ data.toArray) := by
  -- A block has more than one octet, so that a bound by the octets is one by the blocks.
  fun_induction encode data generalizing bound out with
  | case1 data fits =>
    obtain ⟨bound, rfl⟩ : ∃ fuel, bound = fuel + 1 := ⟨bound - 1, by simp [storedBlock] at enough; omega⟩
    have read := readBlocks?_block fits true [] bound out
    rwa [List.append_nil] at read
  | case2 data exceeds ih =>
    obtain ⟨bound, rfl⟩ : ∃ fuel, bound = fuel + 1 := ⟨bound - 1, by simp [storedBlock] at enough; omega⟩
    have fits : (data.take 65535).length ≤ 65535 := by simp
    have fewer : (encode (data.drop 65535)).length ≤ bound := by
      simp only [storedBlock, List.cons_append, List.length_cons, List.length_append] at enough
      omega
    have whole : out ++ (data.take 65535).toArray ++ (data.drop 65535).toArray = out ++ data.toArray := by
      rw [Array.append_assoc, List.append_toArray (data.take 65535), List.take_append_drop]
    rw [readBlocks?_block fits, if_neg Bool.false_ne_true, ih fewer, whole]

/-- Data that are written in stored blocks are read back. -/
theorem decode?_encode (data : Bytes) : decode? (encode data) = some data := by
  have enough : (encode data).length ≤ (bitsOf (encode data)).length := by
    rw [bitsOf_length]
    omega
  rw [decode?, readBlocks?_encode data enough]
  simp

end TestDaemon.Deflate
