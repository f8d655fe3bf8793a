/-! # Octet strings

Byte strings are lists of octets. This module has the search for a delimiter, the removal of a known
head, and numbers written with their least significant octet first.
-/

namespace TestDaemon

abbrev Bytes := List UInt8

namespace Bytes

/-- The first position not before `start` at which `pattern` occurs, where `bytes` begins at
position `start`. -/
def findFrom? (pattern : Bytes) (start : Nat) : Bytes → Option Nat
  | [] => if pattern.isEmpty then some start else none
  | byte :: rest =>
    if pattern.isPrefixOf (byte :: rest) then some start else findFrom? pattern (start + 1) rest

/-- The position of the first occurrence of `pattern`. -/
def find? (pattern bytes : Bytes) : Option Nat := findFrom? pattern 0 bytes

/-- What follows `head`, if the bytes start with it. -/
def after? : (head bytes : Bytes) → Option Bytes
  | [], bytes => some bytes
  | _ :: _, [] => none
  | h :: head, b :: bytes => if h = b then after? head bytes else none

theorem after?_eq_some_iff {head bytes rest : Bytes} :
    after? head bytes = some rest ↔ bytes = head ++ rest := by
  induction head generalizing bytes with
  | nil => simp [after?]
  | cons h head ih =>
    cases bytes with
    | nil => simp [after?]
    | cons b bytes =>
      by_cases same : h = b
      · simp [after?, same, ih]
      · simp [after?, same, Ne.symm same]

/-- The number whose octets are given from the least significant one. -/
def toNatLE : Bytes → Nat
  | [] => 0
  | byte :: rest => byte.toNat + 256 * toNatLE rest

/-- The lowest `width` octets of a number, from the least significant one. -/
def ofNatLE : (width : Nat) → Nat → Bytes
  | 0, _ => []
  | width + 1, n => UInt8.ofNat n :: ofNatLE width (n / 256)

@[simp] theorem ofNatLE_length (width n : Nat) : (ofNatLE width n).length = width := by
  induction width generalizing n with
  | zero => rfl
  | succ width ih => simp [ofNatLE, ih]

/-- The first number past those of `width` octets. -/
def capacity : (width : Nat) → Nat
  | 0 => 1
  | width + 1 => 256 * capacity width

theorem toNatLE_ofNatLE (width n : Nat) :
    toNatLE (ofNatLE width n) = n % capacity width := by
  induction width generalizing n with
  | zero => simp [ofNatLE, toNatLE, capacity, Nat.mod_one]
  | succ width ih =>
    rw [ofNatLE, toNatLE, ih, capacity, Nat.mod_mul]
    simp

/-- The first `count` octets, and what follows them. -/
def take? (count : Nat) (bytes : Bytes) : Option (Bytes × Bytes) :=
  let field := bytes.take count
  if field.length = count then some (field, bytes.drop count) else none

/-- The number in the first `width` octets, and what follows them. -/
def takeNat? (width : Nat) (bytes : Bytes) : Option (Nat × Bytes) :=
  (take? width bytes).map fun (field, rest) => (toNatLE field, rest)

theorem take?_append (field rest : Bytes) : take? field.length (field ++ rest) = some (field, rest) := by
  simp [take?]

theorem takeNat?_append {width n : Nat} (bounded : n < capacity width) (rest : Bytes) :
    takeNat? width (ofNatLE width n ++ rest) = some (n, rest) := by
  have := take?_append (ofNatLE width n) rest
  rw [ofNatLE_length] at this
  simp [takeNat?, this, toNatLE_ofNatLE, Nat.mod_eq_of_lt bounded]

/-- The positions at which `pattern` occurs, in increasing order, where `bytes` begins at position
`start`. -/
def occurrences (pattern : Bytes) (start : Nat) : Bytes → List Nat
  | [] => []
  | byte :: rest =>
    let later := occurrences pattern (start + 1) rest
    if pattern.isPrefixOf (byte :: rest) then start :: later else later

end Bytes

end TestDaemon
