import TestDaemon.Proofs.Utf8
import Mathlib.Data.String.Basic

/-! # The order of encoded text

Texts are in the order of their characters, and so are their octets: the first octet of a character tells
how many there are, and grows with their number, and the bits of a character are spread over its octets
from the highest ones on.
-/

namespace TestDaemon.Utf8

/-- The number of a later octet, which carries six bits. -/
theorem toNat_tail (number : Nat) : (UInt8.ofNat (number % 0x40 + 0x80)).toNat = number % 0x40 + 0x80 := by
  rw [UInt8.toNat_ofNat']
  omega

/-- Numbers are compared by their last six bits if the others are the same. -/
theorem bits_lt {first second : Nat} (less : first < second) :
    first / 64 < second / 64 ∨ first / 64 = second / 64 ∧ first % 64 < second % 64 := by
  omega

/-- The octets of a lesser character are lesser, whatever follows them. -/
theorem encodeChar_append_lt {first second : Char} (less : first < second) (front back : Bytes) :
    String.utf8EncodeChar first ++ front < String.utf8EncodeChar second ++ back := by
  have less : first.val.toNat < second.val.toNat := less
  have valid : second.val.toNat < 0xD800 ∨ 0xDFFF < second.val.toNat ∧ second.val.toNat < 0x110000 :=
    second.valid
  have high (n : Nat) : n / 262144 = n / 4096 / 64 := by omega
  have middle (n : Nat) : n / 4096 = n / 64 / 64 := by omega
  -- Characters of different lengths differ in their first octets, those of one length in their bits.
  fun_cases String.utf8EncodeChar first <;> fun_cases String.utf8EncodeChar second <;>
    simp only [List.cons_append, List.nil_append, List.cons_lt_cons_iff, UInt8.lt_iff_toNat_lt,
      ← UInt8.toNat_inj, toNat_tail] <;>
    simp only [UInt8.toNat_ofNat', high, middle]
  case case4.case4 =>
    rcases bits_lt less with less | ⟨same, less⟩
    · rcases bits_lt less with less | ⟨same, less⟩
      · omega
      · omega
    · omega
  all_goals omega

theorem encodeChars_lt {first second : List Char} (less : first < second) :
    encodeChars first < encodeChars second := by
  induction less with
  | @nil c rest =>
    rw [encodeChars_cons, encodeChars, List.flatMap_nil]
    cases shape : String.utf8EncodeChar c with
    | nil => exact absurd shape String.utf8EncodeChar_ne_nil
    | cons octet octets => exact List.nil_lt_cons ..
  | cons _ ih =>
    rw [encodeChars_cons, encodeChars_cons]
    exact List.append_left_lt ih
  | rel less =>
    rw [encodeChars_cons, encodeChars_cons]
    exact encodeChar_append_lt less _ _

/-- Texts are in the order of their octets. -/
theorem encode_lt_encode_iff {first second : String} : encode first < encode second ↔ first < second := by
  have forward {first second : String} (less : first < second) : encode first < encode second :=
    encodeChars_lt (String.lt_iff_toList_lt.mp less)
  refine ⟨fun less => ?_, forward⟩
  rcases lt_trichotomy first second with before | rfl | behind
  · exact before
  · exact absurd less (List.lt_irrefl _)
  · exact absurd less (List.lt_asymm (forward behind))

theorem encode_le_encode_iff {first second : String} : encode first ≤ encode second ↔ first ≤ second := by
  rw [← List.not_lt, encode_lt_encode_iff, not_lt]

end TestDaemon.Utf8
