import TestDaemon.Text.Utf8
import Mathlib.Tactic.IntervalCases

/-! # Reading encoded text

The octets of a character lead the scan back to its start, with that character. So text survives its
encoding, in the strict and in the lossy reading. An octet of ASCII belongs to the character it stands
for, never to another one.
-/

namespace TestDaemon.Utf8

/-! ## The octets of one character -/

theorem scan_ascii {number : Nat} (ascii : number < 0x80) (rest : Bytes) :
    scan .start (.ofNat number :: rest) = some (Char.ofNat number) :: scan .start rest := by
  have octet : UInt8.ofNat number < 0x80 := by
    rw [UInt8.lt_iff_toNat_lt, UInt8.toNat_ofNat', Nat.mod_eq_of_lt (by omega)]
    exact ascii
  have value : (UInt8.ofNat number).toNat = number := by
    rw [UInt8.toNat_ofNat', Nat.mod_eq_of_lt (by omega)]
  simp [scan, step, begin, octet, value]

theorem scan_two {number : Nat} (low : 0xC2 ≤ number) (high : number ≤ 0xDF) (rest : Bytes) :
    scan .start (.ofNat number :: rest) = scan (.owing 1 0x80 0xBF (number % 32)) rest := by
  interval_cases number <;> rfl

/-- Two of the first octets of three narrow the bounds of the second one. -/
theorem scan_three {number : Nat} (low : 0xE0 ≤ number) (high : number ≤ 0xEF) (rest : Bytes) :
    scan .start (.ofNat number :: rest) =
      scan (.owing 2 (if number = 0xE0 then 0xA0 else 0x80) (if number = 0xED then 0x9F else 0xBF)
        (number % 16)) rest := by
  interval_cases number <;> rfl

theorem scan_four {number : Nat} (low : 0xF0 ≤ number) (high : number ≤ 0xF4) (rest : Bytes) :
    scan .start (.ofNat number :: rest) =
      scan (.owing 3 (if number = 0xF0 then 0x90 else 0x80) (if number = 0xF4 then 0x8F else 0xBF)
        (number % 8)) rest := by
  interval_cases number <;> rfl

/-- A later octet carries six bits. -/
theorem tail_octet {digit : Nat} {low high : UInt8} (small : digit < 64)
    (above : low.toNat ≤ digit + 0x80) (below : digit + 0x80 ≤ high.toNat) :
    (low ≤ .ofNat (digit + 0x80) ∧ .ofNat (digit + 0x80) ≤ high) ∧
      (UInt8.ofNat (digit + 0x80)).toNat % 64 = digit := by
  have octet : (UInt8.ofNat (digit + 0x80)).toNat = digit + 0x80 := by
    rw [UInt8.toNat_ofNat', Nat.mod_eq_of_lt (by omega)]
  rw [UInt8.le_iff_toNat_le, UInt8.le_iff_toNat_le, octet]
  exact ⟨⟨above, below⟩, by omega⟩

theorem scan_tail {tails value digit : Nat} {low high : UInt8} (small : digit < 64)
    (above : low.toNat ≤ digit + 0x80) (below : digit + 0x80 ≤ high.toNat) (rest : Bytes) :
    scan (.owing (tails + 2) low high value) (.ofNat (digit + 0x80) :: rest) =
      scan (.owing (tails + 1) 0x80 0xBF (value * 64 + digit)) rest := by
  obtain ⟨within, bits⟩ := tail_octet small above below
  simp only [scan, step, if_pos within, bits]
  rfl

theorem scan_last {value digit : Nat} {low high : UInt8} (small : digit < 64)
    (above : low.toNat ≤ digit + 0x80) (below : digit + 0x80 ≤ high.toNat) (rest : Bytes) :
    scan (.owing 1 low high value) (.ofNat (digit + 0x80) :: rest) =
      some (Char.ofNat (value * 64 + digit)) :: scan .start rest := by
  obtain ⟨within, bits⟩ := tail_octet small above below
  simp only [scan, step, if_pos within, bits]
  rfl

theorem scan_encodeChar (c : Char) (rest : Bytes) :
    scan .start (String.utf8EncodeChar c ++ rest) = some c :: scan .start rest := by
  have same : Char.ofNat c.val.toNat = c := Char.ofNat_toNat c
  have valid : c.val.toNat < 0xD800 ∨ 0xDFFF < c.val.toNat ∧ c.val.toNat < 0x110000 := c.valid
  have low : (0x80 : UInt8).toNat = 0x80 := rfl
  have high : (0xBF : UInt8).toNat = 0xBF := rfl
  fun_cases String.utf8EncodeChar c with
  | case1 value one =>
    rw [List.singleton_append, scan_ascii (by omega), same]
  | case2 value notOne two =>
    have joined : (value / 64 % 0x20 + 0xC0) % 32 * 64 + value % 0x40 = value := by omega
    simp only [List.cons_append, List.nil_append]
    rw [scan_two (by omega) (by omega), scan_last (by omega) (by omega) (by omega), joined, same]
  | case3 value notOne notTwo three =>
    have joined : ((value / 4096 % 0x10 + 0xE0) % 16 * 64 + value / 64 % 0x40) * 64 + value % 0x40 =
        value := by omega
    simp only [List.cons_append, List.nil_append]
    rw [scan_three (by omega) (by omega), scan_tail (by omega) ?_ ?_,
      scan_last (by omega) (by omega) (by omega), joined, same]
    · split
      · have : (0xA0 : UInt8).toNat = 0xA0 := rfl
        omega
      · omega
    · split
      · have : (0x9F : UInt8).toNat = 0x9F := rfl
        omega
      · omega
  | case4 value notOne notTwo notThree =>
    have joined : (((value / 262144 % 0x08 + 0xF0) % 8 * 64 + value / 4096 % 0x40) * 64 +
        value / 64 % 0x40) * 64 + value % 0x40 = value := by omega
    simp only [List.cons_append, List.nil_append]
    rw [scan_four (by omega) (by omega), scan_tail (by omega) ?_ ?_,
      scan_tail (by omega) (by omega) (by omega), scan_last (by omega) (by omega) (by omega), joined, same]
    · split
      · have : (0x90 : UInt8).toNat = 0x90 := rfl
        omega
      · omega
    · split
      · have : (0x8F : UInt8).toNat = 0x8F := rfl
        omega
      · omega

/-! ## Texts -/

theorem encodeChars_cons (c : Char) (chars : List Char) :
    encodeChars (c :: chars) = String.utf8EncodeChar c ++ encodeChars chars := rfl

theorem encodeChars_append (first second : List Char) :
    encodeChars (first ++ second) = encodeChars first ++ encodeChars second := by
  simp [encodeChars]

theorem scan_encodeChars (chars : List Char) (rest : Bytes) :
    scan .start (encodeChars chars ++ rest) = chars.map some ++ scan .start rest := by
  induction chars with
  | nil => rfl
  | cons c chars ih =>
    rw [encodeChars_cons, List.append_assoc, scan_encodeChar, ih]
    rfl

theorem scan_encode (text : String) : scan .start (encode text) = text.toList.map some := by
  have scanned := scan_encodeChars text.toList []
  simpa [scan, encode] using scanned

theorem decode?_encode (text : String) : decode? (encode text) = some text := by
  have whole : (text.toList.map some).mapM id = some text.toList := by
    induction text.toList with
    | nil => rfl
    | cons c chars ih => simp [ih]
  rw [decode?, scan_encode, whole, Option.map_some, String.ofList_toList]

theorem decodeLossy_encode (text : String) : decodeLossy (encode text) = text := by
  rw [decodeLossy, scan_encode, List.map_map]
  simp

theorem encode_append (first second : String) :
    encode (first ++ second) = encode first ++ encode second := by
  rw [encode, String.toList_append, encodeChars_append]
  rfl

/-- An octet of ASCII is a whole character. -/
theorem of_mem_encodeChar {c : Char} {octet : UInt8} (member : octet ∈ String.utf8EncodeChar c)
    (ascii : octet < 0x80) : c.val.toNat = octet.toNat := by
  have ascii : octet.toNat < 0x80 := UInt8.lt_iff_toNat_lt.mp ascii
  have valid : c.val.toNat < 0xD800 ∨ 0xDFFF < c.val.toNat ∧ c.val.toNat < 0x110000 := c.valid
  revert member
  fun_cases String.utf8EncodeChar c with
  | case1 value one =>
    intro member
    rw [List.mem_singleton.mp member, UInt8.toNat_ofNat']
    omega
  | case2 value notOne two =>
    simp only [List.mem_cons, List.not_mem_nil, or_false]
    rintro (rfl | rfl)
    all_goals
      rw [UInt8.toNat_ofNat'] at ascii
      omega
  | case3 value notOne notTwo three =>
    simp only [List.mem_cons, List.not_mem_nil, or_false]
    rintro (rfl | rfl | rfl)
    all_goals
      rw [UInt8.toNat_ofNat'] at ascii
      omega
  | case4 value notOne notTwo notThree =>
    simp only [List.mem_cons, List.not_mem_nil, or_false]
    rintro (rfl | rfl | rfl | rfl)
    all_goals
      rw [UInt8.toNat_ofNat'] at ascii
      omega

theorem of_mem_encodeChars {chars : List Char} {octet : UInt8} (member : octet ∈ encodeChars chars)
    (ascii : octet < 0x80) : Char.ofNat octet.toNat ∈ chars := by
  obtain ⟨c, inChars, inOctets⟩ := List.mem_flatMap.mp member
  rw [← of_mem_encodeChar inOctets ascii]
  have same : Char.ofNat c.val.toNat = c := Char.ofNat_toNat c
  rwa [same]

end TestDaemon.Utf8
