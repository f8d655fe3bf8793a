import TestDaemon.Client
import TestDaemon.Proofs.TestResult

/-! # Results as replies

A result goes over the wire without an envelope: neither its length nor a line end tells where it stops.
It needs none. It begins with a brace, which no line does that reports an error, its octets are
free of control characters, and a reader stops right behind its closing brace, whatever follows.
-/

namespace TestDaemon

/-! ## No control characters -/

namespace Json

theorem escapeChar_printable (c : Char) : ∀ d ∈ escapeChar c, 0x20 ≤ d.toNat := by
  fun_cases escapeChar c with
  | case8 _ _ _ _ _ _ _ control =>
    have digit {n : Nat} (small : n < 16) : 0x20 ≤ (Nat.digitChar n).toNat := by
      interval_cases n <;> decide
    simp only [List.forall_mem_cons, List.not_mem_nil, false_implies, implies_true, and_true]
    exact ⟨by decide, by decide, by decide, by decide, digit (by omega), digit (by omega)⟩
  | case9 _ _ _ _ _ _ _ control => simpa using control
  | _ => simp

theorem quoteChars_printable (text : List Char) : ∀ c ∈ quoteChars text, 0x20 ≤ c.toNat := by
  intro c member
  simp only [quoteChars, List.cons_append, List.mem_cons, List.mem_append, List.mem_flatMap,
    List.not_mem_nil, or_false] at member
  rcases member with rfl | ⟨source, _, escaped⟩ | rfl
  · decide
  · exact escapeChar_printable source c escaped
  · decide

end Json

namespace TestResult

theorem memberChars_printable {name : String} {value : List Char} (printable : ∀ c ∈ value, 0x20 ≤ c.toNat) :
    ∀ c ∈ memberChars name value, 0x20 ≤ c.toNat := by
  intro c member
  rcases List.mem_append.mp member with inName | inRest
  · exact Json.quoteChars_printable _ c inName
  · rcases List.mem_cons.mp inRest with rfl | inValue
    · decide
    · exact printable c inValue

theorem toChars_printable (result : TestResult) : ∀ c ∈ result.toChars, 0x20 ≤ c.toNat := by
  have quoted (name : String) (text : List Char) :
      ∀ c ∈ memberChars name (Json.quoteChars text), 0x20 ≤ c.toNat :=
    memberChars_printable (Json.quoteChars_printable text)
  simp only [toChars, List.cons_append, List.append_assoc, List.forall_mem_cons, List.forall_mem_append]
  refine ⟨by decide, quoted _ _, ?_, by decide, quoted _ _, by decide, quoted _ _, by decide, by simp⟩
  cases result.message with
  | none => simp
  | some text => exact List.forall_mem_cons.mpr ⟨by decide, quoted _ _⟩

theorem encode_printable (result : TestResult) : ∀ octet ∈ result.encode, 0x20 ≤ octet := by
  intro octet member
  by_contra control
  have low : octet.toNat < 0x20 := by simpa [UInt8.le_iff_toNat_le] using control
  obtain ⟨c, inText, inOctets⟩ := List.mem_flatMap.mp member
  have value : c.toNat = octet.toNat :=
    Utf8.of_mem_encodeChar inOctets (UInt8.lt_iff_toNat_lt.mpr (Nat.lt_trans low (by decide)))
  have printable := result.toChars_printable c inText
  omega

theorem encode_head? (result : TestResult) : result.encode.head? = some 0x7B := rfl

/-! ## Reading -/

theorem decode_encode (result : TestResult) : decode result.encode = .ok result := by
  have taken := result.takes_encode 0 []
  rw [List.append_nil] at taken
  simp only [decode, Json.Cursor.start, taken, bind, Except.bind]
  rfl

end TestResult

section

variable {σ : Type} (result : TestResult) (peer : σ) (rest : Bytes) (ending : Ending)

theorem Link.readResult_encode :
    Link.readResult ⟨peer, result.encode ++ rest, ending⟩ = (.ok result, ⟨peer, rest, ending⟩) := by
  simp only [readResult, Json.Cursor.start, result.takes_encode 0 rest]

/-- The first octet tells a result from a line. -/
theorem Client.receiveResult_encode :
    receiveResult ⟨peer, result.encode ++ rest, ending⟩ = (.ok (.ok result), ⟨peer, rest, ending⟩) := by
  have peeked : Link.peek ⟨peer, result.encode ++ rest, ending⟩ = .ok 0x7B := rfl
  have brace : (0x7B : UInt8) ≠ 0x45 := by decide
  simp only [receiveResult, peeked, if_neg brace, Link.readResult_encode]
  rfl

end

/-- A written result is read back as it was. It begins with a brace and has no control characters, and
from any stream that begins with it a client takes the result, and exactly its octets. -/
theorem TestResult.encode_selfDelimiting (result : TestResult) :
    decode result.encode = .ok result ∧ result.encode.head? = some 0x7B ∧
      (∀ octet ∈ result.encode, 0x20 ≤ octet) ∧
      ∀ (σ : Type) (peer : σ) (rest : Bytes) (ending : Ending),
        Link.readResult ⟨peer, result.encode ++ rest, ending⟩ = (.ok result, ⟨peer, rest, ending⟩) ∧
        Client.receiveResult ⟨peer, result.encode ++ rest, ending⟩ =
          (.ok (.ok result), ⟨peer, rest, ending⟩) :=
  ⟨result.decode_encode, result.encode_head?, result.encode_printable, fun _ peer rest ending =>
    ⟨Link.readResult_encode result peer rest ending, Client.receiveResult_encode result peer rest ending⟩⟩

end TestDaemon
