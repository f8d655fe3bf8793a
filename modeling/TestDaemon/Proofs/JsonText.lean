import TestDaemon.Json.Printer
import TestDaemon.Json.Reader
import TestDaemon.Proofs.Utf8

/-! # Reading quoted text

A reader takes a written value whole if, wherever it meets the value, it gives the value back and stands
right behind it. The reader of strings takes every quoted text: each character comes back from its
escape, or, where it has none, from octets that mean nothing to the reader.
-/

namespace TestDaemon.Json

/-- Whether a reader takes what is written for a value, whatever comes before and after. -/
def Takes {α : Type} (read : Cursor → Except Fault (α × Cursor)) (written : Bytes) (value : α) : Prop :=
  ∀ offset rest, read ⟨offset, written ++ rest⟩ = .ok (value, ⟨offset + written.length, rest⟩)

/-- A string with octets in front of it. -/
def prepend (octets : Bytes) (read : Except Fault (Bytes × Cursor)) : Except Fault (Bytes × Cursor) :=
  read.map fun (tail, cursor) => (octets ++ tail, cursor)

theorem prepend_prepend (first second : Bytes) (read : Except Fault (Bytes × Cursor)) :
    prepend first (prepend second read) = prepend (first ++ second) read := by
  rcases read with fault | ⟨tail, cursor⟩
  · rfl
  · simp [prepend, Except.map]

theorem readStringFrom_step {state next : StringState} {octet : UInt8} {octets : Bytes}
    (steps : stringStep true state octet = .ok (some (octets, next))) (offset : Nat) (rest : Bytes) :
    readStringFrom true state offset (octet :: rest) =
      prepend octets (readStringFrom true next (offset + 1) rest) := by
  rw [readStringFrom, steps]
  dsimp only
  rcases readStringFrom true next (offset + 1) rest with fault | ⟨tail, cursor⟩ <;> rfl

/-- The octets that stand for themselves in a string. -/
def IsPlain (octet : UInt8) : Prop := octet ≠ 0x22 ∧ octet ≠ 0x5C ∧ ¬ octet < 0x20

theorem readStringFrom_plain {octets : Bytes} (plain : ∀ octet ∈ octets, IsPlain octet) (offset : Nat)
    (rest : Bytes) :
    readStringFrom true .plain offset (octets ++ rest) =
      prepend octets (readStringFrom true .plain (offset + octets.length) rest) := by
  induction octets generalizing offset with
  | nil =>
    rcases read : readStringFrom true .plain offset rest with fault | ⟨tail, cursor⟩ <;>
      simp [prepend, Except.map, read]
  | cons octet octets ih =>
    obtain ⟨quote, backslash, control⟩ := plain octet (List.mem_cons_self ..)
    have steps : stringStep true .plain octet = .ok (some ([octet], .plain)) := by
      simp only [stringStep, if_neg quote, if_neg backslash, if_neg control]
    have rest' := ih (fun other member => plain other (List.mem_cons_of_mem _ member)) (offset + 1)
    rw [List.cons_append, readStringFrom_step steps, rest', prepend_prepend]
    simp only [List.singleton_append, List.length_cons, Nat.add_assoc, Nat.add_comm 1]

theorem isPlain_of_mem {c : Char} (quote : c ≠ '"') (backslash : c ≠ '\\') (control : ¬ c.toNat < 0x20) :
    ∀ octet ∈ String.utf8EncodeChar c, IsPlain octet := by
  intro octet member
  have same (ascii : octet < 0x80) : c = Char.ofNat octet.toNat := by
    have := Utf8.of_mem_encodeChar member ascii
    have here : Char.ofNat c.val.toNat = c := Char.ofNat_toNat c
    rw [← this, here]
  refine ⟨?_, ?_, fun low => ?_⟩
  · rintro rfl
    exact quote (same (by decide))
  · rintro rfl
    exact backslash (same (by decide))
  · have low : octet.toNat < 0x20 := UInt8.lt_iff_toNat_lt.mp low
    have := Utf8.of_mem_encodeChar member (by rw [UInt8.lt_iff_toNat_lt]; exact Nat.lt_trans low (by decide))
    exact control (by rw [Char.toNat]; omega)

/-- A short escape is a backslash and a letter. -/
theorem readStringFrom_short {letter : Char} (octet : UInt8) {char : UInt8}
    (written : Utf8.encodeChars ['\\', letter] = [0x5C, octet]) (notHex : octet ≠ 0x75)
    (escape : shortEscape? octet = some char) (offset : Nat) (rest : Bytes) :
    readStringFrom true .plain offset (Utf8.encodeChars ['\\', letter] ++ rest) =
      prepend [char] (readStringFrom true .plain
        (offset + (Utf8.encodeChars ['\\', letter]).length) rest) := by
  have opens : stringStep true .plain 0x5C = .ok (some ([], .escape)) := rfl
  have closes : stringStep true .escape octet = .ok (some ([char], .plain)) := by
    simp only [stringStep, if_neg notHex, escape]
  rw [written, List.cons_append, readStringFrom_step opens, List.cons_append,
    readStringFrom_step closes, prepend_prepend]
  rfl

theorem closeHex_control {number : Nat} (control : number < 0x20) :
    ∃ tens ones, Utf8.encodeChars
        ['\\', 'u', '0', '0', Nat.digitChar (number / 16), Nat.digitChar (number % 16)] =
          [0x5C, 0x75, 0x30, 0x30, tens, ones] ∧
      closeHex true none [0x30, 0x30, tens, ones] = .ok (unitBytes number, .plain) := by
  interval_cases number <;> exact ⟨_, _, rfl, rfl⟩

theorem readStringFrom_escapeChar (c : Char) (offset : Nat) (rest : Bytes) :
    readStringFrom true .plain offset (Utf8.encodeChars (escapeChar c) ++ rest) =
      prepend (String.utf8EncodeChar c)
        (readStringFrom true .plain (offset + (Utf8.encodeChars (escapeChar c)).length) rest) := by
  fun_cases escapeChar c with
  | case1 same =>
    subst same
    exact readStringFrom_short 0x22 (by decide) (by decide) rfl offset rest
  | case2 _ same =>
    subst same
    exact readStringFrom_short 0x5C (by decide) (by decide) rfl offset rest
  | case3 _ _ same =>
    subst same
    exact readStringFrom_short 0x62 (by decide) (by decide) rfl offset rest
  | case4 _ _ _ same =>
    subst same
    exact readStringFrom_short 0x74 (by decide) (by decide) rfl offset rest
  | case5 _ _ _ _ same =>
    subst same
    exact readStringFrom_short 0x6E (by decide) (by decide) rfl offset rest
  | case6 _ _ _ _ _ same =>
    subst same
    exact readStringFrom_short 0x66 (by decide) (by decide) rfl offset rest
  | case7 _ _ _ _ _ _ same =>
    subst same
    exact readStringFrom_short 0x72 (by decide) (by decide) rfl offset rest
  | case8 _ _ _ _ _ _ _ control =>
    obtain ⟨tens, ones, written, closes⟩ := closeHex_control control
    have unit : unitBytes c.toNat = String.utf8EncodeChar c := by rw [unitBytes, Char.ofNat_toNat]
    have first : stringStep true .plain 0x5C = .ok (some ([], .escape)) := rfl
    have second : stringStep true .escape 0x75 = .ok (some ([], .hex none [])) := rfl
    have third : stringStep true (.hex none []) 0x30 = .ok (some ([], .hex none [0x30])) := rfl
    have fourth : stringStep true (.hex none [0x30]) 0x30 =
        .ok (some ([], .hex none [0x30, 0x30])) := rfl
    have fifth : stringStep true (.hex none [0x30, 0x30]) tens =
        .ok (some ([], .hex none [0x30, 0x30, tens])) := rfl
    have last : stringStep true (.hex none [0x30, 0x30, tens]) ones =
        .ok (some (String.utf8EncodeChar c, .plain)) := by
      rw [← unit]
      exact congrArg (Except.map some) closes
    rw [written]
    simp only [List.cons_append, List.nil_append, readStringFrom_step first,
      readStringFrom_step second, readStringFrom_step third, readStringFrom_step fourth,
      readStringFrom_step fifth, readStringFrom_step last, prepend_prepend]
    rfl
  | case9 quote backslash _ _ _ _ _ control =>
    have octets : Utf8.encodeChars [c] = String.utf8EncodeChar c := by simp [Utf8.encodeChars]
    rw [octets, readStringFrom_plain (isPlain_of_mem quote backslash control)]

theorem readStringFrom_escaped (text : List Char) (offset : Nat) (rest : Bytes) :
    readStringFrom true .plain offset (Utf8.encodeChars (text.flatMap escapeChar) ++ rest) =
      prepend (Utf8.encodeChars text)
        (readStringFrom true .plain
          (offset + (Utf8.encodeChars (text.flatMap escapeChar)).length) rest) := by
  induction text generalizing offset with
  | nil => exact readStringFrom_plain (by simp [Utf8.encodeChars]) offset rest
  | cons c text ih =>
    rw [List.flatMap_cons, Utf8.encodeChars_append, Utf8.encodeChars_cons, List.append_assoc,
      readStringFrom_escapeChar, ih, prepend_prepend, List.length_append, Nat.add_assoc]

/-- A quoted text is read as that text. -/
theorem takes_quote (text : String) :
    Takes (fun cursor => readString cursor.next) (Utf8.encodeChars (quoteChars text.toList)) text := by
  intro offset rest
  have written : Utf8.encodeChars (quoteChars text.toList) =
      0x22 :: (Utf8.encodeChars (text.toList.flatMap escapeChar) ++ [0x22]) := by
    rw [quoteChars, List.cons_append, Utf8.encodeChars_cons, Utf8.encodeChars_append]
    rfl
  have closes (offset : Nat) : readStringFrom true .plain offset (0x22 :: rest) =
      .ok ([], ⟨offset + 1, rest⟩) := rfl
  have length : offset + 1 + (Utf8.encodeChars (text.toList.flatMap escapeChar)).length + 1 =
      offset + (Utf8.encodeChars (quoteChars text.toList)).length := by
    simp [written]
    omega
  have decoded : Utf8.decode? (Utf8.encodeChars text.toList ++ []) = some text := by
    rw [List.append_nil]
    exact Utf8.decode?_encode text
  rw [written] at length ⊢
  simp only [List.cons_append, List.append_assoc, List.nil_append, Cursor.next, readString,
    readStringFrom_escaped, closes, prepend, Except.map, bind, Except.bind, decoded, ← length]
  rfl

end TestDaemon.Json
