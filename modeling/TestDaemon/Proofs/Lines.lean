import TestDaemon.Client.Link
import TestDaemon.Dispatch
import TestDaemon.Proofs.Utf8
import TestDaemon.Reply
import Mathlib.Data.List.TakeWhile

/-! # Lines of text on the wire

A text without a line feed that does not end in a carriage return is one line. Such a text is the command
line of its own octets, and a client that is sent it as a reply reads exactly it and nothing behind it.
-/

namespace TestDaemon

/-- A text that a reader of lines gives back. -/
structure OneLine (text : String) : Prop where
  noFeed : '\n' ∉ text.toList
  noReturn : text.toList.getLast? ≠ some '\r'

namespace OneLine

instance (text : String) : Decidable (OneLine text) :=
  decidable_of_iff ('\n' ∉ text.toList ∧ text.toList.getLast? ≠ some '\r')
    ⟨fun ⟨noFeed, noReturn⟩ => ⟨noFeed, noReturn⟩, fun ⟨noFeed, noReturn⟩ => ⟨noFeed, noReturn⟩⟩

theorem append {head text : String} (front : OneLine head) (line : OneLine text) :
    OneLine (head ++ text) := by
  refine ⟨?_, ?_⟩
  · rw [String.toList_append, List.mem_append]
    exact not_or.mpr ⟨front.noFeed, line.noFeed⟩
  · rw [String.toList_append, List.getLast?_append]
    have noReturn := line.noReturn
    cases last : text.toList.getLast? with
    | none => exact front.noReturn
    | some c =>
      rw [last] at noReturn
      exact noReturn

theorem isBlank_getLast?_trim {text : String} {c : Char}
    (last : (Text.trim text).toList.getLast? = some c) : isBlank c = false := by
  rw [Text.trim, String.toList_ofList, Text.trimChars, Text.trimEndChars, List.getLast?_reverse] at last
  have kept := List.head?_dropWhile_not isBlank (text.toList.dropWhile isBlank).reverse
  rw [last] at kept
  exact kept

theorem of_trimmed {text : String} (noFeed : '\n' ∉ text.toList) (trimmed : Text.trim text = text) :
    OneLine text := by
  refine ⟨noFeed, fun last => ?_⟩
  rw [← trimmed] at last
  exact absurd (isBlank_getLast?_trim last) (by decide)

theorem of_clear {text : String} (clear : ∀ c ∈ text.toList, isBlank c = false) : OneLine text := by
  refine ⟨fun member => ?_, fun last => ?_⟩
  · exact absurd (clear _ member) (by decide)
  · exact absurd (clear _ (List.mem_of_getLast? last)) (by decide)

/-! ## Octets -/

variable {text : String}

theorem not_mem_encode (line : OneLine text) : 0x0A ∉ Utf8.encode text := fun member =>
  line.noFeed (Utf8.of_mem_encodeChars member (by decide))

theorem getLast?_encode (line : OneLine text) : (Utf8.encode text).getLast? ≠ some 0x0D := by
  intro last
  have noReturn := line.noReturn
  rw [Utf8.encode] at last
  rcases List.eq_nil_or_concat text.toList with empty | ⟨front, c, shape⟩
  · rw [empty] at last
    contradiction
  · rw [shape, List.concat_eq_append] at last noReturn
    have nonempty : String.utf8EncodeChar c ≠ [] := String.utf8EncodeChar_ne_nil
    have octets : Utf8.encodeChars [c] = String.utf8EncodeChar c := List.append_nil _
    rw [Utf8.encodeChars_append, octets, List.getLast?_append, List.getLast?_eq_some_getLast nonempty] at last
    have member : (0x0D : UInt8) ∈ String.utf8EncodeChar c :=
      Option.some.inj last ▸ List.getLast_mem nonempty
    have same : c = '\r' := by
      have value := Utf8.of_mem_encodeChar member (by decide)
      rw [← Char.ofNat_toNat c, Char.toNat, value]
      rfl
    rw [List.getLast?_concat, same] at noReturn
    contradiction

/-! ## Command lines -/

theorem firstLine_encode (line : OneLine text) : firstLine (Utf8.encode text) = Utf8.encode text := by
  have whole : (Utf8.encode text).takeWhile (· != 0x0A) = Utf8.encode text := by
    refine List.takeWhile_eq_self_iff.mpr fun octet member => bne_iff_ne.mpr fun feed => ?_
    exact line.not_mem_encode (feed ▸ member)
  rw [firstLine, whole, if_neg line.getLast?_encode]

theorem commandLine_encode (line : OneLine text) (short : (Utf8.encode text).length ≤ commandLineLimit) :
    commandLine (Utf8.encode text) = .ok text := by
  rw [commandLine, line.firstLine_encode, if_neg (Nat.not_lt.mpr short), Utf8.decodeLossy_encode]

/-! ## Replies -/

theorem splitLine?_feed {octets : Bytes} (clear : 0x0A ∉ octets) (rest : Bytes) :
    Link.splitLine? (octets ++ 0x0A :: rest) = some (octets ++ [0x0A], rest) := by
  induction octets with
  | nil => rfl
  | cons octet octets ih =>
    obtain ⟨different, clear⟩ := not_or.mp (fun either => clear (List.mem_cons.mpr either))
    rw [List.cons_append, Link.splitLine?, if_neg (Ne.symm different), ih clear]
    rfl

theorem stripLineEnd_line (line : OneLine text) : Link.stripLineEnd (text ++ "\r\n") = text := by
  have ends : ("\r\n" : String).toList = ['\r', '\n'] := rfl
  rw [Link.stripLineEnd, Text.trimEnd, Text.trimEndChars, String.toList_append, ends, List.reverse_append]
  have kept : text.toList.reverse.dropWhile (fun c => c = '\r' || c = '\n') = text.toList.reverse := by
    have noReturn := line.noReturn
    have noFeed := line.noFeed
    rw [← List.head?_reverse] at noReturn
    rw [← List.mem_reverse] at noFeed
    cases shape : text.toList.reverse with
    | nil => rfl
    | cons c front =>
      rw [shape] at noReturn noFeed
      refine List.dropWhile_cons_of_neg ?_
      rw [Bool.or_eq_true, decide_eq_true_eq, decide_eq_true_eq]
      rintro (rfl | rfl)
      · exact noReturn rfl
      · exact noFeed (List.mem_cons_self ..)
  have dropped : (['\r', '\n'].reverse ++ text.toList.reverse).dropWhile (fun c => c = '\r' || c = '\n') =
      text.toList.reverse.dropWhile (fun c => c = '\r' || c = '\n') := rfl
  rw [dropped, kept, List.reverse_reverse, String.ofList_toList]

/-- A client reads the line that it has been sent, and leaves what follows it. -/
theorem readLine_encode {σ : Type} (line : OneLine text) (peer : σ) (rest : Bytes) (ending : Ending) :
    Link.readLine ⟨peer, (Reply.line text).encode ++ rest, ending⟩ = (.ok text, ⟨peer, rest, ending⟩) := by
  have split : Link.splitLine? ((Reply.line text).encode ++ rest) =
      some (Utf8.encode (text ++ "\r\n"), rest) := by
    have clear : 0x0A ∉ Utf8.encode text ++ [0x0D] := by
      rw [List.mem_append, not_or]
      exact ⟨line.not_mem_encode, by decide⟩
    have ends : Utf8.encode "\r\n" = [0x0D, 0x0A] := by decide
    have shape : (Reply.line text).encode ++ rest = (Utf8.encode text ++ [0x0D]) ++ 0x0A :: rest := by
      simp [Reply.encode, Reply.lineEnd]
    rw [shape, splitLine?_feed clear, Utf8.encode_append, ends, List.append_assoc]
    rfl
  simp only [Link.readLine, split, Link.lineOf, Utf8.decode?_encode, line.stripLineEnd_line]

theorem readLine_alone {σ : Type} (line : OneLine text) (peer : σ) (ending : Ending) :
    Link.readLine ⟨peer, (Reply.line text).encode, ending⟩ = (.ok text, ⟨peer, [], ending⟩) := by
  have read := line.readLine_encode peer [] ending
  rwa [List.append_nil] at read

end OneLine

end TestDaemon
