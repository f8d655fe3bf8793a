import TestDaemon.Proofs.Delimiter
import TestDaemon.Proofs.ZipRecord
import TestDaemon.Zip.Writer

/-! # Finding a written directory

The end record of a written file is found from the end, since its signature has no border and nothing
behind it looks like one. It leads to the directory, and that to the headers, each behind the last.
-/

namespace TestDaemon

namespace Bytes

theorem occurrences_eq_nil {pattern bytes : Bytes} (absent : ¬ pattern <:+: bytes) (start : Nat) :
    occurrences pattern start bytes = [] := by
  induction bytes generalizing start with
  | nil => rfl
  | cons byte rest ih =>
    have here : ¬ pattern.isPrefixOf (byte :: rest) = true := fun begins =>
      absent (List.isPrefixOf_iff_prefix.mp begins).isInfix
    have later : ¬ pattern <:+: rest := fun occurs => absent (occurs.trans (List.suffix_cons _ _).isInfix)
    rw [occurrences, ih later]
    exact if_neg here

/-- The last positions are those behind a front. -/
theorem occurrences_append (pattern front back : Bytes) (start : Nat) :
    ∃ earlier, occurrences pattern start (front ++ back) =
      earlier ++ occurrences pattern (start + front.length) back := by
  induction front generalizing start with
  | nil => exact ⟨[], rfl⟩
  | cons byte front ih =>
    obtain ⟨earlier, rest⟩ := ih (start + 1)
    have position : start + 1 + front.length = start + (byte :: front).length := by
      rw [List.length_cons]
      omega
    rw [position] at rest
    rw [List.cons_append, occurrences, rest]
    by_cases here : pattern.isPrefixOf (byte :: (front ++ back)) = true
    · exact ⟨start :: earlier, if_pos here⟩
    · exact ⟨earlier, if_neg here⟩

end Bytes

namespace Zip

/-- The signature of an end record does not begin again before its end. -/
theorem EndRecord.occurrences_encode {record : EndRecord}
    (single : ¬ signature <:+: record.encode.drop 4) (start : Nat) :
    Bytes.occurrences signature start record.encode = [start] := by
  obtain ⟨rest, shape⟩ : ∃ rest, record.encode = 0x50 :: 0x4B :: 0x05 :: 0x06 :: rest := ⟨_, rfl⟩
  have foreign {byte : UInt8} {bytes : Bytes} (other : byte ≠ 0x50) (absent : ¬ signature <:+: bytes) :
      ¬ signature <:+: byte :: bytes := by
    rw [List.infix_cons_iff, not_or]
    exact ⟨fun begins => other (List.cons_prefix_cons.mp begins).1.symm, absent⟩
  have later : ¬ signature <:+: 0x4B :: 0x05 :: 0x06 :: rest := by
    rw [shape] at single
    exact foreign (by decide) (foreign (by decide) (foreign (by decide) single))
  have here : signature.isPrefixOf (0x50 :: 0x4B :: 0x05 :: 0x06 :: rest) = true :=
    List.isPrefixOf_iff_prefix.mpr (List.prefix_append signature rest)
  rw [shape, Bytes.occurrences, Bytes.occurrences_eq_nil later]
  exact if_pos here

theorem readHeaders?_encode {headers : List Header} (bounds : ∀ header ∈ headers, header.InBounds)
    (rest : Bytes) :
    readHeaders? headers.length (headers.flatMap Header.encode ++ rest) = some headers := by
  induction headers with
  | nil => rfl
  | cons header headers ih =>
    have first := Header.next?_encode (bounds header (List.mem_cons_self ..))
    have others := ih fun other member => bounds other (List.mem_cons_of_mem _ member)
    simp only [List.length_cons, List.flatMap_cons, List.append_assoc, readHeaders?, first, others,
      Option.bind_eq_bind, Option.bind_some]
    rfl

namespace Export

/-- Whether the directory of a file can be found and read. -/
structure Readable (parts : Export) : Prop where
  fits : parts.Fits
  bounds : ∀ header ∈ parts.headers, header.InBounds
  single : ¬ EndRecord.signature <:+: parts.endRecord.encode.drop 4

variable {parts : Export}

theorem Readable.endRecord (readable : parts.Readable) : parts.endRecord.InBounds := by
  obtain ⟨fewHeaders, shortComment, -, small⟩ := readable.fits
  have short : Bytes.capacity 2 = 65536 := rfl
  have long : Bytes.capacity 4 = UInt32.size := rfl
  constructor <;> simp only [Export.endRecord] <;> omega

/-- The directory begins where the end record says. -/
theorem shift?_encode (parts : Export) :
    shift? parts.encode (parts.entries.length + parts.directory.length) parts.endRecord = some 0 := by
  have region : (parts.encode.take (parts.entries.length + parts.directory.length)).drop
      parts.entries.length = parts.directory := by
    rw [encode, ← List.append_assoc, List.take_left' (by simp), List.drop_left]
  have offset : parts.endRecord.directoryOffset = parts.entries.length := rfl
  rw [shift?, offset, region]
  cases shape : parts.headers with
  | nil => exact if_pos (congrArg List.length shape)
  | cons header headers =>
    have several : parts.endRecord.entries ≠ 0 := by simp [Export.endRecord, shape]
    have begins : Header.signature <+: parts.directory := by
      rw [directory, shape, List.flatMap_cons, Header.encode, List.append_assoc]
      exact List.prefix_append ..
    rw [if_neg several]
    exact Bytes.find?_eq_some_iff.mpr ⟨begins, fun earlier before => absurd before (Nat.not_lt_zero _)⟩

theorem Readable.candidate? (readable : parts.Readable) :
    Zip.candidate? parts.encode (parts.entries.length + parts.directory.length) =
      some (parts.endRecord, ⟨0, parts.headers⟩) := by
  have ending : parts.encode.drop (parts.entries.length + parts.directory.length) =
      parts.endRecord.encode := by
    rw [encode, ← List.append_assoc, List.drop_left' (by simp)]
  have record := EndRecord.read?_encode readable.endRecord []
  rw [List.append_nil] at record
  have directory : parts.encode.drop (parts.endRecord.directoryOffset + 0) =
      parts.headers.flatMap Header.encode ++ parts.endRecord.encode := List.drop_left ..
  have headers : readHeaders? parts.endRecord.diskEntries
      (parts.headers.flatMap Header.encode ++ parts.endRecord.encode) = some parts.headers :=
    readHeaders?_encode readable.bounds _
  have oneDisk : parts.endRecord.disk = parts.endRecord.directoryDisk := rfl
  simp only [Zip.candidate?, ending, record, shift?_encode, directory, headers, if_pos oneDisk,
    Option.bind_eq_bind, Option.bind_some]
  rfl

/-- A written file is read by its own end record. -/
theorem Readable.contents? (readable : parts.Readable) :
    Zip.contents? parts.encode = some (parts.endRecord, ⟨0, parts.headers⟩) := by
  -- The entries may hold the signature, but the end record's own is the last.
  obtain ⟨earlier, positions⟩ := Bytes.occurrences_append EndRecord.signature
    (parts.entries ++ parts.directory) parts.endRecord.encode 0
  rw [EndRecord.occurrences_encode readable.single, List.length_append, Nat.zero_add] at positions
  rw [Zip.contents?, encode, ← List.append_assoc, positions, List.append_assoc, ← encode,
    List.reverse_append, List.reverse_singleton, List.singleton_append, List.findSome?_cons,
    readable.candidate?]

end Export

end Zip

end TestDaemon
