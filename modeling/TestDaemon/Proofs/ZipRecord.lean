import TestDaemon.Zip.Extra

/-! # Reading written records

A record whose numbers fit their fields is read back from its octets, whatever follows them. What is
written here has no extra fields, so that a header means what it says.
-/

namespace TestDaemon

namespace Bytes

theorem after?_append (head rest : Bytes) : after? head (head ++ rest) = some rest :=
  after?_eq_some_iff.mpr rfl

theorem after?_bind {α : Type} (head rest : Bytes) (next : Bytes → Option α) :
    (after? head (head ++ rest) >>= next) = next rest := by
  rw [after?_append]
  rfl

/-- A reader goes on behind a number that it meets. -/
theorem takeNat?_bind {α : Type} {width n : Nat} (bounded : n < capacity width) (rest : Bytes)
    (next : Nat × Bytes → Option α) : (takeNat? width (ofNatLE width n ++ rest) >>= next) = next (n, rest) := by
  rw [takeNat?_append bounded]
  rfl

theorem take?_bind {α : Type} (field rest : Bytes) (next : Bytes × Bytes → Option α) :
    (take? field.length (field ++ rest) >>= next) = next (field, rest) := by
  rw [take?_append]
  rfl

end Bytes

namespace Zip

/-! ## The end record -/

/-- Whether the numbers of an end record fit their fields. -/
structure EndRecord.InBounds (record : EndRecord) : Prop where
  disk : record.disk < Bytes.capacity 2
  directoryDisk : record.directoryDisk < Bytes.capacity 2
  diskEntries : record.diskEntries < Bytes.capacity 2
  entries : record.entries < Bytes.capacity 2
  directorySize : record.directorySize < Bytes.capacity 4
  directoryOffset : record.directoryOffset < Bytes.capacity 4
  comment : record.comment.length < Bytes.capacity 2

theorem EndRecord.read?_encode {record : EndRecord} (bounds : record.InBounds) (rest : Bytes) :
    read? (record.encode ++ rest) = some record := by
  simp only [encode, List.append_assoc]
  refine (Bytes.after?_bind signature _ _).trans ?_
  refine (Bytes.takeNat?_bind bounds.disk _ _).trans ?_
  refine (Bytes.takeNat?_bind bounds.directoryDisk _ _).trans ?_
  refine (Bytes.takeNat?_bind bounds.diskEntries _ _).trans ?_
  refine (Bytes.takeNat?_bind bounds.entries _ _).trans ?_
  refine (Bytes.takeNat?_bind bounds.directorySize _ _).trans ?_
  refine (Bytes.takeNat?_bind bounds.directoryOffset _ _).trans ?_
  refine (Bytes.takeNat?_bind bounds.comment _ _).trans ?_
  exact Bytes.take?_bind record.comment rest _

/-! ## Headers -/

namespace Header

/-- Whether the numbers of a header fit their fields, and its method is one without a field of its own. -/
structure InBounds (header : Header) : Prop where
  system : header.system < Bytes.capacity 1
  flags : header.flags < Bytes.capacity 2
  method : header.method < Bytes.capacity 2
  crc : header.crc < Bytes.capacity 4
  compressedSize : header.compressedSize < Bytes.capacity 4
  size : header.size < Bytes.capacity 4
  attributes : header.attributes < Bytes.capacity 4
  offset : header.offset < Bytes.capacity 4
  name : header.name.length < Bytes.capacity 2
  unsealed : header.isSealed = false
  ordinary : header.method ≠ aesMethod

variable {header : Header}

theorem read?_encode (bounds : header.InBounds) (rest : Bytes) :
    read? (header.encode ++ rest) = some (header, [], [], rest) := by
  simp only [encode, List.append_assoc]
  refine (Bytes.after?_bind signature _ _).trans ?_
  refine (Bytes.takeNat?_bind (show version < Bytes.capacity 1 by decide) _ _).trans ?_
  refine (Bytes.takeNat?_bind bounds.system _ _).trans ?_
  refine (Bytes.takeNat?_bind (show version < Bytes.capacity 2 by decide) _ _).trans ?_
  refine (Bytes.takeNat?_bind bounds.flags _ _).trans ?_
  refine (Bytes.takeNat?_bind bounds.method _ _).trans ?_
  refine (Bytes.takeNat?_bind (show 0 < Bytes.capacity 2 by decide) _ _).trans ?_
  refine (Bytes.takeNat?_bind (show date < Bytes.capacity 2 by decide) _ _).trans ?_
  refine (Bytes.takeNat?_bind bounds.crc _ _).trans ?_
  refine (Bytes.takeNat?_bind bounds.compressedSize _ _).trans ?_
  refine (Bytes.takeNat?_bind bounds.size _ _).trans ?_
  refine (Bytes.takeNat?_bind bounds.name _ _).trans ?_
  -- There is neither an area of extra fields nor a comment, and the file is on the first disk.
  refine (Bytes.takeNat?_bind (show 0 < Bytes.capacity 2 by decide) _ _).trans ?_
  refine (Bytes.takeNat?_bind (show 0 < Bytes.capacity 2 by decide) _ _).trans ?_
  refine (Bytes.takeNat?_bind (show 0 < Bytes.capacity 2 by decide) _ _).trans ?_
  refine (Bytes.takeNat?_bind (show 0 < Bytes.capacity 2 by decide) _ _).trans ?_
  refine (Bytes.takeNat?_bind bounds.attributes _ _).trans ?_
  refine (Bytes.takeNat?_bind bounds.offset _ _).trans ?_
  refine (Bytes.take?_bind header.name _ _).trans ?_
  obtain ⟨_, _, _, _, _, _, _, _, _, unsealed⟩ := header
  obtain rfl : unsealed = false := bounds.unsealed
  rfl

/-- A written header has no extra fields that would change it. -/
theorem next?_encode (bounds : header.InBounds) (rest : Bytes) :
    next? (header.encode ++ rest) = some (header, rest) := by
  have plain : header.withExtra? [] [] = some header := by
    have same : (header.method = aesMethod && !header.isSealed) = false := by simp [bounds.ordinary]
    simp only [withExtra?, ExtraField.split?, Option.bind_eq_bind, Option.bind_some, List.foldlM_nil,
      Option.pure_def, same, Bool.false_eq_true, if_false]
  simp only [next?, read?_encode bounds, plain, Option.bind_eq_bind, Option.bind_some]
  rfl

theorem encode_length (header : Header) : header.encode.length = 46 + header.name.length := by
  simp [encode, signature]
  omega

theorem encodeLocal_length (header : Header) : header.encodeLocal.length = 30 + header.name.length := by
  simp [encodeLocal, localSignature]
  omega

theorem localLength?_encodeLocal (bounds : header.InBounds) (rest : Bytes) :
    localLength? (header.encodeLocal ++ rest) = some header.encodeLocal.length := by
  rw [encodeLocal_length]
  obtain ⟨fields, length, shape⟩ : ∃ fields : Bytes, fields.length = 22 ∧
      header.encodeLocal ++ rest = localSignature ++ (fields ++ (Bytes.ofNatLE 2 header.name.length ++
        (Bytes.ofNatLE 2 0 ++ (header.name ++ rest)))) := by
    refine ⟨Bytes.ofNatLE 2 version ++ (Bytes.ofNatLE 2 header.flags ++ (Bytes.ofNatLE 2 header.method ++
      (Bytes.ofNatLE 2 0 ++ (Bytes.ofNatLE 2 date ++ (Bytes.ofNatLE 4 header.crc ++
      (Bytes.ofNatLE 4 header.compressedSize ++ Bytes.ofNatLE 4 header.size)))))), by simp, ?_⟩
    simp only [encodeLocal, List.append_assoc]
  have skipped (rest : Bytes) : Bytes.take? 22 (fields ++ rest) = some (fields, rest) := by
    rw [← length]
    exact Bytes.take?_append fields rest
  simp only [localLength?, shape, Bytes.after?_append, skipped, Option.bind_eq_bind, Option.bind_some]
  refine (Bytes.takeNat?_bind bounds.name _ _).trans ?_
  exact Bytes.takeNat?_bind (show 0 < Bytes.capacity 2 by decide) _ _

end Header

end Zip

end TestDaemon
