import TestDaemon.Proofs.Runs
import TestDaemon.Proofs.Utf8
import TestDaemon.Proofs.ZipDirectory
import Mathlib.Data.List.Infix

/-! # Export and import of archives

What is written for a file leads back to its path and data, whatever stands around it, and the files of an
archive are laid out one behind the other. So an exported archive is imported again, up to the permissions
of its files: they become those of regular files, and stay so from then on. A file of 4 GiB or more is refused
by the writer even where its deflated data would be short.
-/

namespace TestDaemon

/-! ## Names -/

theorem Cp437.decode_encode {path : String} (ascii : path.toList.all (·.toNat < 128) = true) :
    Cp437.decode (Utf8.encode path) = path := by
  have chars (text : List Char) (ascii : ∀ c ∈ text, c.toNat < 128) :
      (Utf8.encodeChars text).map decodeByte = text := by
    induction text with
    | nil => rfl
    | cons c text ih =>
      have small : c.toNat < 128 := ascii c (List.mem_cons_self ..)
      have octet : String.utf8EncodeChar c = [UInt8.ofNat c.toNat] := by
        rw [String.utf8EncodeChar]
        exact if_pos (by rw [Char.toNat] at small; omega)
      have value : (UInt8.ofNat c.toNat).toNat = c.toNat := by
        rw [UInt8.toNat_ofNat', Nat.mod_eq_of_lt (by omega)]
      have low : UInt8.ofNat c.toNat < 128 := by
        rw [UInt8.lt_iff_toNat_lt, value]
        exact small
      have back : decodeByte (UInt8.ofNat c.toNat) = c := by
        rw [decodeByte, if_pos low, value, Char.ofNat_toNat]
      rw [Utf8.encodeChars_cons, octet, List.map_append,
        ih fun other member => ascii other (List.mem_cons_of_mem _ member)]
      exact congrArg (· :: text) back
  have same := chars path.toList (by simpa using ascii)
  rw [decode, Utf8.encode, same, String.ofList_toList]

namespace Zip

/-- A name is read as it was written. -/
theorem path_headerOf (path : String) (file : ArchiveFile) (compressed : Bytes) (offset : Nat) :
    (headerOf path file compressed offset).path = path := by
  rw [Header.path, Header.decodeText, headerOf, flagsOf]
  by_cases ascii : path.toList.all (·.toNat < 128) = true
  · simp only [if_pos ascii]
    exact Cp437.decode_encode ascii
  · simp only [if_neg ascii]
    exact Utf8.decodeLossy_encode path

/-! ## Permissions -/

/-- The permissions of an imported file: those of a regular file. -/
def importedMode : Option UInt32 → UInt32
  | some mode => 0o100000 ||| (mode &&& 0o777)
  | none => 0o100644

theorem importedMode_eq (mode : Option UInt32) :
    importedMode mode = (mode.getD 0o644 &&& 0o777) ||| 0o100000 := by
  cases mode with
  | none => rfl
  | some mode => exact UInt32.or_comm ..

theorem attributesOf_eq (mode : Option UInt32) :
    attributesOf mode = (importedMode mode).toNat * 0x10000 := by
  rw [importedMode_eq, attributesOf]

theorem importedMode_bounds (mode : Option UInt32) :
    0o100000 ≤ (importedMode mode).toNat ∧ (importedMode mode).toNat < 2 ^ 16 := by
  rw [importedMode_eq, UInt32.toNat_or, UInt32.toNat_and]
  refine ⟨Nat.right_le_or, Nat.or_lt_two_pow ?_ (by decide)⟩
  exact Nat.and_lt_two_pow _ (by decide)

theorem mode_headerOf (path : String) (file : ArchiveFile) (compressed : Bytes) (offset : Nat) :
    (headerOf path file compressed offset).mode = some (importedMode file.mode) := by
  obtain ⟨positive, _⟩ := importedMode_bounds file.mode
  have attributes : (headerOf path file compressed offset).attributes =
      (importedMode file.mode).toNat * 0x10000 := attributesOf_eq file.mode
  have unix : (headerOf path file compressed offset).system = 3 := rfl
  rw [Header.mode, attributes, if_neg (by omega), if_pos unix, Nat.mul_div_cancel _ (by decide),
    UInt32.ofNat_toNat]

/-- Imported permissions are exported as they are. -/
theorem importedMode_importedMode (mode : Option UInt32) :
    importedMode (some (importedMode mode)) = importedMode mode := by
  have masked (bits : UInt32) :
      ((bits &&& 0o777) ||| 0o100000) &&& 0o777 ||| 0o100000 = (bits &&& 0o777) ||| 0o100000 := by
    have disjoint : UInt32.toNat 0o100000 &&& UInt32.toNat 0o777 = 0 := by decide
    apply UInt32.toNat_inj.mp
    simp only [UInt32.toNat_or, UInt32.toNat_and, Nat.and_or_distrib_right, Nat.and_assoc, Nat.and_self,
      disjoint, Nat.or_zero]
  simp only [importedMode_eq, Option.getD_some, masked]

/-! ## Entries -/

/-- Whether the entry of a file can be exported under a path. -/
structure ExportablePath (path : String) : Prop where
  short : (Utf8.encode path).length ≤ 65535
  noNul : '\x00' ∉ path.toList
  relative : Path.isAbsolute path = false
  below : Path.staysBelow 0 (Path.components path) = true
  notDirectory : Path.isDirectory path = false

instance (path : String) : Decidable (ExportablePath path) :=
  decidable_of_iff ((Utf8.encode path).length ≤ 65535 ∧ '\x00' ∉ path.toList ∧
      Path.isAbsolute path = false ∧ Path.staysBelow 0 (Path.components path) = true ∧
      Path.isDirectory path = false)
    ⟨fun ⟨short, noNul, relative, below, notDirectory⟩ => ⟨short, noNul, relative, below, notDirectory⟩,
      fun ⟨short, noNul, relative, below, notDirectory⟩ => ⟨short, noNul, relative, below, notDirectory⟩⟩

theorem ExportablePath.enclosed {path : String} (exportable : ExportablePath path) :
    Path.isEnclosed path = true := by
  have clear : path.toList.contains '\x00' = false := by simpa using exportable.noNul
  rw [Path.isEnclosed, clear, exportable.below]
  rfl

theorem headerOf_inBounds {path : String} {file : ArchiveFile} {compressed : Bytes} {offset : Nat}
    (short : (Utf8.encode path).length ≤ 65535) (small : file.data.length < UInt32.size)
    (placed : offset + compressed.length < UInt32.size) :
    (headerOf path file compressed offset).InBounds where
  system := show 3 < Bytes.capacity 1 by decide
  flags := by
    simp only [headerOf, flagsOf]
    split <;> decide
  method := show 8 < Bytes.capacity 2 by decide
  crc := UInt32.toNat_lt _
  compressedSize := Nat.lt_of_le_of_lt (Nat.le_add_left ..) placed
  size := small
  attributes := by
    have below := (importedMode_bounds file.mode).2
    have capacity : Bytes.capacity 4 = 2 ^ 16 * 0x10000 := rfl
    simp only [headerOf, attributesOf_eq, capacity]
    omega
  offset := Nat.lt_of_le_of_lt (Nat.le_add_right ..) placed
  name := Nat.lt_succ_of_le short
  unsealed := rfl
  ordinary := show 8 ≠ Header.aesMethod by decide

section

variable {path : String} {file : ArchiveFile} {compressed : Bytes}

/-- The octets of an entry are found behind its local header. -/
theorem stored?_headerOf (front back : Bytes)
    (bounds : (headerOf path file compressed front.length).InBounds) :
    (headerOf path file compressed front.length).stored?
        (front ++ ((headerOf path file compressed front.length).encodeLocal ++ compressed ++ back)) 0 =
      some compressed := by
  have plain : (headerOf path file compressed front.length).isEncrypted = false := by
    simp only [Header.isEncrypted, headerOf, flagsOf]
    split <;> decide
  have readable : ((headerOf path file compressed front.length).isEncrypted ||
      (headerOf path file compressed front.length).isSealed ||
      !Header.knownMethods.contains (headerOf path file compressed front.length).method) = false := by
    rw [plain]
    rfl
  have begins : (headerOf path file compressed front.length).offset + 0 = front.length := rfl
  have length := Header.localLength?_encodeLocal bounds (compressed ++ back)
  have size : (headerOf path file compressed front.length).compressedSize = compressed.length := rfl
  generalize headerOf path file compressed front.length = header at readable begins length size ⊢
  simp only [Header.stored?, begins, List.append_assoc, List.drop_left, length, Option.bind_eq_bind,
    Option.bind_some, readable, Bool.false_eq_true, if_false, ← List.drop_drop, size, List.take_left]

theorem restore?_headerOf (offset : Nat) (restores : Deflate.decode? compressed = some file.data) :
    (headerOf path file compressed offset).restore? compressed = some file.data := by
  have method : (headerOf path file compressed offset).method = 8 := rfl
  have checked : (Crc32.checksum file.data).toNat = (headerOf path file compressed offset).crc := rfl
  simp only [Header.restore?, method, restores, Option.bind_eq_bind, Option.bind_some, if_pos checked]

/-- An entry adds its file. -/
theorem addTo_headerOf (front back : Bytes) (exportable : ExportablePath path)
    (bounds : (headerOf path file compressed front.length).InBounds)
    (restores : Deflate.decode? compressed = some file.data) (archive : Archive) :
    (headerOf path file compressed front.length).addTo
        (front ++ ((headerOf path file compressed front.length).encodeLocal ++ compressed ++ back)) 0
        archive =
      .ok (archive.insert path file.data (some (importedMode file.mode))) := by
  simp only [Header.addTo, stored?_headerOf front back bounds, path_headerOf, exportable.notDirectory,
    exportable.enclosed, restore?_headerOf front.length restores, mode_headerOf, Bool.not_true,
    Bool.false_eq_true, if_false]

end

/-! ## Files in a row -/

section

variable {compress : Bytes → Bytes}

theorem layOut_cons (offset : Nat) (path : String) (file : ArchiveFile)
    (files : List (String × ArchiveFile)) :
    layOut compress offset ((path, file) :: files) =
      let header := headerOf path file (compress file.data) offset
      let entry := header.encodeLocal ++ compress file.data
      let rest := layOut compress (offset + entry.length) files
      (entry ++ rest.1, header :: rest.2) := rfl

/-- Every header is that of a file, and its entry stands among the others. -/
theorem mem_layOut {offset : Nat} {files : List (String × ArchiveFile)} {header : Header}
    (member : header ∈ (layOut compress offset files).2) :
    ∃ path file start, (path, file) ∈ files ∧ header = headerOf path file (compress file.data) start ∧
      start + (compress file.data).length ≤ offset + (layOut compress offset files).1.length := by
  induction files generalizing offset with
  | nil => simp [layOut] at member
  | cons pair files ih =>
    obtain ⟨path, file⟩ := pair
    rw [layOut_cons] at member ⊢
    simp only [List.length_append] at member ⊢
    rcases List.mem_cons.mp member with rfl | later
    · exact ⟨path, file, offset, List.mem_cons_self .., rfl, by omega⟩
    · obtain ⟨other, contents, start, inFiles, same, within⟩ := ih later
      exact ⟨other, contents, start, List.mem_cons_of_mem _ inFiles, same, by omega⟩

theorem map_path_layOut (offset : Nat) (files : List (String × ArchiveFile)) :
    (layOut compress offset files).2.map Header.path = files.map (·.1) := by
  induction files generalizing offset with
  | nil => rfl
  | cons pair files ih =>
    obtain ⟨path, file⟩ := pair
    simp only [layOut_cons, List.map_cons, path_headerOf, ih]

/-- The headers add the files in their order. The front is what has been read before. -/
theorem foldlM_layOut {files : List (String × ArchiveFile)}
    (restores : ∀ pair ∈ files, Deflate.decode? (compress pair.2.data) = some pair.2.data)
    (exportable : ∀ pair ∈ files, ExportablePath pair.1)
    (front back : Bytes) (bounds : ∀ header ∈ (layOut compress front.length files).2, header.InBounds)
    (archive : Archive) :
    (layOut compress front.length files).2.foldlM
        (Header.addTo (front ++ ((layOut compress front.length files).1 ++ back)) 0) archive =
      .ok (files.foldl
        (fun archive pair => archive.insert pair.1 pair.2.data (some (importedMode pair.2.mode))) archive) := by
  -- Each entry joins the front once it is read, so that the offsets of the others stay right.
  induction files generalizing front archive with
  | nil => rfl
  | cons pair files ih =>
    obtain ⟨path, file⟩ := pair
    rw [layOut_cons] at bounds ⊢
    dsimp only at bounds ⊢
    obtain ⟨entry, written⟩ : ∃ entry, entry = (headerOf path file (compress file.data)
      front.length).encodeLocal ++ compress file.data := ⟨_, rfl⟩
    have first := addTo_headerOf front ((layOut compress (front.length + entry.length) files).1 ++ back)
      (exportable _ (List.mem_cons_self ..)) (bounds _ (List.mem_cons_self ..))
      (restores _ (List.mem_cons_self ..)) archive
    rw [← written] at bounds first ⊢
    have rest := ih (fun other member => restores other (List.mem_cons_of_mem _ member))
      (fun other member => exportable other (List.mem_cons_of_mem _ member)) (front ++ entry)
    rw [List.length_append] at rest
    have others := rest (fun header member => bounds header (List.mem_cons_of_mem _ member))
      (archive.insert path file.data (some (importedMode file.mode)))
    rw [List.append_assoc] at others
    rw [List.foldlM_cons, List.append_assoc, first]
    exact others

end

/-! ## Different paths -/

theorem replaceOrAppend_end {header : Header} {kept : List Header}
    (fresh : header.path ∉ kept.map Header.path) : replaceOrAppend header kept = kept ++ [header] := by
  induction kept with
  | nil => rfl
  | cons first kept ih =>
    obtain ⟨different, later⟩ := not_or.mp (fun either => fresh (List.mem_cons.mpr either))
    rw [replaceOrAppend, if_neg (Ne.symm different), ih later]
    rfl

theorem foldl_replaceOrAppend {headers kept : List Header}
    (different : ((kept ++ headers).map Header.path).Nodup) :
    headers.foldl (fun kept header => replaceOrAppend header kept) kept = kept ++ headers := by
  induction headers generalizing kept with
  | nil => simp
  | cons header headers ih =>
    have fresh : header.path ∉ kept.map Header.path := by
      rw [List.map_append, List.nodup_append] at different
      intro before
      exact different.2.2 _ before _ (List.mem_cons_self ..) rfl
    have whole : kept ++ header :: headers = kept ++ [header] ++ headers := by simp
    rw [whole] at different ⊢
    rw [List.foldl_cons, replaceOrAppend_end fresh, ih different]

theorem distinct_eq {headers : List Header} (different : (headers.map Header.path).Nodup) :
    distinct headers = headers :=
  foldl_replaceOrAppend different

/-! ## Archives -/

/-- The archive as it is after an export and an import. -/
def imported (archive : Archive) : Archive :=
  ⟨archive.name, archive.files.map fun file => ⟨file.data, some (importedMode file.mode)⟩⟩

/-- Files that are added in a row to an archive. -/
theorem foldl_insert_files (name : String) (files : List (String × ArchiveFile))
    (kept : Dictionary ArchiveFile) :
    files.foldl (fun archive pair => archive.insert pair.1 pair.2.data (some (importedMode pair.2.mode)))
        (⟨name, kept⟩ : Archive) =
      ⟨name, (files.map fun pair =>
        (pair.1, (⟨pair.2.data, some (importedMode pair.2.mode)⟩ : ArchiveFile))).foldl
          (fun kept pair => kept.insert pair.1 pair.2) kept⟩ := by
  induction files generalizing kept with
  | nil => rfl
  | cons pair files ih => exact ih _

/-- The files of an archive, added in their order to an empty one. -/
theorem foldl_insert_imported (archive : Archive) :
    archive.files.toList.foldl
        (fun archive pair => archive.insert pair.1 pair.2.data (some (importedMode pair.2.mode)))
        (.new archive.name) = imported archive :=
  (foldl_insert_files archive.name archive.files.toList .empty).trans
    (congrArg (Archive.mk archive.name) (Dictionary.ofPairs_toList (imported archive).files))

/-- What a method of deflation does for an archive: it keeps the data of every file. -/
def Restores (compress : Bytes → Bytes) (archive : Archive) : Prop :=
  ∀ pair ∈ archive.files.toList, Deflate.decode? (compress pair.2.data) = some pair.2.data

theorem restores_encode (archive : Archive) : Restores Deflate.encode archive :=
  fun pair _ => Deflate.decode?_encode pair.2.data

/-- No file of an archive is too large for the field of its size. -/
def SmallFiles (archive : Archive) : Prop :=
  ∀ pair ∈ archive.files.toList, pair.2.data.length < UInt32.size

instance (archive : Archive) : Decidable (SmallFiles archive) := inferInstanceAs (Decidable (∀ _ ∈ _, _))

/-- Whether an archive can be exported and imported, if its files are small. -/
structure Exportable (compress : Bytes → Bytes) (archive : Archive) : Prop where
  trimmed : Text.trim archive.name = archive.name
  named : archive.name ≠ ""
  shortName : (Utf8.encode archive.name).length ≤ 65535
  fewFiles : archive.size < 65535
  paths : ∀ path ∈ archive.paths, ExportablePath path
  small : (Export.ofArchive compress archive).encode.length < UInt32.size
  single : ¬ EndRecord.signature <:+: (Export.ofArchive compress archive).endRecord.encode.drop 4

instance (compress : Bytes → Bytes) (archive : Archive) : Decidable (Exportable compress archive) :=
  decidable_of_iff (Text.trim archive.name = archive.name ∧ archive.name ≠ "" ∧
      (Utf8.encode archive.name).length ≤ 65535 ∧ archive.size < 65535 ∧
      (∀ path ∈ archive.paths, ExportablePath path) ∧
      (Export.ofArchive compress archive).encode.length < UInt32.size ∧
      ¬ EndRecord.signature <:+: (Export.ofArchive compress archive).endRecord.encode.drop 4)
    ⟨fun ⟨trimmed, named, shortName, fewFiles, paths, small, single⟩ =>
        ⟨trimmed, named, shortName, fewFiles, paths, small, single⟩,
      fun ⟨trimmed, named, shortName, fewFiles, paths, small, single⟩ =>
        ⟨trimmed, named, shortName, fewFiles, paths, small, single⟩⟩

theorem paths_ofArchive (compress : Bytes → Bytes) (archive : Archive) :
    (Export.ofArchive compress archive).headers.map Header.path = archive.paths :=
  map_path_layOut 0 archive.files.toList

namespace Exportable

variable {compress : Bytes → Bytes} {archive : Archive}

theorem readable (exportable : Exportable compress archive) (small : SmallFiles archive) :
    (Export.ofArchive compress archive).Readable := by
  have within : (layOut compress 0 archive.files.toList).1.length +
      (Export.ofArchive compress archive).directory.length < UInt32.size := by
    have small := exportable.small
    rw [Export.encode, List.length_append, List.length_append] at small
    have entries : (Export.ofArchive compress archive).entries =
        (layOut compress 0 archive.files.toList).1 := rfl
    rw [entries] at small
    omega
  have bounds : ∀ header ∈ (Export.ofArchive compress archive).headers,
      header.InBounds ∧ header.name.length ≤ 65535 := by
    intro header member
    obtain ⟨path, file, start, inFiles, rfl, placed⟩ := mem_layOut member
    have short := (exportable.paths path (List.mem_map.mpr ⟨_, inFiles, rfl⟩)).short
    exact ⟨headerOf_inBounds short (small _ inFiles) (by omega), short⟩
  have count : (Export.ofArchive compress archive).headers.length = archive.size := by
    have lengths := congrArg List.length (paths_ofArchive compress archive)
    rwa [List.length_map, Archive.paths, Dictionary.keys, List.length_map] at lengths
  exact
    { fits := ⟨count ▸ exportable.fewFiles, exportable.shortName, fun header member =>
        (bounds header member).2, within⟩
      bounds := fun header member => (bounds header member).1
      single := exportable.single }

theorem encodeWith (exportable : Exportable compress archive) (small : SmallFiles archive) :
    Zip.encodeWith compress archive = .ok (Export.ofArchive compress archive).encode := by
  have allSmall : archive.files.toList.find? (fun pair => isOversized pair.2) = none := by
    refine List.find?_eq_none.mpr fun pair member => ?_
    simpa [isOversized] using small pair member
  simp only [Zip.encodeWith, allSmall, if_pos (exportable.readable small).fits]

/-- An exported archive is imported again. -/
theorem decode_encode (exportable : Exportable compress archive) (small : SmallFiles archive)
    (restores : Restores compress archive) (entropy : Nat) :
    decode entropy (Export.ofArchive compress archive).encode = .ok (imported archive) := by
  have declared : declaredName (Utf8.encode archive.name) = archive.name := by
    rw [declaredName, Utf8.decodeLossy_encode, exportable.trimmed]
  have comment : (Export.ofArchive compress archive).endRecord.comment = Utf8.encode archive.name := rfl
  have different : ((Export.ofArchive compress archive).headers.map Header.path).Nodup := by
    rw [paths_ofArchive]
    exact archive.files.keys_sorted.imp String.ne_of_lt
  have added := foldlM_layOut restores
    (fun pair member => exportable.paths pair.1 (List.mem_map.mpr ⟨pair, member, rfl⟩)) []
    ((Export.ofArchive compress archive).directory ++ (Export.ofArchive compress archive).endRecord.encode)
    (exportable.readable small).bounds (.new archive.name)
  rw [foldl_insert_imported] at added
  simp only [decode, (exportable.readable small).contents?, comment, declared, if_neg exportable.named,
    distinct_eq different]
  exact added

end Exportable

/-! ## Exports of what has been imported -/

theorem headerOf_imported (path : String) (file : ArchiveFile) (compressed : Bytes) (offset : Nat) :
    headerOf path ⟨file.data, some (importedMode file.mode)⟩ compressed offset =
      headerOf path file compressed offset := by
  simp only [headerOf, attributesOf_eq, importedMode_importedMode]

theorem layOut_imported (compress : Bytes → Bytes) (offset : Nat) (files : List (String × ArchiveFile)) :
    layOut compress offset (files.map fun pair =>
        (pair.1, ⟨pair.2.data, some (importedMode pair.2.mode)⟩)) = layOut compress offset files := by
  induction files generalizing offset with
  | nil => rfl
  | cons pair files ih =>
    obtain ⟨path, file⟩ := pair
    simp only [List.map_cons, layOut_cons, headerOf_imported, ih]

/-- What is written for an archive does not depend on what an import changes. -/
theorem encodeWith_imported (compress : Bytes → Bytes) (archive : Archive) :
    encodeWith compress (imported archive) = encodeWith compress archive := by
  have parts : Export.ofArchive compress (imported archive) = Export.ofArchive compress archive :=
    congrArg (fun laidOut => (⟨laidOut.1, laidOut.2, Utf8.encode archive.name⟩ : Export))
      (layOut_imported compress 0 archive.files.toList)
  have oversized : (imported archive).files.toList.find? (fun pair => isOversized pair.2) =
      (archive.files.toList.find? fun pair => isOversized pair.2).map fun pair =>
        (pair.1, ⟨pair.2.data, some (importedMode pair.2.mode)⟩) := List.find?_map ..
  simp only [encodeWith, oversized, parts]
  cases archive.files.toList.find? fun pair => isOversized pair.2 <;> rfl

/-! ## Large files -/

/-- The first file that is too large ends an export, whatever its deflated data are. -/
theorem encodeWith_of_oversized {archive : Archive} {path : String} {file : ArchiveFile}
    (first : archive.files.toList.find? (fun pair => isOversized pair.2) = some (path, file))
    (compress : Bytes → Bytes) : encodeWith compress archive = .error (.oversizedEntry path) := by
  rw [encodeWith, first]

theorem smallFiles_of_encodeWith {compress : Bytes → Bytes} {archive : Archive} {bytes : Bytes}
    (encoded : encodeWith compress archive = .ok bytes) : SmallFiles archive := by
  intro pair member
  by_contra large
  have oversized : (archive.files.toList.find? fun pair => isOversized pair.2).isSome :=
    List.find?_isSome.mpr ⟨pair, member, by simpa [isOversized] using large⟩
  obtain ⟨⟨path, file⟩, first⟩ := Option.isSome_iff_exists.mp oversized
  cases (encodeWith_of_oversized first compress).symm.trans encoded

/-- The archive `a` with a file `z`. -/
def singleFile (data : Bytes) : Archive := (Archive.new "a").insertFile "z" data

theorem files_singleFile (data : Bytes) : (singleFile data).files.toList = [("z", ⟨data, none⟩)] := rfl

section

variable (compress : Bytes → Bytes) (data : Bytes)

theorem ofArchive_singleFile :
    Export.ofArchive compress (singleFile data) =
      let header := headerOf "z" ⟨data, none⟩ (compress data) 0
      ⟨header.encodeLocal ++ compress data, [header], [0x61]⟩ := by
  have name : (singleFile data).name = "a" := rfl
  have comment : Utf8.encode "a" = [0x61] := by decide +kernel
  rw [Export.ofArchive, files_singleFile, layOut_cons, name, comment]
  simp only [layOut, List.append_nil]

theorem entries_singleFile :
    (Export.ofArchive compress (singleFile data)).entries.length = 31 + (compress data).length := by
  have name : (headerOf "z" ⟨data, none⟩ (compress data) 0).name.length = 1 := rfl
  rw [ofArchive_singleFile, List.length_append, Header.encodeLocal_length, name]

theorem directory_singleFile : (Export.ofArchive compress (singleFile data)).directory.length = 47 := by
  have name : (headerOf "z" ⟨data, none⟩ (compress data) 0).name.length = 1 := rfl
  rw [ofArchive_singleFile, Export.directory, List.flatMap_singleton, Header.encode_length, name]

theorem endRecord_singleFile :
    (Export.ofArchive compress (singleFile data)).endRecord =
      ⟨0, 0, 1, 1, 47, 31 + (compress data).length, [0x61]⟩ := by
  rw [Export.endRecord, entries_singleFile, directory_singleFile, ofArchive_singleFile]
  rfl

end

/-- A file of 4 GiB of zeros is deflated to 26 MiB, and yet not exported. -/
theorem singleFile_zeros :
    let archive := singleFile (List.replicate UInt32.size 0)
    Restores Deflate.encodeZeros archive ∧ Exportable Deflate.encodeZeros archive ∧
      ∀ compress, encodeWith compress archive = .error (.oversizedEntry "z") := by
  intro archive
  have length : (Deflate.encodeZeros (List.replicate UInt32.size 0)).length = 27051653 :=
    Deflate.length_encodeZeros (by decide)
  have finish := endRecord_singleFile Deflate.encodeZeros (List.replicate UInt32.size 0)
  rw [length] at finish
  have oversized : isOversized ⟨List.replicate UInt32.size 0, none⟩ = true := by
    rw [isOversized, List.length_replicate]
    decide
  have first : archive.files.toList.find? (fun pair => isOversized pair.2) =
      some ("z", ⟨List.replicate UInt32.size 0, none⟩) := by
    rw [files_singleFile]
    exact List.find?_cons_of_pos oversized
  refine ⟨fun pair _ => Deflate.decode?_encodeZeros pair.2.data, ?_, encodeWith_of_oversized first⟩
  exact
    { trimmed := by decide +kernel
      named := by decide
      shortName := by decide +kernel
      fewFiles := by decide
      paths := by decide +kernel
      small := by
        rw [Export.encode, List.length_append, List.length_append, entries_singleFile, directory_singleFile,
          finish, length]
        decide +kernel
      single := by
        rw [finish]
        decide +kernel }

/-! ## Round trips -/

/-- An archive is exported, and imported again under its name, with the same data under the same paths and the
permissions of regular files. Nothing changes from then on. -/
def RoundTrips (compress : Bytes → Bytes) (archive : Archive) : Prop :=
  ∃ bytes restored, encodeWith compress archive = .ok bytes ∧
    (∀ entropy, decode entropy bytes = .ok restored) ∧
    restored.name = archive.name ∧ restored.paths = archive.paths ∧
    (∀ path, restored.get? path =
      (archive.get? path).map fun file => ⟨file.data, some (importedMode file.mode)⟩) ∧
    encodeWith compress restored = .ok bytes

/-- An archive that can be exported but for its sizes is exported and imported again without a loss exactly if
its files are small, by whatever method its data are deflated. -/
theorem encodeWith_roundTrip (compress : Bytes → Bytes) (archive : Archive)
    (restores : Restores compress archive) (exportable : Exportable compress archive) :
    RoundTrips compress archive ↔ SmallFiles archive := by
  constructor
  · rintro ⟨bytes, restored, encoded, -⟩
    exact smallFiles_of_encodeWith encoded
  · intro small
    have encoded := exportable.encodeWith small
    exact ⟨_, imported archive, encoded, exportable.decode_encode small restores, rfl,
      Dictionary.keys_map _ archive.files, Dictionary.get?_map _ archive.files,
      (encodeWith_imported compress archive).trans encoded⟩

theorem encodeWith_roundTrip_suite :
    let archive := ((Archive.new "süite").insertFile "data" []).insert "bin/ü" [0x50, 0x4B, 0x05] (some 0o4755)
    Exportable Deflate.encode archive ∧ SmallFiles archive ∧
      ∃ bytes restored, encode archive = .ok bytes ∧ decode 0 bytes = .ok restored ∧
        restored.get? "data" = some ⟨[], some 0o100644⟩ ∧
        restored.get? "bin/ü" = some ⟨[0x50, 0x4B, 0x05], some 0o100755⟩ := by
  intro archive
  have exportable : Exportable Deflate.encode archive := by decide +kernel
  have small : SmallFiles archive := by decide +kernel
  obtain ⟨bytes, restored, encoded, decoded, -, -, files, -⟩ :=
    (encodeWith_roundTrip Deflate.encode archive (restores_encode archive) exportable).mpr small
  refine ⟨exportable, small, bytes, restored, encoded, decoded 0, ?_, ?_⟩
  · rw [files]
    decide +kernel
  · rw [files]
    decide +kernel

/-- A bound on the export alone does not make an archive exportable. -/
theorem not_roundTrips_large : ¬ ∀ (compress : Bytes → Bytes) (archive : Archive),
    Restores compress archive → Exportable compress archive → RoundTrips compress archive := by
  intro exports
  obtain ⟨restores, exportable, refused⟩ := singleFile_zeros
  obtain ⟨bytes, -, encoded, -⟩ := exports _ _ restores exportable
  cases (refused _).symm.trans encoded

end Zip

end TestDaemon
