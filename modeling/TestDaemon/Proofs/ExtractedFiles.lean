import TestDaemon.Proofs.Extraction
import TestDaemon.Proofs.Utf8Order
import Mathlib.Data.Finset.Max

/-! # The files of an extracted archive

Several paths can lead to one place: they differ in empty components and in those that mean the directory
itself. The files are written in the order of their paths, so the last one of them is left there. An archive
in which a file stands on the way to another one is never extracted.
-/

namespace TestDaemon

/-! ## Normalized paths -/

namespace Path

/-- The names on a path, without those that are empty or mean the directory itself. -/
def normalized (path : String) : TreePath :=
  ((segmentsFrom [] path.toList).map String.ofList).filter fun name => name ≠ "" ∧ name ≠ "."

theorem ofSegment?_eq_none_iff {segment : List Char} :
    ofSegment? segment = none ↔ String.ofList segment = "" ∨ String.ofList segment = "." := by
  rw [← String.toList_inj, ← String.toList_inj, String.toList_ofList, ofSegment?]
  split
  · next means => exact iff_of_true rfl means
  · next shown => split <;> exact iff_of_false (by simp) shown

theorem of_ofSegment?_normal {segment : List Char} {name : String}
    (means : ofSegment? segment = some (.normal name)) : String.ofList segment = name := by
  rw [ofSegment?] at means
  split at means
  · contradiction
  · split at means
    · cases means
    · exact Component.normal.inj (Option.some.inj means)

theorem filter_of_filterMap {segments : List (List Char)} {names : TreePath}
    (parts : segments.filterMap ofSegment? = names.map .normal) :
    (segments.map String.ofList).filter (fun name => name ≠ "" ∧ name ≠ ".") = names := by
  induction segments generalizing names with
  | nil => exact (List.map_eq_nil_iff.mp parts.symm).symm
  | cons segment segments ih =>
    rw [List.map_cons, List.filter_cons]
    rw [List.filterMap_cons] at parts
    cases means : ofSegment? segment with
    | none =>
      rw [means] at parts
      have skipped := ofSegment?_eq_none_iff.mp means
      rw [if_neg (by simpa [or_iff_not_imp_left] using skipped), ih parts]
    | some part =>
      rw [means] at parts
      obtain ⟨name, rest, rfl, first, others⟩ := List.map_eq_cons_iff.mp parts.symm
      subst first
      have shown := mt ofSegment?_eq_none_iff.mpr (by rw [means]; exact Option.some_ne_none _)
      rw [if_pos (by simpa using shown), ih others.symm, of_ofSegment?_normal means]

theorem normalized_of_components {path : String} {names : TreePath}
    (parts : components path = names.map .normal) : normalized path = names := by
  rw [components] at parts
  split at parts
  · cases names <;> simp at parts
  · exact filter_of_filterMap parts

end Path

namespace Archive

variable {archive : Archive} {path : String} {names : TreePath}

/-- A file is written where its normalized path leads. -/
theorem normalized_of_target (targeted : target path = .ok names) : Path.normalized path = names :=
  Path.normalized_of_components (target_eq_ok_iff.mp targeted).2

/-! ## The last file of a place -/

/-- A file whose path is the greatest one, in the order of octets, of those that lead to a place. -/
structure Prevails (archive : Archive) (place : TreePath) (path : String) (file : ArchiveFile) : Prop where
  present : archive.get? path = some file
  leads : Path.normalized path = place
  greatest : ∀ other ∈ archive.paths, Path.normalized other = place → Utf8.encode other ≤ Utf8.encode path

theorem get?_of_mem_paths (member : path ∈ archive.paths) : ∃ file, archive.get? path = some file :=
  Option.isSome_iff_exists.mp (Dictionary.mem_keys_iff.mp member)

theorem mem_paths_of_get? {file : ArchiveFile} (present : archive.get? path = some file) :
    path ∈ archive.paths := by
  rw [paths, Dictionary.mem_keys_iff, Dictionary.contains]
  exact Option.isSome_iff_exists.mpr ⟨file, present⟩

theorem exists_prevails (member : path ∈ archive.paths) :
    ∃ last file, archive.Prevails (Path.normalized path) last file := by
  let candidates := archive.paths.filter fun other => Path.normalized other = Path.normalized path
  have nonempty : candidates.toFinset.Nonempty := ⟨path, by simp [candidates, member]⟩
  obtain ⟨last, inCandidates, greatest⟩ := Finset.exists_max_image candidates.toFinset (fun other => other)
    nonempty
  simp only [candidates, List.mem_toFinset, List.mem_filter, decide_eq_true_eq] at inCandidates greatest
  obtain ⟨file, present⟩ := get?_of_mem_paths inCandidates.1
  exact ⟨last, file, present, inCandidates.2, fun other member leads =>
    Utf8.encode_le_encode_iff.mpr (greatest other ⟨member, leads⟩)⟩

end Archive

/-! ## Files in directories -/

namespace FileTree

variable {tree : FileTree} {place lower : TreePath}

/-- Whether there is a regular file at a place. -/
def IsFile (tree : FileTree) (place : TreePath) : Prop :=
  ∃ data mode, tree.get? place = some (.file data mode)

theorem not_isFile_empty {rootLength : Nat} : ¬ (empty rootLength).IsFile place := by
  rintro ⟨data, mode, there⟩
  rw [get?] at there
  split at there <;> cases there

/-- Everything above what is there is a directory. -/
theorem IsGrounded.get?_above (grounded : tree.IsGrounded) (present : tree.get? lower ≠ none)
    (leads : place <+: lower) (above : place ≠ lower) : tree.get? place = some .directory := by
  obtain ⟨rest, rfl⟩ := leads
  cases rest with
  | nil => simp at above
  | cons name rest =>
    refine grounded place name fun missing => present ?_
    have below := grounded.get?_below missing rest
    rwa [List.append_assoc] at below

end FileTree

namespace Archive

open FileTree

variable {archive : Archive} {tree after : FileTree} {rootLength : Nat} {path : String} {file : ArchiveFile}
  {place : TreePath}

/-- Every path of an extracted archive has a place. -/
theorem target_of_extract (extracted : archive.extract tree = (.ok (), after)) (grounded : tree.IsGrounded)
    (member : path ∈ archive.paths) : target path = .ok (Path.normalized path) := by
  obtain ⟨⟨path, file⟩, inFiles, rfl⟩ := List.mem_map.mp member
  obtain ⟨earlier, later, split⟩ := List.append_of_mem inFiles
  obtain ⟨names, targeted, _⟩ := holdsAll_of_extractFiles grounded extracted earlier path file later split
  rw [targeted, normalized_of_target targeted]

/-- The file that prevails is the one that is left. -/
theorem Prevails.holds (prevails : archive.Prevails place path file)
    (extracted : archive.extract tree = (.ok (), after)) (grounded : tree.IsGrounded) :
    after.Holds place file := by
  obtain ⟨earlier, later, split⟩ :=
    List.append_of_mem (Dictionary.get?_eq_some_iff.mp prevails.present)
  obtain ⟨names, targeted, held⟩ := holdsAll_of_extractFiles grounded extracted earlier path file later split
  rw [← prevails.leads, normalized_of_target targeted]
  refine held fun other inLater same => ?_
  -- The paths behind this one are greater, so none of them leads to the same place.
  have sorted := archive.files.sorted
  rw [split] at sorted
  have greater : path < other.1 :=
    (List.pairwise_cons.mp (List.pairwise_append.mp sorted).2.1).1 other inLater
  have member : other.1 ∈ archive.paths := List.mem_map_of_mem (by rw [split]; simp [inLater])
  have leads : Path.normalized other.1 = place := by
    rw [← prevails.leads, normalized_of_target same, normalized_of_target targeted]
  exact absurd (Utf8.encode_le_encode_iff.mp (prevails.greatest other.1 member leads)) (not_le.mpr greater)

/-- A file in an extracted archive was there before, or a path leads to it. -/
theorem isFile_of_extract (extracted : archive.extract tree = (.ok (), after)) (grounded : tree.IsGrounded)
    (present : after.IsFile place) :
    tree.IsFile place ∨ ∃ path ∈ archive.paths, Path.normalized path = place := by
  obtain ⟨data, mode, there⟩ := present
  have same : (extractFiles tree archive.files.toList).2 = after := congrArg Prod.snd extracted
  have changes := (extractFiles_changes grounded archive.files.toList).2 place
  rw [same, there] at changes
  rcases changes with same | ⟨⟨path, file⟩, member, names, targeted, changed⟩
  · exact .inl ⟨data, mode, same.symm⟩
  · cases changed with
    | file _ => exact .inr ⟨path, List.mem_map_of_mem member, normalized_of_target targeted⟩
    | directory _ made _ _ =>
      rw [there] at made
      cases made

/-- To each path of an extracted archive leads one that prevails and whose file is left. -/
theorem exists_held (extracted : archive.extract tree = (.ok (), after)) (grounded : tree.IsGrounded)
    (member : path ∈ archive.paths) :
    ∃ last file, archive.Prevails (Path.normalized path) last file ∧ after.Holds (Path.normalized path) file := by
  obtain ⟨last, file, prevails⟩ := exists_prevails member
  exact ⟨last, file, prevails, prevails.holds extracted grounded⟩

theorem isFile_iff_of_extract (extracted : archive.extract (.empty rootLength) = (.ok (), after)) :
    after.IsFile place ↔ ∃ path ∈ archive.paths, Path.normalized path = place := by
  constructor
  · exact fun present => (isFile_of_extract extracted (isGrounded_empty _) present).resolve_left not_isFile_empty
  · rintro ⟨path, member, rfl⟩
    obtain ⟨_, file, _, mode, there, _⟩ := exists_held extracted (isGrounded_empty _) member
    exact ⟨file.data, mode, there⟩

theorem prevails_of_extract {data : Bytes} {mode : UInt32}
    (extracted : archive.extract (.empty rootLength) = (.ok (), after))
    (there : after.get? place = some (.file data mode)) :
    ∃ path file, archive.Prevails place path file ∧ data = file.data ∧
      ∀ recorded ∈ file.mode, mode = recorded &&& 0o7777 := by
  obtain ⟨path, member, rfl⟩ := (isFile_iff_of_extract extracted).mp ⟨data, mode, there⟩
  obtain ⟨last, file, prevails, mode', there', recorded⟩ := exists_held extracted (isGrounded_empty _) member
  rw [there] at there'
  obtain ⟨rfl, rfl⟩ : data = file.data ∧ mode = mode' := by simpa using there'
  exact ⟨last, file, prevails, rfl, recorded⟩

/-- A file that shares its place with no other one is left. -/
theorem holds_of_distinct (extracted : archive.extract tree = (.ok (), after)) (grounded : tree.IsGrounded)
    (distinct : (archive.paths.map Path.normalized).Nodup) (present : archive.get? path = some file) :
    after.Holds (Path.normalized path) file := by
  have member := mem_paths_of_get? present
  obtain ⟨last, other, prevails, held⟩ := exists_held extracted grounded member
  have same : last = path :=
    List.inj_on_of_nodup_map distinct (mem_paths_of_get? prevails.present) member prevails.leads
  have contents : other = file := by
    have found := prevails.present
    rw [same, present] at found
    exact (Option.some.inj found).symm
  rwa [contents] at held

/-- No file stands on the way to another one. -/
theorem not_leads_of_extract {upper lower : String}
    (extracted : archive.extract (.empty rootLength) = (.ok (), after)) (inUpper : upper ∈ archive.paths) (inLower : lower ∈ archive.paths)
    (leads : Path.normalized upper <+: Path.normalized lower) :
    Path.normalized upper = Path.normalized lower := by
  by_contra above
  obtain ⟨data, mode, there⟩ := (isFile_iff_of_extract extracted).mpr ⟨upper, inUpper, rfl⟩
  obtain ⟨_, _, below⟩ := (isFile_iff_of_extract extracted).mpr ⟨lower, inLower, rfl⟩
  have grounded : after.IsGrounded := by
    have settled := (extractFiles_changes (isGrounded_empty rootLength) archive.files.toList).1
    rwa [show extractFiles (.empty rootLength) archive.files.toList = (.ok (), after) from extracted] at settled
  have standing := grounded.get?_above (by rw [below]; exact Option.some_ne_none _) leads above
  rw [there] at standing
  cases standing

/-- The files of an archive that has been extracted into an empty directory, wherever that is, are at the places to which its
paths lead, each with the data of the greatest path that leads there. An archive in which one file stands on
the way to another is not extracted. -/
theorem extract_files (archive : Archive) (rootLength : Nat) :
    let extracted := archive.extract (.empty rootLength)
    (extracted.1 = .ok () →
      (∀ place, extracted.2.IsFile place ↔ ∃ path ∈ archive.paths, Path.normalized path = place) ∧
      (∀ place data mode, extracted.2.get? place = some (.file data mode) →
        ∃ path file, archive.Prevails place path file ∧ data = file.data ∧
          ∀ recorded ∈ file.mode, mode = recorded &&& 0o7777) ∧
      ((archive.paths.map Path.normalized).Nodup → ∀ path file, archive.get? path = some file →
        extracted.2.Holds (Path.normalized path) file)) ∧
    ∀ upper ∈ archive.paths, ∀ lower ∈ archive.paths, Path.normalized upper <+: Path.normalized lower →
      Path.normalized upper ≠ Path.normalized lower → extracted.1 ≠ .ok () := by
  intro extracted
  have whole (succeeded : extracted.1 = .ok ()) :
      archive.extract (.empty rootLength) = (.ok (), extracted.2) := Prod.ext succeeded rfl
  refine ⟨fun succeeded => ⟨?_, ?_, ?_⟩, ?_⟩
  · exact fun place => isFile_iff_of_extract (whole succeeded)
  · exact fun place data mode => prevails_of_extract (whole succeeded)
  · exact fun distinct path file => holds_of_distinct (whole succeeded) (isGrounded_empty _) distinct
  · exact fun upper inUpper lower inLower leads above succeeded =>
      above (not_leads_of_extract (whole succeeded) inUpper inLower leads)

/-- Three paths lead to one place, and the last of them prevails. Without the other two each file has its own
place. A file on the way to another one is found when the directories for that are made. -/
theorem extract_files_collided :
    let plain := ((Archive.new "suite").insertFile "a//b" [2]).insertFile "./c" [4]
    let crowded := (plain.insertFile "a/b" [1]).insertExecutable "a/b/." [3]
    let clashing := plain.insertFile "c/d" [5]
    let extracted := crowded.extract .empty
    (plain.extract .empty).1 = .ok () ∧ (plain.paths.map Path.normalized).Nodup ∧
      (plain.extract .empty).2.Holds ["a", "b"] ⟨[2], none⟩ ∧
      extracted.1 = .ok () ∧ (∀ place, extracted.2.IsFile place ↔ place = ["a", "b"] ∨ place = ["c"]) ∧
      (∃ path file, crowded.Prevails ["a", "b"] path file ∧ [3] = file.data) ∧
      (clashing.extract .empty).1 ≠ .ok () := by
  intro plain crowded clashing extracted
  have first : (plain.extract .empty).1 = .ok () := by decide +kernel
  have second : extracted.1 = .ok () := by decide +kernel
  have distinct : (plain.paths.map Path.normalized).Nodup := by decide +kernel
  have present : plain.get? "a//b" = some ⟨[2], none⟩ := by decide +kernel
  have leads : Path.normalized "a//b" = ["a", "b"] := by decide +kernel
  have there : extracted.2.get? ["a", "b"] = some (.file [3] 0o755) := by decide +kernel
  have places : crowded.paths.map Path.normalized = [["c"], ["a", "b"], ["a", "b"], ["a", "b"]] := by
    decide +kernel
  obtain ⟨-, -, own⟩ := (extract_files plain _).1 first
  obtain ⟨isFile, prevails, -⟩ := (extract_files crowded _).1 second
  have clash := (extract_files clashing temporaryLength).2 "./c" (by decide +kernel) "c/d" (by decide +kernel)
    (by decide +kernel) (by decide +kernel)
  refine ⟨first, distinct, leads ▸ own distinct "a//b" _ present, second, fun place => ?_, ?_, clash⟩
  · rw [isFile, ← List.mem_map, places]
    simp only [List.mem_cons, List.not_mem_nil, or_false, or_self]
    exact or_comm
  · obtain ⟨path, file, prevailing, contents, -⟩ := prevails ["a", "b"] [3] 0o755 there
    exact ⟨path, file, prevailing, contents⟩

end Archive

end TestDaemon
