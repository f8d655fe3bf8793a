import TestDaemon.Proofs.Extraction
import TestDaemon.Proofs.Fallible
import TestDaemon.Zip.Writer

/-! # Which imported paths can be extracted

An import refuses a path that leads above its start anywhere on its way; an extraction refuses every path
that goes one level up, and every path that names nothing. So an archive can be imported that is never
extracted: exactly one with a path that goes up within its bounds, or that has no name.
-/

namespace TestDaemon

/-! ## What an import has checked -/

namespace Dictionary

theorem mem_keys_insert {β : Type} {dictionary : Dictionary β} {key other : String} {value : β}
    (member : other ∈ (dictionary.insert key value).keys) : other = key ∨ other ∈ dictionary.keys := by
  obtain ⟨pair, inserted, rfl⟩ := List.mem_map.mp member
  rcases fst_of_mem_insertInto inserted with same | ⟨earlier, present⟩
  · exact .inl same
  · exact .inr (List.mem_map.mpr ⟨_, present, rfl⟩)

end Dictionary

/-- Whether a path has passed the checks of an import. -/
def Path.IsImportable (path : String) : Prop := isEnclosed path = true ∧ isDirectory path = false

namespace Zip

variable {file : Bytes} {shift : Nat} {archive after : Archive}

theorem Header.paths_of_addTo {header : Header} (added : header.addTo file shift archive = .ok after)
    (checked : ∀ path ∈ archive.paths, Path.IsImportable path) :
    ∀ path ∈ after.paths, Path.IsImportable path := by
  rw [addTo] at added
  split at added
  · contradiction
  · split at added
    · rwa [← Except.ok.inj added]
    · next regular =>
      split at added
      · contradiction
      · next inside =>
        split at added
        · contradiction
        · obtain rfl := Except.ok.inj added
          intro path member
          rcases Dictionary.mem_keys_insert member with rfl | earlier
          · exact ⟨by simpa using inside, by simpa using regular⟩
          · exact checked path earlier

/-- Every path of an imported archive has been checked. -/
theorem paths_of_decode {entropy : Nat} (decoded : decode entropy file = .ok archive) :
    ∀ path ∈ archive.paths, Path.IsImportable path := by
  rw [decode] at decoded
  split at decoded
  · contradiction
  · refine keeps_of_foldlM (fun imported => ∀ path ∈ imported.paths, Path.IsImportable path) ?_ ?_ decoded
    · intro before header next checked stepped
      exact Header.paths_of_addTo stepped checked
    · simp [Archive.paths, Archive.new, Dictionary.keys, Dictionary.empty]

end Zip

/-! ## What an extraction checks -/

theorem Path.root_not_mem_of_staysBelow {depth : Nat} {parts : List Component}
    (stays : staysBelow depth parts = true) : .root ∉ parts := by
  fun_induction staysBelow depth parts with
  | case1 => simp
  | case2 | case3 => contradiction
  | case4 _ _ ih | case5 _ _ _ ih => simpa using ih stays

theorem Error.escapingEntry_ne {path other : String} : escapingEntry path ≠ emptyEntryPath other := by
  intro same
  have last := congrArg (fun error => error.detail.toList.getLast?) same
  simp [escapingEntry, emptyEntryPath, String.toList_append, List.getLast?_cons, List.getLast?_append] at last

theorem TreeAction.kind_of_refusal? {tree : FileTree} {path : TreePath} {error : Error}
    (refused : refusal? tree path = some error) :
    error.kind = .io := by
  rw [refusal?] at refused
  split at refused
  · obtain rfl := Option.some.inj refused
    rfl
  · split at refused
    · obtain rfl := Option.some.inj refused
      rfl
    · contradiction

namespace Archive

variable {tree : FileTree} {path : String} {error : Error}

theorem target_eq_escaping_iff : target path = .error (.escapingEntry path) ↔
    .root ∈ Path.components path ∨ .parent ∈ Path.components path := by
  rw [← Path.names?_eq_none_iff, target]
  rcases Path.names? (Path.components path) with _ | (_ | _) <;> simp [Error.escapingEntry_ne.symm]

theorem target_eq_empty_iff :
    target path = .error (.emptyEntryPath path) ↔ Path.components path = [] := by
  have nameless : Path.names? (Path.components path) = some [] ↔ Path.components path = [] :=
    Path.names?_eq_some_iff
  rw [← nameless, target]
  rcases Path.names? (Path.components path) with _ | (_ | _) <;> simp [Error.escapingEntry_ne]

theorem target_error (refused : target path = .error error) :
    error = .escapingEntry path ∨ error = .emptyEntryPath path := by
  rw [target] at refused
  split at refused
  · exact .inl (Except.error.inj refused).symm
  · exact .inr (Except.error.inj refused).symm
  · contradiction

/-- What a tree refuses is no matter of deployment. -/
theorem kind_of_performAll {actions : List TreeAction} (failed : (performAll tree actions).1 = .error error) :
    error.kind = .io := by
  induction actions generalizing tree with
  | nil => contradiction
  | cons action actions ih =>
    rw [performAll] at failed
    split at failed
    · next cause after refused =>
      obtain rfl : cause = error := Except.error.inj failed
      rw [TreeAction.perform] at refused
      split at refused
      · next early =>
        obtain rfl := Except.error.inj (congrArg Prod.fst refused)
        exact TreeAction.kind_of_refusal? early
      · rcases applied : (action.apply tree).1 with os | _
        · rw [applied] at refused
          obtain rfl := Except.error.inj (congrArg Prod.fst refused)
          rfl
        · simp [applied, Except.mapError] at refused
    · exact ih failed

/-- An extraction that fails for the deployment fails for one of the paths. -/
theorem target_of_extract_error (archive : Archive) (failed : (archive.extract tree).1 = .error error)
    (deployment : error.kind = .deploy) : ∃ path ∈ archive.paths, target path = .error error := by
  rcases extractFiles_cases tree archive.files.toList with ⟨after, succeeds⟩ |
    ⟨prior, path, file, later, before, cause, after, same, _, refused, fails⟩
  · rw [extract, succeeds] at failed
    contradiction
  · rw [extract, fails] at failed
    obtain rfl : cause = error := Except.error.inj failed
    refine ⟨path, List.mem_map.mpr ⟨(path, file), by simp [same], rfl⟩, ?_⟩
    rw [extractFile] at refused
    split at refused
    · next targeted => rw [targeted, Except.error.inj (congrArg Prod.fst refused)]
    · have kind := kind_of_performAll (congrArg Prod.fst refused)
      rw [deployment] at kind
      contradiction

theorem target_of_extractFiles {files : List (String × ArchiveFile)}
    (succeeded : (extractFiles tree files).1 = .ok ()) :
    ∀ entry ∈ files, ∃ names, target entry.1 = .ok names := by
  induction files generalizing tree with
  | nil => simp
  | cons entry files ih =>
    obtain ⟨path, file⟩ := entry
    rw [extractFiles_cons, extractFile] at succeeded
    rcases targeted : target path with error | names
    · simp [targeted] at succeeded
    · refine List.forall_mem_cons.mpr ⟨⟨names, targeted⟩, ?_⟩
      simp only [targeted] at succeeded
      split at succeeded
      · contradiction
      · exact ih succeeded

end Archive

namespace Zip

/-- The extraction of an imported archive refuses the paths that go one level up anywhere and those that
name nothing, and no others. With such a path the archive is never extracted, and without one no extraction
fails but by the tree. -/
theorem extract_of_decode (entropy : Nat) (file : Bytes) (archive : Archive)
    (decoded : decode entropy file = .ok archive) :
    (∀ path ∈ archive.paths,
      (Archive.target path = .error (.escapingEntry path) ↔ .parent ∈ Path.components path) ∧
      (Archive.target path = .error (.emptyEntryPath path) ↔ Path.components path = []) ∧
      ((∃ names, Archive.target path = .ok names) ↔
        .parent ∉ Path.components path ∧ Path.components path ≠ [])) ∧
    (∀ tree error, (archive.extract tree).1 = .error error → error.kind = .deploy →
      ∃ path ∈ archive.paths, (.parent ∈ Path.components path ∧ error = .escapingEntry path) ∨
        (Path.components path = [] ∧ error = .emptyEntryPath path)) ∧
    ∀ path ∈ archive.paths, .parent ∈ Path.components path ∨ Path.components path = [] →
      ∀ tree, (archive.extract tree).1 ≠ .ok () := by
  have escaping {path : String} (member : path ∈ archive.paths) :
      Archive.target path = .error (.escapingEntry path) ↔ .parent ∈ Path.components path := by
    have stays : Path.staysBelow 0 (Path.components path) = true := by
      have enclosed := (paths_of_decode decoded path member).1
      rw [Path.isEnclosed, Bool.and_eq_true] at enclosed
      exact enclosed.2
    rw [Archive.target_eq_escaping_iff, or_iff_right (Path.root_not_mem_of_staysBelow stays)]
  refine ⟨fun path member => ⟨escaping member, Archive.target_eq_empty_iff, ?_⟩, ?_, ?_⟩
  · rw [← escaping member, ne_eq, ← Archive.target_eq_empty_iff]
    rcases targeted : Archive.target path with error | names
    · rcases Archive.target_error targeted with rfl | rfl <;> simp
    · simp
  · intro tree error failed deployment
    obtain ⟨path, member, targeted⟩ := archive.target_of_extract_error failed deployment
    rcases Archive.target_error targeted with rfl | rfl
    · exact ⟨path, member, .inl ⟨(escaping member).mp targeted, rfl⟩⟩
    · exact ⟨path, member, .inr ⟨Archive.target_eq_empty_iff.mp targeted, rfl⟩⟩
  · intro path member refused tree succeeded
    obtain ⟨entry, inFiles, rfl⟩ := List.mem_map.mp member
    obtain ⟨names, targeted⟩ := Archive.target_of_extractFiles succeeded entry inFiles
    rcases refused with up | nameless
    · rw [(escaping member).mpr up] at targeted
      contradiction
    · rw [Archive.target_eq_empty_iff.mpr nameless] at targeted
      contradiction

/-- An archive whose only path means the root itself is imported, and is never extracted. -/
theorem extract_of_decode_root :
    let file := (Export.ofArchive Deflate.encode ((Archive.new "suite").insertFile "./." [])).encode
    ∃ imported, decode 0 file = .ok imported ∧ imported.paths = ["./."] ∧
      ∀ tree, (imported.extract tree).1 ≠ .ok () := by
  intro file
  have shape : (decode 0 file).toOption.map Archive.paths = some ["./."] := by decide +kernel
  rcases decoded : decode 0 file with error | imported
  · simp [decoded, Except.toOption] at shape
  · have paths : imported.paths = ["./."] := by simpa [decoded, Except.toOption] using shape
    obtain ⟨-, -, never⟩ := extract_of_decode 0 file imported decoded
    exact ⟨imported, rfl, paths, never "./." (by simp [paths]) (.inr (by decide +kernel))⟩

/-- A path that goes up within its bounds is imported, and its extraction is refused. -/
theorem not_extract_of_decode_parent :
    let file := (Export.ofArchive Deflate.encode ((Archive.new "suite").insertFile "a/../b" [])).encode
    ∃ imported, decode 0 file = .ok imported ∧ imported.paths = ["a/../b"] ∧
      Archive.target "a/../b" = .error (.escapingEntry "a/../b") ∧
      (imported.extract .empty).1 = .error (.escapingEntry "a/../b") := by
  intro file
  have shape : (decode 0 file).toOption.map Archive.paths = some ["a/../b"] := by decide +kernel
  have refused : Archive.target "a/../b" = .error (.escapingEntry "a/../b") :=
    Archive.target_eq_escaping_iff.mpr (by decide +kernel)
  rcases decoded : decode 0 file with error | imported
  · simp [decoded, Except.toOption] at shape
  · have paths : imported.paths = ["a/../b"] := by simpa [decoded, Except.toOption] using shape
    obtain ⟨⟨path, contents⟩, files, rfl⟩ := List.map_eq_singleton_iff.mp paths
    refine ⟨imported, rfl, paths, refused, ?_⟩
    rw [Archive.extract, files, Archive.extractFiles_cons, Archive.extractFile, refused]

end Zip

end TestDaemon
