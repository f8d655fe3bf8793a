import TestDaemon.Execution
import TestDaemon.Proofs.ExtractedFiles
import TestDaemon.Proofs.Fallible

/-! # The file that is launched

A test is launched by the written path of its file, which leads to the place where the extraction has put
that file. Another path can lead there too; then the last of them decides what is run.
-/

namespace TestDaemon

/-! ## Written paths -/

namespace FileTree

variable {tree : FileTree} {here place : TreePath} {segment : String}

/-- A segment that leads on goes nowhere, to the parent, or down by its name. -/
theorem of_descend (walked : tree.descend here segment = .ok place) :
    (segment = "" ∨ segment = ".") ∧ place = here ∨ segment = ".." ∨
      ¬ (segment = "" ∨ segment = ".") ∧ place = here ++ [segment] := by
  rw [descend] at walked
  split at walked
  · cases walked
  · cases walked
  · split at walked
    · next nothing => exact .inl ⟨nothing, (Except.ok.inj walked).symm⟩
    · next shown =>
      split at walked
      · next up => exact .inr (.inl up)
      · split at walked
        · cases walked
        · exact .inr (.inr ⟨shown, (Except.ok.inj walked).symm⟩)

/-- A walk that never goes up ends at the names on its way. -/
theorem of_foldlM_descend {segments : List String} (walked : segments.foldlM tree.descend here = .ok place)
    (down : ".." ∉ segments) :
    place = here ++ segments.filter fun name => name ≠ "" ∧ name ≠ "." := by
  induction segments generalizing here with
  | nil => simpa using (Except.ok.inj walked).symm
  | cons segment segments ih =>
    rw [List.mem_cons, not_or] at down
    obtain ⟨notUp, down⟩ := down
    obtain ⟨next, step, walked⟩ := foldlM_cons_eq_ok_iff.mp walked
    rw [ih walked down, List.filter_cons]
    rcases of_descend step with ⟨nothing, rfl⟩ | up | ⟨shown, rfl⟩
    · rw [if_neg (by simpa [or_iff_not_imp_left] using nothing)]
    · exact absurd up.symm notUp
    · rw [if_pos (by simpa using shown), List.append_assoc, List.singleton_append]

theorem of_lookup {path : String} {node : FileNode} (found : tree.lookup here path = .ok (place, node)) :
    tree.locate here path = .ok place ∧ tree.get? place = some node := by
  obtain ⟨other, located, found⟩ := bind_eq_ok_iff.mp found
  split at found
  · next shown there =>
    cases found
    exact ⟨located, there⟩
  · cases found

end FileTree

namespace Archive

variable {archive : Archive} {className path : String} {names place : TreePath} {tree : FileTree}

/-- The written path of a file that has a place leads there, if it leads anywhere. -/
theorem locate_of_target (targeted : target path = .ok names) (located : tree.locate [] path = .ok place) :
    place = Path.normalized path := by
  obtain ⟨-, parts⟩ := target_eq_ok_iff.mp targeted
  have down : ".." ∉ (Path.segmentsFrom [] path.toList).map String.ofList := by
    intro up
    obtain ⟨segment, member, same⟩ := List.mem_map.mp up
    have parent : Path.ofSegment? segment = some .parent := by
      rw [← String.toList_inj, String.toList_ofList] at same
      rw [same]
      rfl
    have inPath : .parent ∈ Path.components path := by
      have inSteps := List.mem_filterMap.mpr ⟨segment, member, parent⟩
      rw [Path.components]
      split
      · exact List.mem_cons_of_mem _ inSteps
      · exact inSteps
    simp [parts] at inPath
  rw [FileTree.locate] at located
  split at located
  · cases located
  · have start : FileTree.beginning [] path = ([], (Path.segmentsFrom [] path.toList).map String.ofList) :=
      ite_self _
    rw [start] at located
    exact FileTree.of_foldlM_descend located down

/-- The file that implements a class is the one under its name, or else the one under its dotted path. -/
theorem pathOfClass?_eq_some_iff :
    archive.pathOfClass? className = some path ↔
      archive.contains path ∧ path = if archive.contains className then className else dottedPath className := by
  rw [pathOfClass?]
  split
  · next present =>
    constructor
    · rintro ⟨⟩
      exact ⟨present, rfl⟩
    · rintro ⟨-, rfl⟩
      rfl
  · split
    · next present =>
      constructor
      · rintro ⟨⟩
        exact ⟨present, rfl⟩
      · rintro ⟨-, rfl⟩
        rfl
    · next absent =>
      refine iff_of_false (Option.some_ne_none _).symm ?_
      rintro ⟨present, rfl⟩
      exact absent present

end Archive

/-! ## Launching -/

section

variable {archive : Archive} {className path : String} {files : FileTree} {data : Bytes}

theorem prepareTest_eq_ok_iff : prepareTest archive className = .ok (path, files) ↔
    archive.pathOfClass? className = some path ∧ archive.extract .empty = (.ok (), files) := by
  rw [prepareTest]
  cases archive.pathOfClass? className with
  | none => exact iff_of_false (nomatch ·) (nomatch ·.1)
  | some found =>
    rcases archive.extract .empty with ⟨error | _, tree⟩
    · exact iff_of_false (nomatch ·) (nomatch ·.2)
    · constructor
      · rintro ⟨⟩
        exact ⟨rfl, rfl⟩
      · rintro ⟨⟨⟩, ⟨⟩⟩
        rfl

/-- What is launched are the data of an executable file at the place to which the path leads. -/
theorem of_launchedData (launched : launchedData files path = .ok data) :
    ∃ place mode, files.locate [] path = .ok place ∧ files.get? place = some (.file data mode) := by
  obtain ⟨⟨place, node⟩, found, launched⟩ := bind_eq_ok_iff.mp launched
  obtain ⟨located, there⟩ := FileTree.of_lookup found
  cases node with
  | directory => cases launched
  | file contents mode =>
    dsimp only at launched
    split at launched
    · cases launched
    · obtain rfl := Except.ok.inj launched
      exact ⟨place, mode, located, there⟩

theorem of_runTest {method : String} {outcome : ProcessOutcome}
    (ran : runTest archive className method = .ok outcome) :
    ∃ path files data, prepareTest archive className = .ok (path, files) ∧ '\x00' ∉ method.toList ∧
      launchedData files path = .ok data ∧ runProcess files path method data = .ok (some outcome) := by
  simp only [runTest, bind, Except.bind] at ran
  split at ran
  · cases ran
  · next prepared ready =>
    split at ran
    · cases ran
    · next clear =>
      split at ran
      · cases ran
      · next data launched =>
        split at ran
        · cases ran
        · cases ran
        · next found process =>
          obtain rfl := Except.ok.inj ran
          exact ⟨_, _, data, ready, by simpa using clear, launched, process⟩

end

/-- A test of a class that comes to be launched, from the data of the file to which a path leads. -/
structure Archive.Launches (archive : Archive) (className method path : String) (files : FileTree)
    (data : Bytes) : Prop where
  prepared : prepareTest archive className = .ok (path, files)
  clear : '\x00' ∉ method.toList
  launched : launchedData files path = .ok data

namespace Archive

variable {archive : Archive} {className method path : String} {files : FileTree} {data : Bytes}

/-- What is launched is the file that prevails at the place of the one that implements the class. -/
theorem Launches.prevails (launches : archive.Launches className method path files data) :
    ∃ last file, archive.Prevails (Path.normalized path) last file ∧ data = file.data := by
  obtain ⟨found, extracted⟩ := prepareTest_eq_ok_iff.mp launches.prepared
  have member : path ∈ archive.paths :=
    Dictionary.mem_keys_iff.mpr (pathOfClass?_eq_some_iff.mp found).1
  have targeted := target_of_extract extracted (FileTree.isGrounded_empty _) member
  obtain ⟨place, mode, located, there⟩ := of_launchedData launches.launched
  rw [locate_of_target targeted located] at there
  obtain ⟨last, file, prevails, contents, -⟩ := prevails_of_extract extracted there
  exact ⟨last, file, prevails, contents⟩

/-- A test ends with an error, or with what comes of a process that was launched. What is launched are the data
of the file that implements the class, or of one that is written later to the same place. -/
theorem processExecutor_launches (archive : Archive) (className method : String) :
    (∀ startedAt finishedAt,
      (∃ error, processExecutor startedAt finishedAt archive className method = .error error) ∨
        ∃ path files data outcome, archive.Launches className method path files data ∧
          runProcess files path method data = .ok (some outcome) ∧
          processExecutor startedAt finishedAt archive className method =
            .ok ⟨(outcome.verdict className method).1, (outcome.verdict className method).2, startedAt,
              finishedAt⟩) ∧
    ∀ path files data, archive.Launches className method path files data →
      path = (if archive.contains className then className else dottedPath className) ∧
      ∃ named last file, archive.get? path = some named ∧
        archive.Prevails (Path.normalized path) last file ∧ data = file.data ∧
        (data = named.data ∨ Utf8.encode path < Utf8.encode last) := by
  constructor
  · intro startedAt finishedAt
    rw [processExecutor]
    cases ran : runTest archive className method with
    | error error => exact .inl ⟨error, rfl⟩
    | ok outcome =>
      obtain ⟨path, files, data, prepared, clear, launched, process⟩ := of_runTest ran
      exact .inr ⟨path, files, data, outcome, ⟨prepared, clear, launched⟩, process, rfl⟩
  · intro path files data launches
    obtain ⟨found, -⟩ := prepareTest_eq_ok_iff.mp launches.prepared
    obtain ⟨present, chosen⟩ := pathOfClass?_eq_some_iff.mp found
    obtain ⟨named, stored⟩ := Option.isSome_iff_exists.mp present
    obtain ⟨last, file, prevails, contents⟩ := launches.prevails
    refine ⟨chosen, named, last, file, stored, prevails, contents, ?_⟩
    rcases eq_or_ne path last with rfl | other
    · have same : named = file := Option.some.inj (stored.symm.trans prevails.present)
      exact .inl (by rw [contents, same])
    · have greatest := prevails.greatest path (mem_paths_of_get? stored) rfl
      have least := Utf8.encode_le_encode_iff.mp greatest
      exact .inr (Utf8.encode_lt_encode_iff.mpr (lt_of_le_of_ne least other))

/-- A class is launched by its dotted path although another path, which is lesser, leads to the same place. -/
theorem processExecutor_launches_dotted :
    let archive := ((Archive.new "suite").insertExecutable "a/./C" [1]).insertExecutable "a/C" [2]
    let files := (archive.extract .empty).2
    archive.Launches "a.C" "m" "a/C" files [2] ∧
      ∃ named last file, archive.get? "a/C" = some named ∧
        archive.Prevails (Path.normalized "a/C") last file ∧ [2] = file.data ∧
        ([2] = named.data ∨ Utf8.encode "a/C" < Utf8.encode last) := by
  intro archive files
  have extracted : (archive.extract .empty).1 = .ok () := by decide +kernel
  have found : archive.pathOfClass? "a.C" = some "a/C" := by decide +kernel
  have launches : archive.Launches "a.C" "m" "a/C" files [2] :=
    ⟨prepareTest_eq_ok_iff.mpr ⟨found, Prod.ext extracted rfl⟩, by decide, by decide +kernel⟩
  exact ⟨launches, ((processExecutor_launches archive "a.C" "m").2 "a/C" files [2] launches).2⟩

/-- What is launched for a class is not its file, since a greater path leads to the same place. -/
theorem not_processExecutor_launches_shadowed :
    let named := Utf8.encode "#!/bin/sh\nexit 0\n"
    let later := Utf8.encode "#!/bin/sh\nexit 77\n"
    let archive := ((Archive.new "suite").insertExecutable "C" named).insertFile "C/." later
    archive.Launches "C" "m" "C" (archive.extract .empty).2 later ∧
      archive.get? "C" = some ⟨named, some 0o755⟩ ∧ later ≠ named := by
  intro named later archive
  have extracted : (archive.extract .empty).1 = .ok () := by decide +kernel
  have found : archive.pathOfClass? "C" = some "C" := by decide +kernel
  have launches : archive.Launches "C" "m" "C" (archive.extract .empty).2 later :=
    ⟨prepareTest_eq_ok_iff.mpr ⟨found, Prod.ext extracted rfl⟩, by decide, by decide +kernel⟩
  exact ⟨launches, by decide +kernel, by decide +kernel⟩

end Archive

end TestDaemon
