import TestDaemon.Proofs.Extraction

/-! # Extraction stays below its root

What an extraction does to a tree is planned from the paths alone: it is a list of actions, each at a place
to which names lead down from the root, and it ends at the first file that has no such place. The extraction
itself ends there or at the first action that the tree refuses.
-/

namespace TestDaemon

/-- Whether an action is one at a place below the root, or makes directories on the way to one. -/
def TreeAction.IsConfined : TreeAction → Prop
  | makeDirectories path => ∀ name ∈ path, Path.IsName name
  | writeFile path _ => TreePath.IsBelow path
  | setMode path _ => TreePath.IsBelow path

namespace Archive

/-- The actions for files in order, up to the first that has no place, and what becomes of it. -/
def plan : List (String × ArchiveFile) → List TreeAction × Except Error Unit
  | [] => ([], .ok ())
  | (path, file) :: files =>
    match target path with
    | .error error => ([], .error error)
    | .ok names => (actions names file ++ (plan files).1, (plan files).2)

/-- Perform the actions of a plan, and end as it does if all of them succeed. -/
def performPlan (tree : FileTree) (plan : List TreeAction × Except Error Unit) :
    Except Error Unit × FileTree :=
  match performAll tree plan.1 with
  | (.error error, after) => (.error error, after)
  | (.ok (), after) => (plan.2, after)

theorem performAll_append (tree : FileTree) (first second : List TreeAction) :
    performAll tree (first ++ second) =
      match performAll tree first with
      | (.error error, after) => (.error error, after)
      | (.ok (), after) => performAll after second := by
  induction first generalizing tree with
  | nil => rfl
  | cons action first ih =>
    rw [List.cons_append, performAll, performAll]
    rcases action.perform tree with ⟨error | _, after⟩
    · rfl
    · exact ih after

/-- An extraction carries out its plan. -/
theorem extractFiles_eq_plan (tree : FileTree) (files : List (String × ArchiveFile)) :
    extractFiles tree files = performPlan tree (plan files) := by
  induction files generalizing tree with
  | nil => rfl
  | cons entry files ih =>
    obtain ⟨path, file⟩ := entry
    rw [extractFiles_cons, extractFile, plan]
    rcases target path with error | names
    · rfl
    · simp only [performPlan, performAll_append]
      rcases performAll tree (actions names file) with ⟨error | _, after⟩
      · rfl
      · simp only [ih, performPlan]

theorem confined_of_mem_plan (files : List (String × ArchiveFile)) :
    ∀ action ∈ (plan files).1, action.IsConfined := by
  induction files with
  | nil => simp [plan]
  | cons entry files ih =>
    obtain ⟨path, file⟩ := entry
    rw [plan]
    rcases targeted : target path with error | names
    · simp
    · have below := isBelow_of_target targeted
      intro action member
      rcases List.mem_append.mp member with member | member
      · simp only [actions, List.mem_cons, Option.mem_toList, Option.map_eq_some_iff] at member
        rcases member with rfl | rfl | ⟨mode, _, rfl⟩
        · exact fun name inWay => below.2 name (List.dropLast_subset names inWay)
        · exact below
        · exact below
      · exact ih action member

/-- A path with a root or a parent, or without a name, is refused. -/
theorem target_refused {path : String}
    (outside : .root ∈ Path.components path ∨ .parent ∈ Path.components path ∨
      ∀ name, .normal name ∉ Path.components path) :
    ∃ error, error.kind = .deploy ∧ target path = .error error := by
  rcases targeted : target path with error | names
  · refine ⟨error, ?_, rfl⟩
    rw [target] at targeted
    split at targeted
    · obtain rfl := Except.error.inj targeted
      rfl
    · obtain rfl := Except.error.inj targeted
      rfl
    · contradiction
  · obtain ⟨below, parts⟩ := target_eq_ok_iff.mp targeted
    obtain ⟨name, rest, rfl⟩ := List.exists_cons_of_ne_nil below
    rw [parts] at outside
    rcases outside with inside | inside | unnamed
    · simp at inside
    · simp at inside
    · exact absurd (List.mem_map_of_mem (List.mem_cons_self ..)) (unnamed name)

/-- An extraction writes files, and changes their permissions, at places below the root only, and makes
directories only on the way to such places. A file whose path has a root or a parent, or no name, is
refused, and nothing is done for it. The extraction ends at the first file in the order of the paths that
is refused or that the tree does not take: those before it are written, and for it at most directories are
made. The root is always there: where it is missing, it is made first with the directories that lead to it,
which are no part of the tree. -/
theorem extract_confined (archive : Archive) (tree : FileTree) (grounded : tree.IsGrounded) :
    let files := archive.files.toList
    let extracted := archive.extract tree
    (files.map (·.1)).Pairwise (· < ·) ∧
    (extracted = performPlan tree (plan files) ∧ ∀ action ∈ (plan files).1, action.IsConfined) ∧
    (∀ place, extracted.2.get? place = tree.get? place ∨
      ∃ entry ∈ files, ∃ names, target entry.1 = .ok names ∧ TreePath.IsBelow names ∧
        tree.Changes extracted.2 names place) ∧
    (∀ path file,
      (.root ∈ Path.components path ∨ .parent ∈ Path.components path ∨
        ∀ name, .normal name ∉ Path.components path) →
      ∃ error, error.kind = .deploy ∧ ∀ before, extractFile before path file = (.error error, before)) ∧
    (extracted.1 = .ok () ∧ extracted.2.HoldsAll files ∨
      ∃ prior path file later before error, files = prior ++ (path, file) :: later ∧
        extractFiles tree prior = (.ok (), before) ∧
        extractFile before path file = (.error error, extracted.2) ∧ extracted.1 = .error error ∧
        extracted.2.HoldsAll prior ∧
        ∀ place, extracted.2.get? place = before.get? place ∨
          (before.get? place = none ∧ extracted.2.get? place = some .directory)) := by
  intro files extracted
  have planned : extracted = performPlan tree (plan files) := extractFiles_eq_plan tree files
  refine ⟨archive.files.keys_sorted, ⟨planned, confined_of_mem_plan files⟩, fun place => ?_, ?_, ?_⟩
  · refine ((extractFiles_changes grounded files).2 place).imp_right ?_
    rintro ⟨entry, member, names, targeted, changed⟩
    exact ⟨entry, member, names, targeted, isBelow_of_target targeted, changed⟩
  · intro path file outside
    obtain ⟨error, kind, targeted⟩ := target_refused outside
    exact ⟨error, kind, fun before => by rw [extractFile, targeted]⟩
  · have whole : extractFiles tree files = extracted := rfl
    rcases extractFiles_cases tree files with ⟨after, succeeds⟩ |
      ⟨prior, path, file, later, before, error, after, same, first, failed, fails⟩
    · have held := holdsAll_of_extractFiles grounded succeeds
      rw [whole] at succeeds
      rw [succeeds]
      exact .inl ⟨rfl, held⟩
    · rw [whole] at fails
      rw [fails]
      have settled : before.IsGrounded := by
        have settled := (extractFiles_changes grounded prior).1
        rwa [first] at settled
      have held := holdsAll_of_extractFiles grounded first
      refine .inr ⟨prior, path, file, later, before, error, same, first, failed, rfl, ?_⟩
      rcases extractFile_error settled failed with ⟨names, _, adds⟩ | ⟨_, rfl⟩
      · refine ⟨fun earlier path file later same => ?_, fun place => ?_⟩
        · obtain ⟨names, targeted, there⟩ := held earlier path file later same
          exact ⟨names, targeted, fun others => adds.holds (there others)⟩
        · exact (adds place).imp_right (And.imp_right And.left)
      · exact ⟨held, fun _ => .inl rfl⟩

/-- The second of three files is refused: the first one is written, at the place to which its path comes
down to, and the third one is not. -/
theorem extract_confined_parent :
    let archive := (((Archive.new "suite").insert "./a//b" [1] (some 0o100755)).insertFile "b/../c" [2]).insertFile
      "d" [3]
    let extracted := archive.extract .empty
    FileTree.empty.IsGrounded ∧ extracted.1 = .error (.escapingEntry "b/../c") ∧
      extracted.2.get? ["a", "b"] = some (.file [1] 0o755) ∧ extracted.2.get? ["d"] = none ∧
      ∀ place, extracted.2.get? place = FileTree.empty.get? place ∨
        ∃ entry ∈ archive.files.toList, ∃ names, target entry.1 = .ok names ∧ TreePath.IsBelow names ∧
          FileTree.empty.Changes extracted.2 names place := by
  intro archive extracted
  obtain ⟨-, -, changes, -, -⟩ := extract_confined archive .empty (FileTree.isGrounded_empty _)
  exact ⟨FileTree.isGrounded_empty _, by rfl, by decide +kernel, by decide +kernel, changes⟩

end Archive

end TestDaemon
