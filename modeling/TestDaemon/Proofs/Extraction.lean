import TestDaemon.Archive.Extraction
import Mathlib.Data.List.Infix

/-! # What an extraction does to a tree

A path is taken apart into names that stand for entries of a directory, or it is refused. The extraction of
a file adds the directories that are missing on the way to its place, and then sets the file; where it fails
it has at most added directories. In a tree in which everything stands in a directory, an added one takes
the place of nothing.
-/

namespace TestDaemon

/-! ## Paths -/

namespace Path

/-- A name of an entry of a directory. -/
def IsName (name : String) : Prop := name ≠ "" ∧ name ≠ "." ∧ name ≠ ".." ∧ '/' ∉ name.toList

instance (name : String) : Decidable (IsName name) := inferInstanceAs (Decidable (_ ∧ _))

theorem not_mem_of_mem_segmentsFrom {run chars : List Char} (clear : '/' ∉ run) :
    ∀ segment ∈ segmentsFrom run chars, '/' ∉ segment := by
  induction chars generalizing run with
  | nil => simpa [segmentsFrom] using clear
  | cons c rest ih =>
    rw [segmentsFrom]
    split
    · simpa [clear] using ih (by simp)
    · next other => exact ih (by simp [clear, Ne.symm other])

theorem isName_of_ofSegment? {segment : List Char} {name : String} (clear : '/' ∉ segment)
    (means : ofSegment? segment = some (.normal name)) : IsName name := by
  rw [ofSegment?] at means
  split at means
  · simp at means
  · next shown =>
    split at means
    · simp at means
    · next down =>
      obtain rfl := Component.normal.inj (Option.some.inj means)
      have chars {text : String} (same : String.ofList segment = text) : segment = text.toList := by
        rw [← same, String.toList_ofList]
      exact ⟨fun same => shown (.inl (chars same)), fun same => shown (.inr (chars same)),
        fun same => down (chars same), by rwa [String.toList_ofList]⟩

theorem isName_of_mem_components {path name : String} (member : .normal name ∈ components path) :
    IsName name := by
  have inSteps : .normal name ∈ (segmentsFrom [] path.toList).filterMap ofSegment? := by
    rw [components] at member
    split at member
    · simpa using member
    · exact member
  obtain ⟨segment, inSegments, means⟩ := List.mem_filterMap.mp inSteps
  exact isName_of_ofSegment? (not_mem_of_mem_segmentsFrom (by simp) segment inSegments) means

theorem names?_eq_some_iff {parts : List Component} {names : TreePath} :
    names? parts = some names ↔ parts = names.map .normal := by
  induction parts generalizing names with
  | nil => cases names <;> simp [names?]
  | cons part rest ih =>
    cases part with
    | normal name =>
      rw [names?, Option.map_eq_some_iff]
      simp only [ih]
      cases names with
      | nil => simp
      | cons first names =>
        constructor
        · rintro ⟨others, rfl, same⟩
          obtain ⟨rfl, rfl⟩ := List.cons.inj same
          rfl
        · intro same
          obtain ⟨normal, rfl⟩ := List.cons.inj same
          cases normal
          exact ⟨names, rfl, rfl⟩
    | root | parent => cases names <;> simp [names?]

theorem names?_eq_none_iff {parts : List Component} :
    names? parts = none ↔ .root ∈ parts ∨ .parent ∈ parts := by
  induction parts with
  | nil => simp [names?]
  | cons part rest ih => cases part <;> simp [names?, ih]

end Path

/-- A place properly below the root, to which names lead down. -/
def TreePath.IsBelow (place : TreePath) : Prop := place ≠ [] ∧ ∀ name ∈ place, Path.IsName name

namespace Archive

theorem target_eq_ok_iff {path : String} {names : TreePath} :
    target path = .ok names ↔ names ≠ [] ∧ Path.components path = names.map .normal := by
  rw [← Path.names?_eq_some_iff, target]
  rcases Path.names? (Path.components path) with _ | (_ | ⟨name, rest⟩)
  · simp
  · simp +contextual [eq_comm]
  · simp +contextual [eq_comm]

theorem isBelow_of_target {path : String} {names : TreePath} (targeted : target path = .ok names) :
    TreePath.IsBelow names := by
  obtain ⟨below, parts⟩ := target_eq_ok_iff.mp targeted
  refine ⟨below, fun name member => ?_⟩
  have inPath : .normal name ∈ Path.components path := by
    rw [parts]
    exact List.mem_map_of_mem member
  exact Path.isName_of_mem_components inPath

end Archive

/-! ## Trees -/

namespace FileTree

variable {tree middle after : FileTree} {above way place : TreePath} {name : String}

/-- Whether everything in a tree stands in a directory. -/
def IsGrounded (tree : FileTree) : Prop :=
  ∀ place name, tree.get? (place ++ [name]) ≠ none → tree.get? place = some .directory

theorem isGrounded_empty (rootLength : Nat) : (empty rootLength).IsGrounded := by
  intro place name present
  simp [get?, empty] at present

/-- Nothing is below what is not there. -/
theorem IsGrounded.get?_below (grounded : tree.IsGrounded) (missing : tree.get? place = none)
    (rest : TreePath) : tree.get? (place ++ rest) = none := by
  induction rest generalizing place with
  | nil => simpa using missing
  | cons name rest ih =>
    have next : tree.get? (place ++ [name]) = none := by
      by_contra present
      rw [grounded place name present] at missing
      contradiction
    simpa using ih next

theorem IsGrounded.add (grounded : tree.IsGrounded) (standing : tree.get? above = some .directory) :
    (tree.add (above ++ [name]) .directory).IsGrounded := by
  intro place other present
  simp only [get?_add tree (by simp : above ++ [name] ≠ [])] at present ⊢
  split
  · rfl
  · split at present
    · next same =>
      obtain ⟨rfl, _⟩ := List.append_inj' same rfl
      exact standing
    · exact grounded place other present

theorem IsGrounded.set (grounded : tree.IsGrounded) (below : place ≠ [])
    (standing : tree.get? place.dropLast = some .directory) (free : tree.get? place ≠ some .directory)
    (node : FileNode) : (tree.set place node).IsGrounded := by
  intro above name present
  simp only [get?_set tree below] at present ⊢
  have upper : tree.get? above = some .directory := by
    split at present
    · next same =>
      rw [← same, List.dropLast_concat] at standing
      exact standing
    · exact grounded above name present
  split
  · next same =>
    rw [same] at upper
    contradiction
  · exact upper

@[simp] theorem set_set (tree : FileTree) (place : TreePath) (first second : FileNode) :
    (tree.set place first).set place second = tree.set place second := by
  simp [set]

/-- Nothing is changed but that directories may have been added on the way to a place. -/
def AddsDirectories (tree after : FileTree) (way : TreePath) : Prop :=
  ∀ place, after.get? place = tree.get? place ∨
    (tree.get? place = none ∧ after.get? place = some .directory ∧ place <+: way)

theorem AddsDirectories.refl (tree : FileTree) (way : TreePath) : tree.AddsDirectories tree way :=
  fun _ => .inl rfl

theorem AddsDirectories.trans (first : tree.AddsDirectories middle way)
    (second : middle.AddsDirectories after way) : tree.AddsDirectories after way := by
  intro place
  rcases second place with same | ⟨missing, added, leads⟩
  · rw [same]
    exact first place
  · refine .inr ⟨?_, added, leads⟩
    rcases first place with same | ⟨_, there, _⟩
    · rw [← same, missing]
    · rw [missing] at there
      contradiction

theorem addsDirectories_add (missing : tree.get? (above ++ [name]) = none) (rest : TreePath) :
    tree.AddsDirectories (tree.add (above ++ [name]) .directory) (above ++ name :: rest) := by
  intro place
  rw [get?_add tree (by simp)]
  split
  · next same =>
    subst same
    exact .inr ⟨missing, rfl, rest, by simp⟩
  · exact .inl rfl

theorem addsDirectories_addDirectories {names : TreePath} (grounded : tree.IsGrounded)
    (standing : tree.get? above = some .directory)
    (missing : ∀ name rest, names = name :: rest → tree.get? (above ++ [name]) = none) :
    (tree.addDirectories above names).2.IsGrounded ∧
      tree.AddsDirectories (tree.addDirectories above names).2 (above ++ names) := by
  induction names generalizing tree above with
  | nil => exact ⟨grounded, .refl _ _⟩
  | cons name rest ih =>
    rw [addDirectories]
    split
    · exact ⟨grounded, .refl _ _⟩
    · have absent := missing name rest rfl
      -- The rest is missing too: nothing is below what was not there.
      have made : (tree.add (above ++ [name]) .directory).get? (above ++ [name]) = some .directory := by
        rw [get?_add tree (by simp), if_pos rfl]
      obtain ⟨grounded', adds⟩ := ih (grounded.add standing) made fun other others _ => by
        rw [get?_add tree (by simp), if_neg (by simp)]
        exact grounded.get?_below absent [other]
      rw [List.append_assoc] at adds
      exact ⟨grounded', (addsDirectories_add absent rest).trans adds⟩

/-- Making directories adds those that are missing, also where it fails on the way. -/
theorem addsDirectories_makeDirectories {names : TreePath} (grounded : tree.IsGrounded)
    (standing : tree.get? above = some .directory) :
    (tree.makeDirectories above names).2.IsGrounded ∧
      tree.AddsDirectories (tree.makeDirectories above names).2 (above ++ names) := by
  induction names generalizing above with
  | nil => exact ⟨grounded, .refl _ _⟩
  | cons name rest ih =>
    rw [makeDirectories]
    split
    · exact ⟨grounded, .refl _ _⟩
    · split
      · next there =>
        have later := ih there
        rwa [List.append_assoc] at later
      · exact ⟨grounded, .refl _ _⟩
      · next absent =>
        refine addsDirectories_addDirectories grounded standing fun other others same => ?_
        obtain ⟨rfl, rfl⟩ := List.cons.inj same
        exact absent

theorem of_writeFile {data : Bytes} (written : tree.writeFile place data = .ok after) :
    place ≠ [] ∧ tree.get? place.dropLast = some .directory ∧ tree.get? place ≠ some .directory ∧
      ∃ mode, after = tree.set place (.file data mode) := by
  have below : tree.get? place ≠ some .directory → place ≠ [] := by
    rintro free rfl
    exact free (get?_nil tree)
  rw [writeFile] at written
  split at written
  · contradiction
  · split at written
    · contradiction
    · contradiction
    · next standing =>
      split at written
      · contradiction
      · next mode there =>
        split at written
        · contradiction
        · have free : tree.get? place ≠ some .directory := by simp [there]
          exact ⟨below free, standing, free, mode, (Except.ok.inj written).symm⟩
      · next there =>
        have free : tree.get? place ≠ some .directory := by simp [there]
        exact ⟨below free, standing, free, newFileMode, (Except.ok.inj written).symm⟩

/-- Whether a tree has a file as it is recorded. -/
def Holds (tree : FileTree) (place : TreePath) (file : ArchiveFile) : Prop :=
  ∃ mode, tree.get? place = some (.file file.data mode) ∧ ∀ recorded ∈ file.mode, mode = recorded &&& 0o7777

/-- A file is set, and nothing else is changed but that directories may have been added on the way to it. -/
structure Receives (tree : FileTree) (place : TreePath) (file : ArchiveFile) (after : FileTree) : Prop where
  free : tree.get? place ≠ some .directory
  held : after.Holds place file
  others : ∀ other, other ≠ place → after.get? other = tree.get? other ∨
    (tree.get? other = none ∧ after.get? other = some .directory ∧ other <+: place)

/-- A node that is set behind added directories. -/
theorem receives_of_set {file : ArchiveFile} {mode : UInt32} (adds : tree.AddsDirectories middle place.dropLast)
    (free : middle.get? place ≠ some .directory)
    (set : ∀ other, after.get? other =
      if other = place then some (.file file.data mode) else middle.get? other)
    (recorded : ∀ wanted ∈ file.mode, mode = wanted &&& 0o7777) : tree.Receives place file after := by
  refine ⟨?_, ⟨mode, by rw [set, if_pos rfl], recorded⟩, fun other different => ?_⟩
  · rcases adds place with same | ⟨missing, _, _⟩
    · rwa [same] at free
    · simp [missing]
  · rw [set, if_neg different]
    rcases adds other with same | ⟨missing, added, leads⟩
    · exact .inl same
    · exact .inr ⟨missing, added, leads.trans (List.dropLast_prefix place)⟩

end FileTree

namespace Archive

open FileTree

variable {tree after : FileTree} {path : String} {file : ArchiveFile} {names : TreePath}

/-- The extraction of a file that has a place sets it, or it fails and sets nothing. -/
theorem performAll_actions (grounded : tree.IsGrounded) (names : TreePath) (file : ArchiveFile) :
    let outcome := performAll tree (actions names file)
    outcome.2.IsGrounded ∧
      (outcome.1 = .ok () ∧ tree.Receives names file outcome.2 ∨
        (∃ error, outcome.1 = .error error) ∧ tree.AddsDirectories outcome.2 names.dropLast) := by
  intro outcome
  obtain ⟨grounded', adds⟩ : (tree.makeDirectories [] names.dropLast).2.IsGrounded ∧
      tree.AddsDirectories (tree.makeDirectories [] names.dropLast).2 names.dropLast :=
    addsDirectories_makeDirectories grounded (get?_nil tree)
  -- Before the file is set, each of four things can fail: the path of the directories, the directories, the
  -- path of the file and the writing. Behind it nothing does, since its permissions have the same path.
  simp only [outcome, actions, performAll, TreeAction.perform, TreeAction.path, TreeAction.apply]
  rcases TreeAction.refusal? tree names.dropLast with _ | error
  case some => exact ⟨grounded, .inr ⟨⟨error, rfl⟩, .refl _ _⟩⟩
  generalize tree.makeDirectories [] names.dropLast = made at grounded' adds ⊢
  obtain ⟨error | _, middle⟩ := made
  · exact ⟨grounded', .inr ⟨⟨_, rfl⟩, adds⟩⟩
  simp only [Except.mapError]
  rcases refused : TreeAction.refusal? middle names with _ | error
  case some => exact ⟨grounded', .inr ⟨⟨error, rfl⟩, adds⟩⟩
  rcases written : middle.writeFile names file.data with error | after
  · exact ⟨grounded', .inr ⟨⟨_, rfl⟩, adds⟩⟩
  obtain ⟨below, standing, free, mode, rfl⟩ := of_writeFile written
  have settled := grounded'.set below standing free
  have there := get?_set middle below names (.file file.data mode)
  rw [if_pos rfl] at there
  rcases recorded : file.mode with _ | wanted
  · simp only [afterChange, Option.map_none, Option.toList_none, performAll]
    exact ⟨settled _, .inl ⟨trivial, receives_of_set adds free (get?_set middle below · _) (by simp [recorded])⟩⟩
  · simp only [afterChange, Option.map_some, Option.toList_some, performAll, TreeAction.perform,
      TreeAction.path, TreeAction.refusal?_set, refused, TreeAction.apply, setMode, there, Except.mapError]
    rw [set_set]
    exact ⟨settled _, .inl ⟨trivial, receives_of_set adds free (get?_set middle below · _) (by simp [recorded])⟩⟩

end Archive

/-! ## Changes

The extraction of files in order is followed place by place: every change is that of a place to which one
of them goes, or of a directory on the way to one.
-/

/-- A change at a place that is on account of a file that goes to `names`: the file is set, or a directory
that was missing on the way to it is made. -/
inductive FileTree.Changes (tree after : FileTree) (names : TreePath) : (place : TreePath) → Prop
  | file {data : Bytes} {mode : UInt32} (set : after.get? names = some (.file data mode)) :
    Changes tree after names names
  | directory {place : TreePath} (missing : tree.get? place = none)
    (made : after.get? place = some .directory) (leads : place <+: names) (above : place ≠ names) :
    Changes tree after names place

namespace FileTree

variable {tree middle after : FileTree} {names place : TreePath} {file : ArchiveFile}

theorem AddsDirectories.changes (adds : tree.AddsDirectories after names.dropLast) (below : names ≠ [])
    (place : TreePath) : after.get? place = tree.get? place ∨ tree.Changes after names place := by
  rcases adds place with same | ⟨missing, made, leads⟩
  · exact .inl same
  · refine .inr (.directory missing made (leads.trans (List.dropLast_prefix names)) ?_)
    rintro rfl
    have shorter := leads.length_le
    rw [List.length_dropLast] at shorter
    have := List.length_pos_iff.mpr below
    omega

theorem Changes.present (changed : tree.Changes after names place) : after.get? place ≠ none := by
  cases changed with
  | file set => simp [set]
  | directory _ made _ _ => simp [made]

/-- A change stays where nothing is changed later. -/
theorem Changes.of_same (changed : tree.Changes middle names place) (same : after.get? place = middle.get? place) :
    tree.Changes after names place := by
  cases changed with
  | file set => exact .file (same.trans set)
  | directory missing made leads above => exact .directory missing (same.trans made) leads above

/-- A change counts from the start if nothing has been there in between. -/
theorem Changes.since (changed : middle.Changes after names place)
    (earlier : middle.get? place = none → tree.get? place = none) : tree.Changes after names place := by
  cases changed with
  | file set => exact .file set
  | directory missing made leads above => exact .directory (earlier missing) made leads above

theorem AddsDirectories.holds (adds : tree.AddsDirectories after place) (held : tree.Holds names file) :
    after.Holds names file := by
  obtain ⟨mode, there, recorded⟩ := held
  rcases adds names with same | ⟨missing, _, _⟩
  · exact ⟨mode, same.trans there, recorded⟩
  · rw [missing] at there
    contradiction

theorem Receives.changes (receives : tree.Receives names file after) (place : TreePath) :
    after.get? place = tree.get? place ∨ tree.Changes after names place := by
  by_cases same : place = names
  · obtain ⟨mode, there, _⟩ := receives.held
    subst same
    exact .inr (.file there)
  · rcases receives.others place same with same | ⟨missing, made, leads⟩
    · exact .inl same
    · exact .inr (.directory missing made leads ‹_›)

end FileTree

namespace Archive

open FileTree

variable {tree after : FileTree} {path : String} {file : ArchiveFile} {files : List (String × ArchiveFile)}

theorem extractFile_changes (grounded : tree.IsGrounded) (path : String) (file : ArchiveFile) :
    let after := (extractFile tree path file).2
    after.IsGrounded ∧ ∀ place, after.get? place = tree.get? place ∨
      ∃ names, target path = .ok names ∧ tree.Changes after names place := by
  intro after
  rcases targeted : target path with error | names
  · have same : extractFile tree path file = (.error error, tree) := by rw [extractFile, targeted]
    simp only [after, same]
    exact ⟨grounded, fun _ => .inl trivial⟩
  · have same : extractFile tree path file = performAll tree (actions names file) := by
      rw [extractFile, targeted]
    have below := (target_eq_ok_iff.mp targeted).1
    obtain ⟨grounded', outcome⟩ := performAll_actions grounded names file
    rw [← same] at grounded' outcome
    refine ⟨grounded', fun place => ?_⟩
    have changes : after.get? place = tree.get? place ∨ tree.Changes after names place := by
      rcases outcome with ⟨_, receives⟩ | ⟨_, adds⟩
      · exact receives.changes place
      · exact adds.changes below place
    exact changes.imp_right fun changed => ⟨names, rfl, changed⟩

/-- A file whose extraction succeeds has a place and is set there. -/
theorem extractFile_ok (grounded : tree.IsGrounded) (succeeded : extractFile tree path file = (.ok (), after)) :
    ∃ names, target path = .ok names ∧ tree.Receives names file after := by
  rw [extractFile] at succeeded
  split at succeeded
  · simp at succeeded
  · next names targeted =>
    obtain ⟨_, outcome⟩ := performAll_actions grounded names file
    rw [succeeded] at outcome
    rcases outcome with ⟨_, receives⟩ | ⟨⟨error, failed⟩, _⟩
    · exact ⟨names, targeted, receives⟩
    · contradiction

/-- A file whose extraction fails is set nowhere; directories may have been made for it if it has a place. -/
theorem extractFile_error {error : Error} (grounded : tree.IsGrounded)
    (failed : extractFile tree path file = (.error error, after)) :
    (∃ names, target path = .ok names ∧ tree.AddsDirectories after names.dropLast) ∨
      (target path = .error error ∧ after = tree) := by
  rw [extractFile] at failed
  split at failed
  · next refusal targeted =>
    obtain ⟨same, rfl⟩ := Prod.mk.inj failed
    obtain rfl := Except.error.inj same
    exact .inr ⟨targeted, rfl⟩
  · next names targeted =>
    obtain ⟨_, outcome⟩ := performAll_actions grounded names file
    rw [failed] at outcome
    rcases outcome with ⟨succeeded, _⟩ | ⟨_, adds⟩
    · contradiction
    · exact .inl ⟨names, targeted, adds⟩

theorem extractFiles_cons (tree : FileTree) (path : String) (file : ArchiveFile)
    (files : List (String × ArchiveFile)) :
    extractFiles tree ((path, file) :: files) =
      match extractFile tree path file with
      | (.error error, after) => (.error error, after)
      | (.ok (), after) => extractFiles after files := rfl

theorem extractFiles_changes (grounded : tree.IsGrounded) (files : List (String × ArchiveFile)) :
    let after := (extractFiles tree files).2
    after.IsGrounded ∧ ∀ place, after.get? place = tree.get? place ∨
      ∃ entry ∈ files, ∃ names, target entry.1 = .ok names ∧ tree.Changes after names place := by
  induction files generalizing tree with
  | nil => exact ⟨grounded, fun _ => .inl rfl⟩
  | cons entry files ih =>
    obtain ⟨path, file⟩ := entry
    obtain ⟨grounded', changes⟩ := extractFile_changes grounded path file
    rw [extractFiles_cons]
    generalize extractFile tree path file = outcome at grounded' changes ⊢
    obtain ⟨error | _, middle⟩ := outcome
    · exact ⟨grounded', fun place => (changes place).imp_right fun changed => ⟨_, List.mem_cons_self .., changed⟩⟩
    · obtain ⟨grounded'', later⟩ := ih grounded'
      refine ⟨grounded'', fun place => ?_⟩
      rcases later place with same | ⟨entry, member, names, targeted, changed⟩
      · rcases changes place with same' | ⟨names, targeted, changed⟩
        · exact .inl (same.trans same')
        · exact .inr ⟨_, List.mem_cons_self .., names, targeted, changed.of_same same⟩
      · refine .inr ⟨entry, List.mem_cons_of_mem _ member, names, targeted, changed.since fun missing => ?_⟩
        rcases changes place with same' | ⟨_, _, changed'⟩
        · rw [← same', missing]
        · exact absurd missing changed'.present

/-- A file stays if no later one goes to its place. -/
theorem holds_extractFiles {names : TreePath} (grounded : tree.IsGrounded) (held : tree.Holds names file)
    (others : ∀ other ∈ files, target other.1 ≠ .ok names) :
    (extractFiles tree files).2.Holds names file := by
  obtain ⟨mode, there, recorded⟩ := held
  refine ⟨mode, ?_, recorded⟩
  rcases (extractFiles_changes grounded files).2 names with same | ⟨entry, member, wanted, targeted, changed⟩
  · exact same.trans there
  · cases changed with
    | file _ => exact absurd targeted (others entry member)
    | directory missing _ _ _ =>
      rw [missing] at there
      contradiction

end Archive

/-- Whether a tree has files as they are recorded, but for those whose place a later one takes. -/
def FileTree.HoldsAll (tree : FileTree) (files : List (String × ArchiveFile)) : Prop :=
  ∀ earlier path file later, files = earlier ++ (path, file) :: later →
    ∃ names, Archive.target path = .ok names ∧
      ((∀ other ∈ later, Archive.target other.1 ≠ .ok names) → tree.Holds names file)

namespace Archive

open FileTree

variable {tree before after : FileTree} {path : String} {file : ArchiveFile}
  {files prior : List (String × ArchiveFile)}

theorem extractFiles_append (tree : FileTree) (prior later : List (String × ArchiveFile)) :
    extractFiles tree (prior ++ later) =
      match extractFiles tree prior with
      | (.error error, after) => (.error error, after)
      | (.ok (), after) => extractFiles after later := by
  induction prior generalizing tree with
  | nil => rfl
  | cons entry prior ih =>
    obtain ⟨path, file⟩ := entry
    rw [List.cons_append, extractFiles_cons, extractFiles_cons]
    rcases extractFile tree path file with ⟨error | _, middle⟩
    · rfl
    · exact ih middle

theorem holdsAll_of_extractFiles (grounded : tree.IsGrounded)
    (succeeded : extractFiles tree files = (.ok (), after)) : after.HoldsAll files := by
  intro earlier path file later same
  rw [same, extractFiles_append] at succeeded
  have settled := (extractFiles_changes grounded earlier).1
  generalize extractFiles tree earlier = first at succeeded settled
  obtain ⟨error | _, before⟩ := first
  · simp at succeeded
  · have settled' := (extractFile_changes settled path file).1
    simp only [extractFiles_cons] at succeeded
    rcases extracted : extractFile before path file with ⟨error | _, middle⟩
    · simp [extracted] at succeeded
    · obtain ⟨names, targeted, receives⟩ := extractFile_ok settled extracted
      rw [extracted] at succeeded settled'
      have last : (extractFiles middle later).2 = after := congrArg Prod.snd succeeded
      refine ⟨names, targeted, fun others => ?_⟩
      rw [← last]
      exact holds_extractFiles settled' receives.held others

/-- An extraction succeeds, or it fails at the first file that fails, those before it having been extracted. -/
theorem extractFiles_cases (tree : FileTree) (files : List (String × ArchiveFile)) :
    (∃ after, extractFiles tree files = (.ok (), after)) ∨
      ∃ prior path file later before error after, files = prior ++ (path, file) :: later ∧
        extractFiles tree prior = (.ok (), before) ∧ extractFile before path file = (.error error, after) ∧
        extractFiles tree files = (.error error, after) := by
  induction files generalizing tree with
  | nil => exact .inl ⟨tree, rfl⟩
  | cons entry files ih =>
    obtain ⟨path, file⟩ := entry
    rw [extractFiles_cons]
    rcases extracted : extractFile tree path file with ⟨error | _, middle⟩
    · exact .inr ⟨[], path, file, files, tree, error, middle, rfl, rfl, extracted, rfl⟩
    · rcases ih middle with succeeds | ⟨prior, path', file', later, before, error, after, rfl, first, failed, fails⟩
      · exact .inl succeeds
      · refine .inr ⟨(path, file) :: prior, path', file', later, before, error, after, rfl, ?_, failed, fails⟩
        rw [extractFiles_cons, extracted]
        exact first

end Archive

end TestDaemon
