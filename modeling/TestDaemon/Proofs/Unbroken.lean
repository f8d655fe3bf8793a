import TestDaemon.Command
import TestDaemon.Execution
import TestDaemon.Proofs.Dispatching
import TestDaemon.Proofs.Utf8Lossy
import Mathlib.Data.List.TakeWhile

/-! # Texts without a line feed

A command line has no line feed, so that neither its words nor what is reported of them have one. The
system's own texts have none either. What can bring one into the report of a test is the archive alone:
its name, where it lacks the class, and a path that its extraction refuses.
-/

namespace TestDaemon

/-- A text without a line feed. -/
def Unbroken (text : String) : Prop := '\n' ∉ text.toList

instance (text : String) : Decidable (Unbroken text) := inferInstanceAs (Decidable (¬ _))

@[simp] theorem unbroken_append {first second : String} :
    Unbroken (first ++ second) ↔ Unbroken first ∧ Unbroken second := by
  simp [Unbroken, String.toList_append, not_or]

/-! ## Command lines -/

theorem unbroken_decodeLossy {bytes : Bytes} (clear : 0x0A ∉ bytes) : Unbroken (Utf8.decodeLossy bytes) := by
  intro member
  have occurs : [0x0A].map Utf8.charOf <:+: (Utf8.decodeLossy bytes).toList :=
    (List.singleton_infix_iff _ _).mpr member
  rw [Utf8.infix_decodeLossy_iff (by decide) (Utf8.isPlain_of_all (by decide)), List.singleton_infix_iff] at occurs
  exact clear occurs

theorem not_mem_firstLine (frame : Bytes) : 0x0A ∉ firstLine frame := by
  have cut : 0x0A ∉ frame.takeWhile (· != 0x0A) := fun member => by
    have kept := List.mem_takeWhile_imp member
    simp at kept
  rw [firstLine]
  split
  · exact fun member => cut (List.dropLast_subset _ member)
  · exact cut

theorem unbroken_commandLine {frame : Bytes} {line : String} (read : commandLine frame = .ok line) :
    Unbroken line := by
  obtain ⟨-, rfl⟩ := commandLine_eq_ok_iff.mp read
  exact unbroken_decodeLossy (not_mem_firstLine frame)

/-- A frame that is dispatched as a command gives a line. -/
theorem Dispatcher.unbroken_of_dispatch {dispatcher : Dispatcher} {frame : Bytes} {line : String}
    (dispatched : (dispatcher.dispatch frame).1 = .ok (.command line)) : Unbroken line :=
  unbroken_commandLine (holdsLine_of_dispatch dispatched).read

/-! ## Words -/

theorem Text.unbroken_trim {text : String} (unbroken : Unbroken text) : Unbroken (Text.trim text) := by
  intro member
  rw [trim, String.toList_ofList, trimChars, trimEndChars, List.mem_reverse] at member
  have inFront := (List.dropWhile_suffix _).subset member
  exact unbroken ((List.dropWhile_suffix _).subset (List.mem_reverse.mp inFront))

theorem Text.wordsFrom_visible {run chars : List Char} (visible : ∀ c ∈ run, isBlank c = false) :
    ∀ word ∈ wordsFrom run chars, ∀ c ∈ word, isBlank c = false := by
  induction chars generalizing run with
  | nil =>
    intro word member
    rw [wordsFrom] at member
    split at member
    · simp at member
    · obtain rfl := List.mem_singleton.mp member
      simpa using visible
  | cons c rest ih =>
    intro word member
    rw [wordsFrom] at member
    split at member
    · next blank =>
      split at member
      · exact ih (by simp) word member
      · rcases List.mem_cons.mp member with rfl | later
        · simpa using visible
        · exact ih (by simp) word later
    · next shown => exact ih (List.forall_mem_cons.mpr ⟨by simpa using shown, visible⟩) word member

theorem Text.unbroken_of_mem_words {text word : String} (member : word ∈ words text) : Unbroken word := by
  obtain ⟨chars, inWords, rfl⟩ := List.mem_map.mp member
  intro feed
  rw [String.toList_ofList] at feed
  exact absurd (wordsFrom_visible (by simp) chars inWords _ feed) (by decide)

namespace Command

/-- The parts of a test command are words of its line. -/
theorem unbroken_of_parse_test {line id className method : String}
    (parsed : parse line = .ok (.test id className method)) :
    Unbroken id ∧ Unbroken className ∧ Unbroken method := by
  obtain ⟨_, surplus, -, words⟩ := parse_eq_test_iff.mp parsed
  have word {text : String} (member : text ∈ (Text.words line).drop 2) : Unbroken text :=
    Text.unbroken_of_mem_words (List.drop_subset 2 _ member)
  rw [words] at word
  exact ⟨word (by simp), word (by simp), word (by simp)⟩

theorem unbroken_of_parse_undeploy {line id : String} (unbroken : Unbroken line)
    (parsed : parse line = .ok (.undeploy id)) : Unbroken id := by
  obtain ⟨rest, rfl, rfl⟩ := parse_eq_undeploy_iff.mp parsed
  exact Text.unbroken_trim (unbroken_append.mp unbroken).2

/-- What is said of a line that is no command repeats the line. -/
theorem unbroken_of_parse_error {line : String} {error : Error} (unbroken : Unbroken line)
    (parsed : parse line = .error error) : Unbroken error.message := by
  have incomplete {missing : String} (clear : Unbroken missing) :
      Unbroken (Error.incompleteTest missing line).message := by
    simp only [Error.message, Error.incompleteTest, unbroken_append]
    exact ⟨⟨by decide, by decide⟩, ⟨⟨by decide, clear⟩, by decide⟩, unbroken⟩
  rw [parse] at parsed
  split at parsed
  · simp at parsed
  · split at parsed
    · simp at parsed
    · split at parsed
      · have clear : ∀ missing ∈ ["deployment id", "test class name", "method name"], Unbroken missing := by
          decide
        obtain ⟨missing, member, rfl⟩ := of_ofTestWords_error parsed
        exact incomplete (clear missing member)
      · obtain rfl := Except.error.inj parsed
        simp only [Error.message, Error.unsupportedCommand, unbroken_append]
        exact ⟨⟨by decide, by decide⟩, by decide, unbroken⟩

end Command

/-! ## Extraction -/

theorem OsError.unbroken_text (error : OsError) : Unbroken error.text := by
  cases error <;> decide +kernel

theorem Error.unbroken_ofOs (error : OsError) : Unbroken (Error.ofOs error).message := by
  have label : Unbroken (ErrorKind.io.label ++ ": ") := by decide
  exact unbroken_append.mpr ⟨label, error.unbroken_text⟩

theorem Error.unbroken_of_mapError {α : Type} {made : Except OsError α} {error : Error}
    (failed : made.mapError .ofOs = .error error) : Unbroken error.message := by
  cases made with
  | ok value => simp [Except.mapError] at failed
  | error cause =>
    obtain rfl := Except.error.inj failed
    exact Error.unbroken_ofOs cause

namespace Path

/-- Every character of a path but the slashes stands in a segment. -/
theorem exists_segment {run chars : List Char} {c : Char} (member : c ∈ run ++ chars) (other : c ≠ '/') :
    ∃ segment ∈ segmentsFrom run chars, c ∈ segment := by
  induction chars generalizing run with
  | nil => exact ⟨run.reverse, by simp [segmentsFrom], by simpa using member⟩
  | cons d rest ih =>
    rw [segmentsFrom]
    by_cases slash : d = '/'
    · rw [if_pos slash]
      have parts : c ∈ run ∨ c ∈ [] ++ rest := by
        simpa [slash, other] using member
      rcases parts with inRun | inRest
      · exact ⟨run.reverse, List.mem_cons_self .., by simpa using inRun⟩
      · obtain ⟨segment, inSegments, inside⟩ := ih inRest
        exact ⟨segment, List.mem_cons_of_mem _ inSegments, inside⟩
    · rw [if_neg slash]
      exact ih (by simpa [or_left_comm] using member)

/-- A path without a component has no character but slashes and dots. -/
theorem unbroken_of_components {path : String} (empty : components path = []) : Unbroken path := by
  intro member
  have whole : '\n' ∈ [] ++ path.toList := member
  obtain ⟨segment, inSegments, inside⟩ := exists_segment whole (by decide)
  have kept : (segmentsFrom [] path.toList).filterMap ofSegment? = [] := by
    rw [components] at empty
    split at empty
    · simp at empty
    · exact empty
  have skipped := List.filterMap_eq_nil_iff.mp kept segment inSegments
  rw [ofSegment?] at skipped
  split at skipped
  · next plain => rcases plain with rfl | rfl <;> simp at inside
  · split at skipped <;> simp at skipped

end Path

theorem TreeAction.unbroken_of_refusal? {tree : FileTree} {path : TreePath} {error : Error}
    (refused : refusal? tree path = some error) : Unbroken error.message := by
  rw [refusal?] at refused
  split at refused
  · obtain rfl := Option.some.inj refused
    decide +kernel
  · split at refused
    · obtain rfl := Option.some.inj refused
      exact Error.unbroken_ofOs _
    · contradiction

namespace Archive

theorem components_of_names? {parts : List Path.Component} (none : Path.names? parts = some []) :
    parts = [] := by
  cases parts with
  | nil => rfl
  | cons part rest => cases part <;> simp [Path.names?] at none

theorem unbroken_of_performAll {tree : FileTree} {actions : List TreeAction} {error : Error}
    (failed : (performAll tree actions).1 = .error error) : Unbroken error.message := by
  induction actions generalizing tree with
  | nil => simp [performAll] at failed
  | cons action rest ih =>
    rw [performAll] at failed
    split at failed
    · next refusal after refused =>
      obtain rfl : refusal = error := Except.error.inj failed
      rw [TreeAction.perform] at refused
      split at refused
      · next cause early =>
        obtain rfl : cause = refusal := Except.error.inj (congrArg Prod.fst refused)
        exact TreeAction.unbroken_of_refusal? early
      · exact Error.unbroken_of_mapError (congrArg Prod.fst refused)
    · exact ih failed

theorem of_extractFiles_error {tree : FileTree} {files : List (String × ArchiveFile)} {error : Error}
    (failed : (extractFiles tree files).1 = .error error) :
    (∃ path, error = .escapingEntry path) ∨ Unbroken error.message := by
  induction files generalizing tree with
  | nil => simp [extractFiles] at failed
  | cons pair rest ih =>
    obtain ⟨path, file⟩ := pair
    rw [extractFiles] at failed
    split at failed
    · next refusal after refused =>
      obtain rfl : refusal = error := Except.error.inj failed
      rw [extractFile, target] at refused
      split at refused
      · next cause targeted =>
        obtain rfl : cause = refusal := Except.error.inj (congrArg Prod.fst refused)
        split at targeted
        · exact .inl ⟨path, (Except.error.inj targeted).symm⟩
        · next none =>
          obtain rfl := Except.error.inj targeted
          have clear := Path.unbroken_of_components (components_of_names? none)
          refine .inr ?_
          simp only [Error.message, Error.emptyEntryPath, unbroken_append]
          exact ⟨⟨by decide, by decide⟩, ⟨by decide, clear⟩, by decide⟩
        · contradiction
      · exact .inr (unbroken_of_performAll (congrArg Prod.fst refused))
    · exact ih failed

end Archive

/-! ## Tests -/

theorem unbroken_launchFailed {className cause : String} (clear : Unbroken className)
    (told : Unbroken cause) : Unbroken (Error.launchFailed className cause).message := by
  simp only [Error.message, Error.launchFailed, unbroken_append]
  exact ⟨⟨by decide, by decide⟩, ⟨⟨by decide, clear⟩, by decide⟩, told⟩

theorem unbroken_escapingEntry {path : String} :
    Unbroken (Error.escapingEntry path).message ↔ Unbroken path := by
  have label : Unbroken (ErrorKind.deploy.label ++ ": ") := by decide
  have head : Unbroken "entry " := by decide
  have tail : Unbroken " escapes the archive root" := by decide
  simp only [Error.message, Error.escapingEntry, unbroken_append] at label ⊢
  simp [label, head, tail]

theorem unbroken_classNotLoaded {className id : String} (clear : Unbroken className) :
    Unbroken (Error.classNotLoaded className id).message ↔ Unbroken id := by
  have label : Unbroken (ErrorKind.execution.label ++ ": ") := by decide
  have head : Unbroken "Could not load class " := by decide
  have middle : Unbroken " from deployed archive: " := by decide
  simp only [Error.message, Error.classNotLoaded, unbroken_append] at label ⊢
  simp [label, head, middle, clear]

/-- The report of a prepared test has no line feed. -/
theorem unbroken_of_runTest {archive : Archive} {className method : String} {error : Error}
    {prepared : String × FileTree} (clear : Unbroken className)
    (ready : prepareTest archive className = .ok prepared)
    (failed : runTest archive className method = .error error) : Unbroken error.message := by
  obtain ⟨path, files⟩ := prepared
  simp only [runTest, ready, bind, Except.bind] at failed
  split at failed
  · obtain rfl := Except.error.inj failed
    exact unbroken_launchFailed clear (by decide)
  · split at failed
    · obtain rfl := Except.error.inj failed
      exact unbroken_launchFailed clear (OsError.unbroken_text _)
    · split at failed
      · obtain rfl := Except.error.inj failed
        exact unbroken_launchFailed clear (OsError.unbroken_text _)
      · obtain rfl := Except.error.inj failed
        simp only [Error.message, Error.testNotEnded, unbroken_append]
        exact ⟨⟨by decide, by decide⟩, ⟨by decide, clear⟩, by decide⟩
      · contradiction

theorem runTest_of_unprepared {archive : Archive} {className method : String} {error : Error}
    (unprepared : prepareTest archive className = .error error) :
    runTest archive className method = .error error := by
  simp only [runTest, unprepared, bind, Except.bind]

theorem runTest_of_processExecutor {startedAt finishedAt : Timestamp} {archive : Archive}
    {className method : String} {error : Error}
    (failed : processExecutor startedAt finishedAt archive className method = .error error) :
    runTest archive className method = .error error := by
  cases run : runTest archive className method with
  | ok outcome => simp [processExecutor, run, Except.map] at failed
  | error other => simpa [processExecutor, run, Except.map] using failed

/-- A text of an archive that the report of a failed test repeats. -/
inductive Archive.Repeated (archive : Archive) (className : String) : String → Prop
  | name (missing : archive.pathOfClass? className = none) : Repeated archive className archive.id
  | path {path : String} (present : (archive.pathOfClass? className).isSome)
    (refused : (archive.extract .empty).1 = .error (.escapingEntry path)) :
    Repeated archive className path

/-- The report of a failed test has no line feed exactly if what it repeats of its archive has none. -/
theorem unbroken_processExecutor_iff {startedAt finishedAt : Timestamp} {archive : Archive}
    {className method : String} {error : Error} (clear : Unbroken className)
    (failed : processExecutor startedAt finishedAt archive className method = .error error) :
    Unbroken error.message ↔ ∀ text, archive.Repeated className text → Unbroken text := by
  have ran := runTest_of_processExecutor failed
  -- Without the class the name is repeated; with it, the path that the extraction refuses, if it does.
  cases found : archive.pathOfClass? className with
  | none =>
    have prepared : prepareTest archive className = .error (.classNotLoaded className archive.id) := by
      simp only [prepareTest, found]
      rfl
    obtain rfl := Except.error.inj ((runTest_of_unprepared prepared).symm.trans ran)
    rw [unbroken_classNotLoaded clear]
    constructor
    · rintro unbroken text (_ | ⟨present, _⟩)
      · exact unbroken
      · simp [found] at present
    · exact fun all => all _ (.name found)
  | some path =>
    have onlyPath {text : String} (repeated : archive.Repeated className text) :
        (archive.extract .empty).1 = .error (.escapingEntry text) := by
      cases repeated with
      | name missing => simp [found] at missing
      | path _ refused => exact refused
    rcases extracted : archive.extract .empty with ⟨refusal | _, files⟩
    · have prepared : prepareTest archive className = .error refusal := by
        simp only [prepareTest, found, extracted]
        rfl
      obtain rfl := Except.error.inj ((runTest_of_unprepared prepared).symm.trans ran)
      have refused : (archive.extract .empty).1 = .error refusal := congrArg Prod.fst extracted
      constructor
      · intro unbroken text repeated
        obtain rfl := Except.error.inj (refused.symm.trans (onlyPath repeated))
        exact unbroken_escapingEntry.mp unbroken
      · intro all
        rcases Archive.of_extractFiles_error refused with ⟨path, rfl⟩ | unbroken
        · exact unbroken_escapingEntry.mpr (all path (.path (by rw [found]; rfl) refused))
        · exact unbroken
    · have prepared : prepareTest archive className = .ok (path, files) := by
        simp only [prepareTest, found, extracted]
        rfl
      refine iff_of_true (unbroken_of_runTest clear prepared ran) fun text repeated => ?_
      have refused := onlyPath repeated
      simp [extracted] at refused

end TestDaemon
