import Mathlib.Data.Nat.Init
import TestDaemon.Execution

/-! # What running a test's process guarantees

Launching only looks at the disk. It leads by at most six interpreters to a program of the system, which gets
the path of the file and the method behind the interpreters' own arguments. A file that leads to none is
refused, and nothing is run for it. What is run ends with a status of one octet or by a signal, or else it
exceeds the bounds: there is a fixed number of steps, and every command takes one.
-/

namespace TestDaemon

/-! ## Launching -/

namespace Launch

/-- The file at a path can be run. -/
structure IsRunnable (world : World) (path : Octets) (node : Node) : Prop where
  found : (world.disk.find world.process.working true path).map world.disk.node = .ok node
  regular : node.isFile = true
  permitted : node.permits 1 = true

/-- The data of a file name an interpreter. -/
structure Names (data : ByteArray) (interpreter : Interpreter) : Prop where
  marked : isScript data = true
  read : interpreterOf data = .ok interpreter
  given : interpreter.path ≠ ""

/-- The data of a file lead to a program by a number of interpreters. The last one is the program itself, and
the others are scripts in their turn. Each gets its own argument and the path of the file that names it, in
front of the arguments of that file. -/
inductive Leads (world : World) (started : Started) : (count : Nat) → (data : ByteArray) → (path : Octets) →
    (arguments : List Octets) → Prop
  | program {data : ByteArray} {path : Octets} {arguments : List Octets} {interpreter : Interpreter}
    {node : Node} (names : Names data interpreter) (runnable : IsRunnable world interpreter.path node)
    (content : node.content = .program started.program) (name : started.name = interpreter.path)
    (passed : started.arguments = interpreter.argument.toList ++ path :: arguments) :
    Leads world started 1 data path arguments
  | script {count : Nat} {data : ByteArray} {path : Octets} {arguments : List Octets}
    {interpreter : Interpreter} {node : Node} (names : Names data interpreter)
    (runnable : IsRunnable world interpreter.path node)
    (unlike : ∀ program, node.content ≠ .program program)
    (leads : Leads world started count node.data interpreter.path
      (interpreter.argument.toList ++ path :: arguments)) :
    Leads world started (count + 1) data path arguments

variable {world : World} {started : Started} {count depth : Nat} {data : ByteArray} {path name : Octets}
  {arguments : List Octets}

theorem Leads.two_le (leads : Leads world started count data path arguments) : 2 ≤ 2 * count := by
  cases leads <;> omega

/-- What is started is a program of the disk, and not any data. -/
theorem Leads.exists_program (leads : Leads world started count data path arguments) :
    ∃ node, IsRunnable world started.name node ∧ node.content = .program started.program := by
  induction leads with
  | program names runnable content name _ => exact ⟨_, name ▸ runnable, content⟩
  | script _ _ _ _ ih => exact ih

/-- The path of the file and its arguments are passed on as they are, behind those of the interpreters. -/
theorem Leads.suffix_arguments (leads : Leads world started count data path arguments) :
    path :: arguments <:+ started.arguments := by
  induction leads with
  | program _ _ _ _ passed => exact passed ▸ List.suffix_append ..
  | script _ _ _ _ ih =>
    exact (List.suffix_append _ _).trans ((List.suffix_cons _ _).trans ih)

theorem node?_eq (path : Octets) (follow : Bool) (world : World) :
    Act.node? path follow world =
      .ok ((world.disk.find world.process.working follow path).map world.disk.node) world := rfl

theorem ofData_succ (depth : Nat) (data : ByteArray) (path : Octets) (arguments : List Octets)
    (world : World) :
    ofData (depth + 1) data path arguments world =
      if !isScript data then .ok (.error .badFormat) world
      else match interpreterOf data with
        | .error error => .ok (.error error) world
        | .ok interpreter =>
          if interpreter.path = "" then .ok (.error .accessDenied) world
          else ofPath depth interpreter.path interpreter.path
            (interpreter.argument.toList ++ path :: arguments) world := by
  rw [ofData]
  split
  · rfl
  · cases interpreterOf data with
    | error => rfl
    | ok interpreter =>
      dsimp only
      split <;> rfl

theorem ofPath_succ (depth : Nat) (path name : Octets) (arguments : List Octets) (world : World) :
    ofPath (depth + 1) path name arguments world =
      match (world.disk.find world.process.working true path).map world.disk.node with
      | .error error => .ok (.error error) world
      | .ok node =>
        if !node.isFile || !node.permits 1 then .ok (.error .accessDenied) world
        else match node.content with
          | .program program => .ok (.ok ⟨program, name, arguments⟩) world
          | _ => ofData depth node.data path arguments world := by
  rw [ofPath]
  simp only [bind, EStateM.bind, node?_eq]
  cases (world.disk.find world.process.working true path).map world.disk.node with
  | error => rfl
  | ok node =>
    dsimp only
    split
    · rfl
    · cases node.content <;> rfl

/-- Launching is never interrupted and changes nothing. -/
theorem launches_ok (depth : Nat) (world : World) :
    (∀ data path arguments, ∃ result, ofData depth data path arguments world = .ok result world) ∧
      ∀ path name arguments, ∃ result, ofPath depth path name arguments world = .ok result world := by
  induction depth with
  | zero => exact ⟨fun _ _ _ => ⟨_, rfl⟩, fun _ _ _ => ⟨_, rfl⟩⟩
  | succ depth ih =>
    obtain ⟨ofData_ok, ofPath_ok⟩ := ih
    constructor
    · intro data path arguments
      rw [ofData_succ]
      split
      · exact ⟨_, rfl⟩
      · split
        · exact ⟨_, rfl⟩
        · split
          · exact ⟨_, rfl⟩
          · exact ofPath_ok ..
    · intro path name arguments
      rw [ofPath_succ]
      split
      · exact ⟨_, rfl⟩
      · split
        · exact ⟨_, rfl⟩
        · split
          · exact ⟨_, rfl⟩
          · exact ofData_ok ..

theorem ofData_succ_eq_ok_iff :
    ofData (depth + 1) data path arguments world = .ok (.ok started) world ↔
      ∃ interpreter, Names data interpreter ∧
        ofPath depth interpreter.path interpreter.path (interpreter.argument.toList ++ path :: arguments)
          world = .ok (.ok started) world := by
  rw [ofData_succ]
  constructor
  · intro launched
    split at launched
    · cases launched
    · next marked =>
      split at launched
      · cases launched
      · next interpreter read =>
        split at launched
        · cases launched
        · next given => exact ⟨interpreter, ⟨by simpa using marked, read, given⟩, launched⟩
  · rintro ⟨interpreter, ⟨marked, read, given⟩, launched⟩
    simpa [marked, read, given] using launched

theorem ofPath_succ_eq_ok_iff :
    ofPath (depth + 1) path name arguments world = .ok (.ok started) world ↔
      ∃ node, IsRunnable world path node ∧
        ((∃ program, node.content = .program program ∧ started = ⟨program, name, arguments⟩) ∨
          (∀ program, node.content ≠ .program program) ∧
            ofData depth node.data path arguments world = .ok (.ok started) world) := by
  rw [ofPath_succ]
  constructor
  · intro launched
    split at launched
    · cases launched
    · next node found =>
      split at launched
      · cases launched
      · next free =>
        obtain ⟨regular, permitted⟩ : node.isFile = true ∧ node.permits 1 = true := by simpa using free
        refine ⟨node, ⟨found, regular, permitted⟩, ?_⟩
        split at launched
        · next program content =>
          cases launched
          exact .inl ⟨program, content, rfl⟩
        · next unlike => exact .inr ⟨unlike, launched⟩
  · rintro ⟨node, ⟨found, regular, permitted⟩, ⟨program, content, rfl⟩ | ⟨unlike, launched⟩⟩
    · simp [found, regular, permitted, content]
    · simpa [found, regular, permitted, unlike] using launched

/-- Every interpreter takes two levels: one for its path and one for its data. -/
theorem ofData_eq_ok_iff :
    ofData depth data path arguments world = .ok (.ok started) world ↔
      ∃ count, 2 * count ≤ depth ∧ Leads world started count data path arguments := by
  induction depth using Nat.twoStepInduction generalizing data path arguments with
  | zero =>
    refine iff_of_false (nomatch ·) ?_
    rintro ⟨count, short, leads⟩
    exact absurd (Nat.le_trans leads.two_le short) (by decide)
  | one =>
    rw [ofData_succ_eq_ok_iff]
    refine iff_of_false ?_ ?_
    · rintro ⟨interpreter, -, launched⟩
      cases launched
    · rintro ⟨count, short, leads⟩
      exact absurd (Nat.le_trans leads.two_le short) (by decide)
  | more depth ih _ =>
    simp only [ofData_succ_eq_ok_iff, ofPath_succ_eq_ok_iff, ih]
    constructor
    · rintro ⟨interpreter, names, node, runnable, ⟨program, content, rfl⟩ | ⟨unlike, count, short, leads⟩⟩
      · exact ⟨1, by omega, .program names runnable content rfl rfl⟩
      · exact ⟨count + 1, by omega, .script names runnable unlike leads⟩
    · rintro ⟨count, short, leads⟩
      cases leads with
      | program names runnable content name passed =>
        exact ⟨_, names, _, runnable, .inl ⟨_, content, by rw [← name, ← passed]⟩⟩
      | script names runnable unlike leads =>
        exact ⟨_, names, _, runnable, .inr ⟨unlike, _, by omega, leads⟩⟩

end Launch

/-! ## Processes -/

section

open Launch

/-- The file of a test leads to a program. -/
def Launched (files : FileTree) (path method : String) (data : Bytes) (started : Started) : Prop :=
  ∃ count ≤ depthLimit + 1,
    Leads (startWorld files) started count ⟨data.toArray⟩ (launchPath path) [Octets.ofText method]

variable {files : FileTree} {path method : String} {data : Bytes} {started : Started}

theorem launched_iff : Launched files path method data started ↔
    Launch.ofData Launch.bound ⟨data.toArray⟩ (launchPath path) [Octets.ofText method] (startWorld files) =
      .ok (.ok started) (startWorld files) := by
  rw [ofData_eq_ok_iff, Launched]
  refine exists_congr fun count => and_congr_left' ?_
  rw [Launch.bound]
  omega

/-- What is run for a test is a program of the system. The path of its file and the method are its last
arguments. -/
theorem Launched.program (launched : Launched files path method data started) :
    (∃ node, IsRunnable (startWorld files) started.name node ∧ node.content = .program started.program) ∧
      [launchPath path, Octets.ofText method] <:+ started.arguments := by
  obtain ⟨count, -, leads⟩ := launched
  exact ⟨leads.exists_program, leads.suffix_arguments⟩

theorem Launched.unique {other : Started} (launched : Launched files path method data started)
    (alike : Launched files path method data other) : other = started := by
  have same := (launched_iff.mp alike).symm.trans (launched_iff.mp launched)
  cases same
  rfl

/-- What a launched program comes to. -/
theorem Launched.runs (launched : Launched files path method data started) :
    runProcess files path method data = .ok (outcome? (runLaunched started (startWorld files))) := by
  rw [runProcess, launched_iff.mp launched]

/-- A file is refused, for a cause that its launch gives, or it leads to one program, which is run. -/
theorem runProcess_cases (files : FileTree) (path method : String) (data : Bytes) :
    (∃ cause, runProcess files path method data = .error cause ∧
      ∀ started, ¬ Launched files path method data started) ∨
    ∃ started, Launched files path method data started ∧
      runProcess files path method data = .ok (outcome? (runLaunched started (startWorld files))) := by
  obtain ⟨result, launch⟩ := (launches_ok Launch.bound (startWorld files)).1 ⟨data.toArray⟩ (launchPath path)
    [Octets.ofText method]
  cases result with
  | error cause =>
    refine .inl ⟨cause, by rw [runProcess, launch], fun started launched => ?_⟩
    cases launch.symm.trans (launched_iff.mp launched)
  | ok started =>
    have launched := launched_iff.mpr launch
    exact .inr ⟨started, launched, launched.runs⟩

/-- A file is refused exactly if it leads to no program. -/
theorem runProcess_refused_iff : (∃ cause, runProcess files path method data = .error cause) ↔
    ∀ started, ¬ Launched files path method data started := by
  constructor
  · rintro ⟨cause, refused⟩ started launched
    cases refused.symm.trans launched.runs
  · intro none
    rcases runProcess_cases files path method data with ⟨cause, refused, -⟩ | ⟨started, launched, -⟩
    · exact ⟨cause, refused⟩
    · exact absurd launched (none started)

/-- Data without the mark of a script are refused, machine code among them. -/
theorem runProcess_of_unmarked (unmarked : isScript ⟨data.toArray⟩ = false) :
    runProcess files path method data = .error .badFormat := by
  have launch := ofData_succ (2 * depthLimit + 1) ⟨data.toArray⟩ (launchPath path) [Octets.ofText method]
    (startWorld files)
  rw [unmarked] at launch
  rw [runProcess, Launch.bound, launch]
  rfl

/-- A status is a single octet. -/
theorem status_lt_of_outcome? {result : EStateM.Result Interrupt World Nat} {status : Nat} {errors : Bytes}
    (ended : outcome? result = some ⟨.exited status, errors⟩) : status < 256 := by
  unfold outcome? at ended
  split at ended <;> cases ended
  all_goals exact Nat.mod_lt _ (by decide)

theorem status_lt_of_runProcess {status : Nat} {errors : Bytes}
    (ran : runProcess files path method data = .ok (some ⟨.exited status, errors⟩)) : status < 256 := by
  rcases runProcess_cases files path method data with ⟨cause, refused, -⟩ | ⟨started, -, ended⟩
  · cases refused.symm.trans ran
  · exact status_lt_of_outcome? (Except.ok.inj (ended.symm.trans ran))

/-- The bounds of a process keep it from its end. -/
def Interrupt.IsBound (interrupt : Interrupt) : Prop :=
  interrupt = .endless ∨ ∃ pipe, interrupt = .starved pipe

theorem outcome?_eq_none_iff {result : EStateM.Result Interrupt World Nat} :
    outcome? result = none ↔ ∃ interrupt world, result = .error interrupt world ∧ interrupt.IsBound := by
  rcases result with ⟨status, world⟩ | ⟨interrupt, world⟩
  · simp [outcome?]
  · cases interrupt <;> simp [outcome?, Interrupt.IsBound]

/-- A test does not come to an end exactly if the program that it leads to exceeds the bounds. -/
theorem runProcess_eq_none_iff : runProcess files path method data = .ok none ↔
    ∃ started interrupt world, Launched files path method data started ∧ interrupt.IsBound ∧
      runLaunched started (startWorld files) = .error interrupt world := by
  constructor
  · intro unended
    rcases runProcess_cases files path method data with ⟨cause, refused, -⟩ | ⟨started, launched, ran⟩
    · cases refused.symm.trans unended
    · obtain ⟨interrupt, world, ended, bound⟩ := outcome?_eq_none_iff.mp (Except.ok.inj (ran.symm.trans unended))
      exact ⟨started, interrupt, world, launched, bound, ended⟩
  · rintro ⟨started, interrupt, world, launched, bound, ended⟩
    rw [launched.runs, outcome?_eq_none_iff.mpr ⟨interrupt, world, ended, bound⟩]

end

/-! ## Steps -/

theorem Act.step_eq (world : World) :
    Act.step world =
      if world.steps = 0 then .error .endless world
      else .ok () { world with steps := world.steps - 1 } := by
  change (if world.steps = 0 then throw .endless else set { world with steps := world.steps - 1 } : Act Unit)
    world = _
  split <;> rfl

/-- Every command takes a step, so that none is carried out when there is none left. -/
theorem Shell.Evaluation.evaluate_exhausted {session : Session} (exhausted : session.world.steps = 0)
    (engine : Engine) (command : Command) (tested : Bool) :
    evaluate engine command tested session = .error .endless session := by
  have stepped : Act.step session.world = .error .endless session.world := by
    rw [Act.step_eq, if_pos exhausted]
  have lifted : (monadLift Act.step : Run Unit) session = .error .endless session := by
    simp only [monadLift, MonadLift.monadLift, stepped]
  change EStateM.bind (monadLift Act.step : Run Unit) _ session = _
  rw [EStateM.bind, lifted]

end TestDaemon
