import TestDaemon.Archive.Extraction
import TestDaemon.Context
import TestDaemon.FileTree.Access
import TestDaemon.Machine.Layout
import TestDaemon.Shell.Knot

/-! # Running tests as processes

A test is a file of its archive. The archive is extracted into a fresh directory, the file is launched
there with the method as its only argument and an almost empty environment, and its end decides: status
0 passes the test, 77 skips it and everything else fails it. What a failed test wrote to its error
output is its message.
-/

namespace TestDaemon

namespace Error

def classNotLoaded (className id : String) : Error :=
  ⟨.execution, "Could not load class " ++ className ++ " from deployed archive: " ++ id⟩

def launchFailed (className cause : String) : Error :=
  ⟨.execution, "failed to launch test " ++ className ++ ": " ++ cause⟩

/-- A test that has not come to an end within the bounds of its evaluation. -/
def testNotEnded (className : String) : Error :=
  ⟨.execution, "test " ++ className ++ " did not end"⟩

end Error

/-- The end of a process and what it wrote to its error output. -/
structure ProcessOutcome where
  finish : ProcessEnd
  errors : Bytes
  deriving DecidableEq, Repr

namespace ProcessOutcome

/-- The status that skips a test. -/
def skippedStatus : Nat := 77

/-- The status of the test, and the message if it failed. -/
def verdict (outcome : ProcessOutcome) (className method : String) : TestStatus × Option String :=
  let failed (otherwise : String) : TestStatus × Option String :=
    let written := Text.trim (Utf8.decodeLossy outcome.errors)
    (.failed, some (if written = "" then otherwise else written))
  match outcome.finish with
  | .exited status =>
    if status = 0 then (.passed, none)
    else if status = skippedStatus then (.skipped, none)
    else failed s!"{className}#{method} exited with status {status}"
  | .killed _ => failed s!"{className}#{method} terminated by signal"

end ProcessOutcome

/-! ## Launching -/

/-- The environment of a test. -/
def testVariables : Environment := [("PATH", "/usr/local/bin:/usr/bin:/bin")]

/-- The data of the file that is launched for a path, or the refusal to launch it. -/
def launchedData (files : FileTree) (path : String) : Except OsError Bytes := do
  match ← files.lookup [] path with
  | (_, .directory) => throw .accessDenied
  | (_, .file data mode) => if mode &&& 0o100 = 0 then throw .accessDenied else return data

/-- How many steps the processes of a test may take. -/
def stepLimit : Nat := 20000000

/-- The world in which a test's process starts: it works in the directory with the files, reads nothing,
and its output is dropped. -/
def startWorld (files : FileTree) : World :=
  let (disk, working) := Layout.withTree files
  { disk
    opened := #[{ channel := .device .null, reads := true }, { channel := .output, writes := true },
      { channel := .errors, writes := true }]
    pipes := #[]
    written := #[]
    signals := []
    clock := 0
    nextProcess := 4243
    job := 0
    steps := stepLimit
    process :=
      { number := 4242, above := [4200], working, descriptors := [(0, 0), (1, 1), (2, 2)],
        mask := 0o022, ignored := [] } }

/-- The octets on the error output, in the order of the times when they were written. -/
def errorsOf (world : World) : Bytes :=
  let written := world.written.toList.mergeSort fun a b => a.time ≤ b.time
  written.flatMap fun writing => writing.data.toList

/-- What a process has come to; `none` if it is kept from its end by the bounds. -/
def outcome? : EStateM.Result Interrupt World Nat → Option ProcessOutcome
  | .ok status world => some ⟨.exited (status % 256), errorsOf world⟩
  | .error (.exit status) world => some ⟨.exited (status % 256), errorsOf world⟩
  | .error (.failure status) world => some ⟨.exited (status % 256), errorsOf world⟩
  | .error (.killed signal) world => some ⟨.killed signal, errorsOf world⟩
  | .error (.starved _) _ => none
  | .error .endless _ => none

/-- The path that the file of a test is launched by. -/
def launchPath (path : String) : Octets := Layout.workPath ++ "/" ++ Octets.ofText path

/-- Run a program that has been launched for a test. -/
def runLaunched (started : Launch.Started) : Act Nat :=
  Shell.runStarted (Shell.engineAt Shell.engineDepth) testVariables started

/-- Launch the data of a file as a process; `none` if it has not ended within the bounds. Only scripts of
the system's programs are known: machine code is refused like data of no format. -/
def runProcess (files : FileTree) (path method : String) (data : Bytes) :
    Except OsError (Option ProcessOutcome) :=
  match Launch.ofData Launch.bound ⟨data.toArray⟩ (launchPath path) [Octets.ofText method]
      (startWorld files) with
  | .ok (.error cause) _ => .error cause
  | .ok (.ok started) world => .ok (outcome? (runLaunched started world))
  | .error interrupt world => .ok (outcome? (.error interrupt world))

/-! ## Tests -/

/-- What a test is launched from: the path of its file and the extracted archive. -/
def prepareTest (archive : Archive) (className : String) : Except Error (String × FileTree) := do
  match archive.pathOfClass? className with
  | none => throw (.classNotLoaded className archive.id)
  | some path =>
    match archive.extract .empty with
    | (.error error, _) => throw error
    | (.ok (), files) => return (path, files)

/-- The end of a test's process. -/
def runTest (archive : Archive) (className method : String) : Except Error ProcessOutcome := do
  let (path, files) ← prepareTest archive className
  if method.toList.contains '\x00' then
    throw (.launchFailed className "nul byte found in provided data")
  else match launchedData files path with
    | .error cause => throw (.launchFailed className cause.text)
    | .ok data =>
      match runProcess files path method data with
      | .error cause => throw (.launchFailed className cause.text)
      | .ok none => throw (.testNotEnded className)
      | .ok (some outcome) => return outcome

/-- The executor that launches tests, where the clock reads `startedAt` before a test and `finishedAt`
after it. -/
def processExecutor (startedAt finishedAt : Timestamp) : Executor := fun archive className method =>
  (runTest archive className method).map fun outcome =>
    let (status, message) := outcome.verdict className method
    ⟨status, message, startedAt, finishedAt⟩

end TestDaemon
