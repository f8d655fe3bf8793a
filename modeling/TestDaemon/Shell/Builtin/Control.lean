import TestDaemon.Shell.Builtin.Options
import TestDaemon.Shell.Search

/-! # Control

Leaving loops, functions and the shell, carrying out texts and files as commands, and telling what a name
stands for.
-/

namespace TestDaemon

namespace Shell

namespace Builtin

def succeed : Builtin := fun _ _ _ => return 0

def fail : Builtin := fun _ _ _ => return 1

/-- Leave loops, or go on with the next round of one. -/
def skipLoops : Builtin := fun _ name arguments => do
  let count ← match arguments with
    | [] => pure 1
    | text :: _ => do
      let count ← number text
      if count = 0 then Run.badNumber text
      pure count
  let count := min count (← Run.shell).loops
  if count ≠ 0 then
    Run.modifyShell fun shell =>
      { shell with skip := if name = "continue" then .goOn count else .leave count }
  return 0

def leaveBody : Builtin := fun _ _ arguments => do
  let status ← match arguments with
    | [] => pure (← Run.shell).status
    | text :: _ => number text
  Run.modifyShell fun shell => { shell with skip := .body (!arguments.isEmpty) }
  return status

/-- End the shell; inside an action the status is the one before it. -/
def exit : Builtin := fun _ _ arguments => do
  let status ← match arguments with
    | [] =>
      let shell ← Run.shell
      pure (shell.savedStatus.getD shell.status)
    | text :: _ => number text
  throw (.exit status)

def eval : Builtin := fun engine _ arguments => do
  if arguments.isEmpty then return 0
  engine.runText (" ".intercalate arguments)

/-! ## Files -/

/-- The path of a file of commands: a name without a slash is looked for like a program, but need not be
one. -/
def filePath (name : Octets) : Run Octets := do
  if name.toList.contains '/' then return name
  let path := ((← Run.shell).value? "PATH").getD ""
  let candidates := (Octets.split ':' path).map fun directory =>
    if directory = "" then name else directory ++ "/" ++ name
  match ← candidates.findM? (fun path => do
    return (← (Inspection.node? path : Act (Option Node))).any fun node => node.isFile && node.permits 4) with
  | some path => return path
  | none => Run.fail s!"{name}: not found"

/-- The text of a file of commands. A directory has none. -/
def textOf (path : Octets) : Run Octets := do
  match ← (Act.openPath .toRead path : Act (Except OsError Nat)) with
  | .error error =>
    let cause := match error with
      | .notFound | .notDirectory => "No such file"
      | error => error.description
    Run.fail s!"cannot open {path}: {cause}"
  | .ok index =>
    let descriptors := (← get).world.process.descriptors
    Act.lead 10 index
    let result ← (Act.readAll 10 : Act (Except OsError ByteArray))
    Act.modifyProcess fun process => { process with descriptors }
    match result with
    | .ok data => return Octets.ofData data
    | .error _ => return ""

/-- Carry out a file in this shell. -/
def carryOut : Builtin := fun engine _ arguments => do
  let (_, operands) ← options "" "" arguments
  match operands with
  | [] => return 0
  | name :: _ =>
    let path ← filePath name
    let text ← textOf path
    let outer := (← Run.shell).commandName
    Run.modifyShell fun shell => { shell with commandName := some path }
    let status ← Run.ensuring (engine.runFile text)
      (Run.modifyShell fun shell => { shell with commandName := outer })
    Run.modifyShell fun shell =>
      { shell with skip := if shell.skip matches .body _ then .nothing else shell.skip }
    return status

/-! ## Programs -/

/-- Become a program, or do nothing but keep the redirections. -/
def exec : Builtin := fun engine _ arguments => do
  let (_, operands) ← options "" "" arguments
  match operands with
  | [] => return 0
  | name :: _ =>
    let shell ← Run.shell
    let path ← do
      if name.toList.contains '/' then pure name
      else match ← Search.program ((shell.value? "PATH").getD "") name with
        | .ok path => pure path
        | .error error =>
          Run.complain s!"{name}: {Engine.refusalOf error}"
          throw (.exit (Engine.refusalStatus error))
    let actions := shell.actions
    Run.modifyShell fun shell => { shell with actions := [] }
    let result ← (engine.execute path operands shell.environment : Act (Except OsError Nat))
    match result with
    | .ok status => throw (.exit status)
    | .error .badFormat => throw (.exit (← engine.become path operands shell.environment))
    | .error error =>
      Run.modifyShell fun shell => { shell with actions }
      Run.complain s!"{name}: {Engine.refusalOf error}"
      throw (.exit (Engine.refusalStatus error))

/-! ## Names -/

/-- Tell what a name stands for, as a sentence or as a command that means the same. -/
def describe (name : Octets) (isSentence : Bool) (path : Option Octets) : Run Nat := do
  let say (sentence command : Octets) : Run Nat := do
    Run.print ((if isSentence then name ++ sentence else command) ++ "\n")
    return 0
  let shell ← Run.shell
  let missing : Run Nat := do
    if isSentence then Run.print (name ++ ": not found\n")
    return 127
  if Token.isReserved shell.extended name then return ← say " is a shell keyword" name
  match shell.aliases.lookup name with
  | some value => return ← say (" is an alias for " ++ value) s!"alias {name}={quotedAlways value}"
  | none => pure ()
  match ← Search.find name true path with
  | .function _ => say " is a shell function" name
  | .builtin true => say " is a special shell builtin" name
  | .builtin false => say " is a shell builtin" name
  | .missing _ => missing
  | .program path =>
    if !name.toList.contains '/' || ((← (Inspection.node? path : Act (Option Node))).any (·.permits 1)) then
      say (" is " ++ path) path
    else missing

def type : Builtin := fun _ _ arguments => do
  let statuses ← arguments.mapM fun name => describe name true none
  return statuses.foldl (fun status other => status ||| other) 0

/-- The options of `command` that keep it from carrying out its arguments. -/
def command : Builtin := fun _ _ arguments => do
  let (given, operands) ← options "pvV" "" arguments
  let path := if given.any (·.1 == 'p') then some Search.standardPath else none
  match operands with
  | [] => return 0
  | name :: _ =>
    if given.any (·.1 == 'V') then describe name true path
    else if given.any (·.1 == 'v') then describe name false path
    else return 0

/-- Places of programs are not kept, so that there are none to list or forget. -/
def hash : Builtin := fun _ _ arguments => do
  let (_, operands) ← options "rv" "" arguments
  let mut status := 0
  for name in operands do
    match ← Search.find name true none with
    | .missing error =>
      Run.complain s!"{name}: {Engine.refusalOf error}"
      status := 1
    | _ => pure ()
  return status

end Builtin

end Shell

end TestDaemon
