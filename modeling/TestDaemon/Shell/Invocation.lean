import TestDaemon.Shell.Builtin.Variables
import TestDaemon.Shell.Builtin.Control
import TestDaemon.Tool.Basic

/-! # Shells as programs

A shell is run with options, and then with a text of commands, a file of them, or none, in which case it
reads them from its input.
-/

namespace TestDaemon

namespace Shell

namespace Program

/-- What a shell is asked to carry out. -/
structure Request where
  asText : Bool := false
  rest : List Octets

/-- Take the letters of one option of a shell. -/
def takeLetters (on : Bool) : List Char → Request → Run Request
  | [], request => return request
  | 'c' :: letters, request => takeLetters on letters { request with asText := true }
  | 'l' :: letters, request => takeLetters on letters request
  | letters, request => do
    return { request with rest := ← Builtin.switchLetters on letters request.rest }

/-- Take the options of a shell. -/
def takeOptions : (bound : Nat) → Request → Run Request
  | 0, request => return request
  | bound + 1, request => do
    match request.rest with
    | [] => return request
    | text :: rest =>
      match text.toList with
      | ['-'] | ['-', '-'] => return { request with rest }
      | '-' :: letters => takeOptions bound (← takeLetters true letters { request with rest })
      | '+' :: letters => takeOptions bound (← takeLetters false letters { request with rest })
      | _ => return request

/-- The variables of a new shell. -/
def startVariables (environment : Environment) (directory : Octets) (parent : Nat) :
    List (Octets × Variable) :=
  let own (name value : Octets) : Octets × Variable := (name, { value := some value })
  let passed := (environment.filter fun (name, _) => isName name && name ≠ "IFS" && name ≠ "PWD").map
    fun (name, value) => (name, ({ value := some value, exported := true } : Variable))
  let defaults := [own "OPTIND" "1", own "PS1" "$ ", own "PS2" "> ", own "PS4" "+ "].filter fun (name, _) =>
    (passed.lookup name).isNone
  own "IFS" State.standardSeparators :: defaults ++ passed.filter (·.1 ≠ "PPID") ++
    [own "PPID" (toString parent), ("PWD", { value := some directory, exported := true })]

/-- The state of a new shell. -/
def startState (name : Octets) (environment : Environment) (extended : Bool) (world : World) : State :=
  let physical := world.disk.pathOf (world.disk.nodes.size + 1) world.process.working
  let directory := match environment.lookup "PWD" with
    | some path =>
      if path.startsWith "/" && (world.disk.find world.process.working true path matches .ok _) then
        match world.disk.find world.process.working true path with
        | .ok number => if number = world.process.working then path else physical
        | .error _ => physical
      else physical
    | none => physical
  { name
    root := world.process.number
    bindings := startVariables environment directory (world.process.above.headD 0)
    directory
    inert := world.process.ignored
    extended }

/-- Read what the input holds. -/
def inputText : Run Octets := do
  match ← (Act.readAll 0 : Act (Except OsError ByteArray)) with
  | .ok data => return Octets.ofData data
  | .error _ => return ""

/-- Carry out what a shell is asked to. -/
def carryOut (engine : Engine) (arguments : List Octets) : Run Nat := do
  let request ← takeOptions (arguments.length + 1) { rest := arguments }
  let setArguments (arguments : List Octets) : Run Unit :=
    Run.modifyShell fun shell => { shell with arguments }
  let setName (name : Octets) : Run Unit := Run.modifyShell fun shell => { shell with name }
  if request.asText then
    match request.rest with
    | [] => Run.fail "-c requires an argument"
    | text :: rest =>
      match rest with
      | [] => pure ()
      | name :: arguments =>
        setName name
        setArguments arguments
      engine.runText text
  else if (← Run.shell).hasOption 's' || request.rest.isEmpty then
    Builtin.switch 's' true
    setArguments request.rest
    engine.runFile (← inputText)
  else
    match request.rest with
    | [] => return 0
    | path :: arguments =>
      let text ← Builtin.textOf path
      setName path
      setArguments arguments
      engine.runFile text

/-- A shell as a program. -/
def main (engine : Engine) (extended : Bool) (invocation : Invocation) : Act Nat := fun world =>
  let shell := startState invocation.name invocation.environment extended world
  match engine.finishing (carryOut engine invocation.arguments) { shell, world } with
  | .ok (.exited status) session => .ok status session.world
  | .ok (.killed signal) session => .error (.killed signal) session.world
  | .error interrupt session => .error interrupt session.world

end Program

end Shell

end TestDaemon
