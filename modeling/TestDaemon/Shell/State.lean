import TestDaemon.Machine.World
import TestDaemon.Shell.Grammar

/-! # The state of a shell

Variables, functions, parameters and options of one shell, and what it does about signals. A subshell
works on a copy, so nothing that it changes here is seen outside.
-/

namespace TestDaemon

namespace Shell

/-- A variable may be exported or protected without having a value. -/
structure Variable where
  value : Option Octets := none
  exported : Bool := false
  isReadOnly : Bool := false

/-- A function: the line on which it was defined, and its body. -/
structure Function where
  line : Nat
  body : Command

/-- What is skipped until it ends: nothing, loops that are left or gone on with, or the commands of a
function or a file, with or without a status of its own. -/
inductive Skip where
  | nothing
  | leave (loops : Nat)
  | goOn (loops : Nat)
  | body (hasStatus : Bool)
  deriving DecidableEq, Repr

/-- A process in the background: how and when it ends, and its number in the list of jobs. -/
structure Job where
  process : Nat
  finish : ProcessEnd
  time : Nat
  index : Nat

/-- The options, by their letters and names, in the order in which they are listed. -/
def optionNames : List (Char × String) :=
  [('e', "errexit"), ('f', "noglob"), ('I', "ignoreeof"), ('i', "interactive"), ('m', "monitor"),
    ('n', "noexec"), ('s', "stdin"), ('x', "xtrace"), ('v', "verbose"), ('V', "vi"), ('E', "emacs"),
    ('C', "noclobber"), ('a', "allexport"), ('b', "notify"), ('u', "nounset"), ('p', "privileged")]

structure State where
  name : Octets
  commandName : Option Octets := none
  bindings : List (Octets × Variable) := []
  functions : List (Octets × Function) := []
  aliases : List (Octets × Octets) := []
  arguments : List Octets := []
  options : List Char := []
  status : Nat := 0
  /-- The status that an exit without one has, inside an action for a signal or the end. -/
  savedStatus : Option Nat := none
  /-- The status of the last substitution of commands. -/
  innerStatus : Nat := 0
  line : Nat := 0
  /-- The line up to which commands have been read. -/
  readLine : Nat := 1
  functionLine : Nat := 0
  skip : Skip := .nothing
  loops : Nat := 0
  /-- The actions for signals, and under 0 the one for the end. -/
  actions : List (Nat × Octets) := []
  root : Nat
  lastBackground : Option Nat := none
  jobs : List Job := []
  /-- What `getopts` has reached in the word that it is in. -/
  optionOffset : Option Nat := none
  documents : Array (Bool × Word) := #[]
  /-- What the functions under way have made local, the innermost first. -/
  locals : List (List (Octets × Option Variable)) := []
  extended : Bool := false
  /-- The working directory as it was entered. -/
  directory : Octets := "/"
  /-- Signals that were already not taken notice of when the shell started. -/
  inert : List Signal := []
  /-- Whether something could not be written to the output. -/
  outputFailed : Bool := false

namespace State

def hasOption (state : State) (letter : Char) : Bool := state.options.contains letter

def binding? (state : State) (name : Octets) : Option Variable := state.bindings.lookup name

/-- The value of a variable. -/
def value? (state : State) (name : Octets) : Option Octets :=
  (state.binding? name).bind (·.value)

/-- Put a variable into the place of an old one, or behind all others. -/
def putVariable (state : State) (name : Octets) (entry : Variable) : State :=
  if (state.binding? name).isSome then
    { state with
      bindings := state.bindings.map fun (old, value) =>
        if old == name then (old, entry) else (old, value) }
  else { state with bindings := state.bindings ++ [(name, entry)] }

def removeVariable (state : State) (name : Octets) : State :=
  { state with bindings := state.bindings.filter (·.1 != name) }

/-- The separators of fields, where none are set. -/
def standardSeparators : Octets := " \t\n"

def separators (state : State) : Octets := (state.value? "IFS").getD standardSeparators

/-- The group of a variable in a list of exported ones. -/
def group (name : Octets) : Nat :=
  match name.toList with
  | [] => 0
  | first :: _ => (name.toList.foldl (fun sum c => sum + c.toNat) (first.toNat * 16)) % 39

/-- The variables that are passed to programs. -/
def environment (state : State) : Environment :=
  let exported := state.bindings.filterMap fun (name, entry) =>
    if entry.exported then entry.value.map (name, ·) else none
  exported.mergeSort fun a b => group a.1 ≤ group b.1

/-- The action for a signal, where there is one. -/
def action? (state : State) (signal : Nat) : Option Octets := state.actions.lookup signal

/-- The signals for which there are actions. -/
def handled (state : State) : List Signal := (state.actions.filter (·.2 ≠ "")).map (·.1)

end State

/-- A shell in its surroundings. -/
structure Session where
  shell : State
  world : World

/-- What a shell does. -/
abbrev Run := EStateM Interrupt Session

instance : MonadLift Act Run where
  monadLift act := fun session =>
    match act session.world with
    | .ok value world => .ok value { session with world }
    | .error interrupt world => .error interrupt { session with world }

namespace Run

def shell : Run State := return (← get).shell

def modifyShell (change : State → State) : Run Unit :=
  modify fun session => { session with shell := change session.shell }

def setStatus (status : Nat) : Run Unit := modifyShell fun shell => { shell with status }

/-- Write a text to the error output. -/
def printError (text : Octets) : Run Unit := Act.print 2 text

/-- What stands in front of complaints: the name of the shell, the line and the command at work. -/
def heading : Run Octets := do
  let shell ← shell
  match shell.commandName with
  | none => return s!"{shell.name}: {shell.line}: "
  | some command => return s!"{shell.name}: {shell.line}: {command}: "

/-- Write a text to the output. -/
def print (text : Octets) : Run Unit := do
  match ← (Act.write 1 (Octets.toData text) : Act (Except OsError Unit)) with
  | .ok () => return
  | .error _ => modifyShell fun shell => { shell with outputFailed := true }

/-- Complain about something. -/
def complain (text : Octets) : Run Unit := do
  printError ((← heading) ++ text ++ "\n")

/-- Complain about something, and fail. -/
def fail {α : Type} (text : Octets) : Run α := do
  complain text
  setStatus 2
  throw (.failure 2)

/-! ## Variables -/

/-- Refuse a number. -/
def badNumber {α : Type} (text : Octets) : Run α := fail ("Illegal number: " ++ text)

/-- What follows from a new value of a variable. -/
def afterChange (name : Octets) : Run Unit := do
  if name = "OPTIND" then modifyShell fun shell => { shell with optionOffset := none }

/-- Set a variable. With `exports`, or where all variables are exported, it becomes exported. -/
def setVariable (name value : Octets) (exports : Bool) : Run Unit := do
  let shell ← shell
  let old := (shell.binding? name).getD {}
  if old.isReadOnly then fail (name ++ ": is read only")
  let exported := old.exported || exports || shell.hasOption 'a'
  modifyShell fun shell => shell.putVariable name { old with value := some value, exported }
  afterChange name

def unsetVariable (name : Octets) : Run Unit := do
  let old := ((← shell).binding? name).getD {}
  if old.isReadOnly then fail (name ++ ": is read only")
  modifyShell fun shell => shell.removeVariable name
  afterChange name

/-- The name under which the options are kept like a variable, whose value is their letters. -/
def optionsName : Octets := "-"

/-- Keep what a variable is now, until the innermost function or command under way has ended. -/
def keepVariable (name : Octets) : Run Unit :=
  modifyShell fun shell =>
    match shell.locals with
    | [] => shell
    | kept :: outer =>
      if (kept.lookup name).isSome then shell
      else
        let old := if name = optionsName then some { value := some (String.ofList shell.options) }
          else shell.binding? name
        { shell with locals := ((name, old) :: kept) :: outer }

/-- Start to keep variables. -/
def pushLocals : Run Unit := modifyShell fun shell => { shell with locals := [] :: shell.locals }

/-- Put back what has been kept. -/
def popLocals : Run Unit := do
  match (← shell).locals with
  | [] => return
  | kept :: outer =>
    modifyShell fun shell =>
      let shell := kept.foldl (fun shell (name, binding?) =>
        match binding? with
        | some entry =>
          if name = optionsName then { shell with options := (entry.value.getD "").toList }
          else shell.putVariable name entry
        | none => shell.removeVariable name) shell
      { shell with locals := outer }
    kept.forM fun (name, _) => afterChange name

/-- Do something and put something right afterwards, also where it was interrupted. -/
def ensuring {α : Type} (act : Run α) (after : Run Unit) : Run α := do
  let value ← try act catch interrupt =>
    after
    throw interrupt
  after
  return value

end Run

end Shell

end TestDaemon
