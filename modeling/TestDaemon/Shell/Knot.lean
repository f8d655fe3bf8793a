import TestDaemon.Shell.Evaluation
import TestDaemon.Shell.Invocation
import TestDaemon.Tool.Catalog

/-! # Shells and programs together

Commands start programs, and some programs are shells, which carry out commands. How deep that may go is
bounded; what goes deeper ends as a process does whose stack is full.
-/

namespace TestDaemon

namespace Shell

/-- Run a program that has been launched. -/
def runStarted (engine : Engine) (environment : Environment) (started : Launch.Started) : Act Nat := do
  let invocation : Invocation :=
    { name := started.name, arguments := started.arguments, environment, become := engine.execute }
  match started.program with
  | "dash" => Program.main engine false invocation
  | "bash" => Program.main engine true invocation
  | program =>
    match Tool.catalog.lookup program with
    | some tool => tool invocation
    | none => throw (.exit 127)

/-- Become the program that a path leads to. -/
def execute (engine : Engine) (path : Octets) (arguments : List Octets) (environment : Environment) :
    Act (Except OsError Nat) := do
  match ← Launch.ofPath Launch.bound path (arguments.headD path) arguments.tail with
  | .error error => return .error error
  | .ok started => return .ok (← runStarted engine environment started)

/-- The signal that ends a process whose stack is full. -/
def stackSignal : Signal := 11

/-- Commands and programs up to a depth. -/
def engineAt : (depth : Nat) → Engine
  | 0 => ⟨fun _ _ => throw (.killed stackSignal), fun _ _ _ => throw (.killed stackSignal)⟩
  | depth + 1 =>
    ⟨fun command tested => Evaluation.evaluate (engineAt depth) command tested,
      fun path arguments environment => execute (engineAt depth) path arguments environment⟩

/-- How deep commands and programs may go. -/
def engineDepth : Nat := 4000

end Shell

end TestDaemon
