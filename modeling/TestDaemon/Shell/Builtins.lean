import TestDaemon.Shell.Builtin.Control
import TestDaemon.Shell.Builtin.Printing
import TestDaemon.Shell.Builtin.Processes
import TestDaemon.Shell.Builtin.Testing
import TestDaemon.Shell.Builtin.Variables

/-! # Built-in commands

The commands that a shell carries out itself, by their names.
-/

namespace TestDaemon

namespace Shell

def builtins : List (Octets × Builtin) :=
  [(".", Builtin.carryOut), (":", Builtin.succeed), ("[", Testing.run), ("alias", Builtin.setAliases),
    ("bg", Builtin.foreground), ("break", Builtin.skipLoops), ("cd", Builtin.cd), ("chdir", Builtin.cd),
    ("command", Builtin.command), ("continue", Builtin.skipLoops), ("echo", Printing.echo),
    ("eval", Builtin.eval), ("exec", Builtin.exec), ("exit", Builtin.exit), ("export", Builtin.mark),
    ("false", Builtin.fail), ("fg", Builtin.foreground), ("getopts", Builtin.getopts),
    ("hash", Builtin.hash), ("jobs", Builtin.jobs), ("kill", Builtin.kill), ("local", Builtin.makeLocal),
    ("printf", Printing.printf), ("pwd", Builtin.pwd), ("read", Builtin.read), ("readonly", Builtin.mark),
    ("return", Builtin.leaveBody), ("set", Builtin.set), ("shift", Builtin.shift),
    ("test", Testing.run), ("times", Builtin.times), ("trap", Builtin.trap), ("true", Builtin.succeed),
    ("type", Builtin.type), ("ulimit", Builtin.ulimit), ("umask", Builtin.umask),
    ("unalias", Builtin.unalias), ("unset", Builtin.unset), ("wait", Builtin.wait)]

/-- Carry out a built-in command. A failure of one that is not special is only its status. -/
def callBuiltin (engine : Engine) (name : Octets) (isSpecial : Bool) (arguments : List Octets) :
    Run Nat := do
  match builtins.lookup name with
  | none => return 127
  | some builtin =>
    let outer := (← Run.shell).commandName
    let act : Run Nat := do
      Run.modifyShell fun shell => { shell with commandName := some name }
      let status ← builtin engine name arguments
      if (← Run.shell).outputFailed then
        Run.modifyShell fun shell => { shell with outputFailed := false }
        Run.complain s!"{name}: I/O error"
        return status ||| 1
      return status
    let result ←
      try pure (Except.ok (← act))
      catch interrupt => pure (.error interrupt)
    Run.modifyShell fun shell => { shell with commandName := outer }
    match result with
    | .ok status => return status
    | .error (.failure status) => if isSpecial then throw (.failure status) else return status
    | .error other => throw other

end Shell

end TestDaemon
