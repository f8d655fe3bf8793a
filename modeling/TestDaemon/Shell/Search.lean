import TestDaemon.Machine.Inspection
import TestDaemon.Shell.State

/-! # Finding commands

A name with a slash is a path. Every other name is first that of a function, then that of a built-in
command, and then that of a program in one of the directories in which programs are looked for.
-/

namespace TestDaemon

namespace Shell

/-- The built-in commands that are not special. -/
def regularNames : List String :=
  ["[", "alias", "bg", "cd", "chdir", "command", "echo", "false", "fg", "getopts", "hash", "jobs", "kill",
    "printf", "pwd", "read", "test", "true", "type", "ulimit", "umask", "unalias", "wait"]

/-- The built-in commands whose arguments may be assignments. -/
def assigningNames : List String := ["alias", "export", "local", "readonly"]

/-- What a name stands for. -/
inductive Found where
  | function (function : Function)
  | builtin (isSpecial : Bool)
  | program (path : Octets)
  | missing (error : OsError)

namespace Search

/-- The directories in which programs are looked for by default. -/
def standardPath : Octets := "/usr/local/sbin:/usr/local/bin:/usr/sbin:/usr/bin:/sbin:/bin"

/-- The program of a name in the first directory that has one. -/
def inDirectories (name : Octets) : List Octets → OsError → Act (Except OsError Octets)
  | [], error => return .error error
  | directory :: rest, error => do
    let path := if directory = "" then name else directory ++ "/" ++ name
    match ← Act.node? path true with
    | .ok node =>
      if node.isFile && node.permits 1 then return .ok path
      inDirectories name rest .accessDenied
    | .error .notFound | .error .notDirectory => inDirectories name rest error
    | .error other => inDirectories name rest other

/-- The program of a name. -/
def program (path : Octets) (name : Octets) : Act (Except OsError Octets) :=
  inDirectories name (if path = "" then [] else Octets.split ':' path) .notFound

/-- What a name stands for, where functions may be left out and another list of directories used. -/
def find (name : Octets) (withFunctions : Bool) (path : Option Octets) : Run Found := do
  if name.toList.contains '/' then return .program name
  let shell ← Run.shell
  match if withFunctions then shell.functions.lookup name else none with
  | some function => return .function function
  | none =>
    if specialNames.contains name then return .builtin true
    if regularNames.contains name then return .builtin false
    match ← program (path.getD ((shell.value? "PATH").getD "")) name with
    | .ok path => return .program path
    | .error error => return .missing error

end Search

end Shell

end TestDaemon
