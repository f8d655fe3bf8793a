import TestDaemon.Bytes
import TestDaemon.CommandLine.Arguments
import TestDaemon.OsError

/-! # Reports of programs

What a program leaves behind: its exit code and what it wrote to its output and to its error output. A
broken command line has the exit code 2, every other failure has 1.
-/

namespace TestDaemon

namespace CommandLine

structure Report where
  code : UInt32
  output : String
  errors : String
  deriving DecidableEq, Repr

/-- The name of a program, and the lines that tell how it is used. -/
structure Program where
  name : String
  usage : List String

def version : String := "0.2.0"

def Program.usageText (program : Program) : String :=
  String.join (program.usage.map fun line => "Usage: " ++ program.name ++ " " ++ line ++ "\n")

/-- The report of a command line that is not carried out. -/
def Program.dismiss (program : Program) : Dismissal → Report
  | .usage => ⟨2, "", program.usageText⟩
  | .help => ⟨0, program.usageText, ""⟩
  | .version => ⟨0, program.name ++ " " ++ version ++ "\n", ""⟩

/-- The files that a program can read, by their paths. -/
abbrev FileReader := String → Except OsError Bytes

def anyText (_ : String) : Bool := true

/-- The test for the name of a file. -/
def isFileName (text : String) : Bool := text != ""

end CommandLine

end TestDaemon
