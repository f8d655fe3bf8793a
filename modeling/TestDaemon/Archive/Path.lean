import TestDaemon.Error

/-! # Paths in archives

A path names a file by components between slashes. Empty components and `.` mean nothing, `..` goes
one level up, and a slash at the front leads to the root of the file system.
-/

namespace TestDaemon

def Error.escapingEntry (path : String) : Error :=
  ⟨.deploy, "entry " ++ path ++ " escapes the archive root"⟩

namespace Path

inductive Component where
  | root
  | parent
  | normal (name : String)
  deriving DecidableEq, Repr

/-- The texts between the slashes of a path; `run` holds the present one, reversed. -/
def segmentsFrom (run : List Char) : List Char → List (List Char)
  | [] => [run.reverse]
  | c :: rest =>
    if c = '/' then run.reverse :: segmentsFrom [] rest else segmentsFrom (c :: run) rest

/-- What one segment means. -/
def ofSegment? (segment : List Char) : Option Component :=
  if segment = [] ∨ segment = ['.'] then none
  else if segment = ['.', '.'] then some .parent
  else some (.normal (String.ofList segment))

def isAbsolute (path : String) : Bool := path.toList.head? == some '/'

def components (path : String) : List Component :=
  let steps := (segmentsFrom [] path.toList).filterMap ofSegment?
  if isAbsolute path then .root :: steps else steps

/-- Whether a walk that has gone `depth` levels down never goes above its start. -/
def staysBelow : (depth : Nat) → List Component → Bool
  | _, [] => true
  | _, .root :: _ => false
  | 0, .parent :: _ => false
  | depth + 1, .parent :: rest => staysBelow depth rest
  | depth, .normal _ :: rest => staysBelow (depth + 1) rest

/-- Whether a path holds no NUL and never leaves the directory it starts from. -/
def isEnclosed (path : String) : Bool :=
  !path.toList.contains '\x00' && staysBelow 0 (components path)

/-- Whether a path is marked as that of a directory. -/
def isDirectory (path : String) : Bool :=
  path.toList.getLast? == some '/' || path.toList.getLast? == some '\\'

end Path

end TestDaemon
