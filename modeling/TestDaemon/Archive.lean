import TestDaemon.Bytes
import TestDaemon.Dictionary

/-! # Archives

A deployable bundle: a name, which is also its ID, and files under paths. The files stand in the
order of their paths.
-/

namespace TestDaemon

/-- The contents of a file and its recorded permission bits, if any. -/
structure ArchiveFile where
  data : Bytes
  mode : Option UInt32
  deriving DecidableEq, Repr

structure Archive where
  name : String
  files : Dictionary ArchiveFile

namespace Archive

def new (name : String) : Archive := ⟨name, .empty⟩

/-- The ID under which the archive is deployed. -/
def id (archive : Archive) : String := archive.name

def insert (archive : Archive) (path : String) (data : Bytes) (mode : Option UInt32) : Archive :=
  { archive with files := archive.files.insert path ⟨data, mode⟩ }

def insertFile (archive : Archive) (path : String) (data : Bytes) : Archive :=
  archive.insert path data none

def insertExecutable (archive : Archive) (path : String) (data : Bytes) : Archive :=
  archive.insert path data (some 0o755)

def get? (archive : Archive) (path : String) : Option ArchiveFile := archive.files.get? path

def contains (archive : Archive) (path : String) : Bool := archive.files.contains path

def paths (archive : Archive) : List String := archive.files.keys

def size (archive : Archive) : Nat := archive.files.size

def isEmpty (archive : Archive) : Bool := archive.files.isEmpty

/-- A class name with its dots read as slashes. -/
def dottedPath (className : String) : String :=
  String.ofList (className.toList.map fun c => if c = '.' then '/' else c)

/-- The path of the file that implements a test class: its name itself, or else its dotted path. -/
def pathOfClass? (archive : Archive) (className : String) : Option String :=
  if archive.contains className then some className
  else if archive.contains (dottedPath className) then some (dottedPath className)
  else none

end Archive

end TestDaemon
