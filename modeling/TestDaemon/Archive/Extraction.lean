import TestDaemon.Archive
import TestDaemon.Archive.Path
import TestDaemon.FileTree

/-! # Extraction

The files of an archive are written below a root in the order of their paths, up to the first that
fails. A path with a root or a `..` is refused before anything is written for it. What is done for a
file is a list of actions on the tree.
-/

namespace TestDaemon

def Error.emptyEntryPath (path : String) : Error :=
  ⟨.deploy, "entry " ++ path ++ " has an empty path"⟩

/-- A change to a file tree. -/
inductive TreeAction where
  | makeDirectories (path : TreePath)
  | writeFile (path : TreePath) (data : Bytes)
  | setMode (path : TreePath) (mode : UInt32)
  deriving DecidableEq, Repr

namespace TreeAction

def path : TreeAction → TreePath
  | makeDirectories path => path
  | writeFile path _ => path
  | setMode path _ => path

/-- What an action does to a tree that takes its path. -/
def apply (tree : FileTree) : TreeAction → Except OsError Unit × FileTree
  | makeDirectories path => tree.makeDirectories [] path
  | writeFile path data => tree.afterChange (tree.writeFile path data)
  | setMode path mode => tree.afterChange (tree.setMode path mode)

/-- A NUL in a name and a path that is too long are refused before the tree is touched. -/
def refusal? (tree : FileTree) (path : TreePath) : Option Error :=
  if path.any (·.toList.contains '\x00') then some .nulInName
  else if tree.isTooLongPath path then some (.ofOs .nameTooLong)
  else none

@[simp] theorem refusal?_set (tree : FileTree) (place : TreePath) (node : FileNode) (path : TreePath) :
    refusal? (tree.set place node) path = refusal? tree path := rfl

def perform (tree : FileTree) (action : TreeAction) : Except Error Unit × FileTree :=
  match refusal? tree action.path with
  | some error => (.error error, tree)
  | none => ((action.apply tree).1.mapError .ofOs, (action.apply tree).2)

end TreeAction

namespace Path

/-- The names on a path, if it goes down only. -/
def names? : List Component → Option TreePath
  | [] => some []
  | .normal name :: rest => (names? rest).map (name :: ·)
  | _ :: _ => none

end Path

namespace Archive

/-- Where a file of an archive is written, below the root. -/
def target (path : String) : Except Error TreePath :=
  match Path.names? (Path.components path) with
  | none => .error (.escapingEntry path)
  | some [] => .error (.emptyEntryPath path)
  | some names => .ok names

/-- What is done for a file: the directories above it, its data, and its recorded permissions. -/
def actions (target : TreePath) (file : ArchiveFile) : List TreeAction :=
  .makeDirectories target.dropLast :: .writeFile target file.data ::
    (file.mode.map (.setMode target)).toList

/-- Perform actions up to the first that fails. -/
def performAll (tree : FileTree) : List TreeAction → Except Error Unit × FileTree
  | [] => (.ok (), tree)
  | action :: rest =>
    match action.perform tree with
    | (.error error, tree) => (.error error, tree)
    | (.ok (), tree) => performAll tree rest

def extractFile (tree : FileTree) (path : String) (file : ArchiveFile) :
    Except Error Unit × FileTree :=
  match target path with
  | .error error => (.error error, tree)
  | .ok names => performAll tree (actions names file)

/-- Extract files in order, up to the first that fails. -/
def extractFiles (tree : FileTree) : List (String × ArchiveFile) → Except Error Unit × FileTree
  | [] => (.ok (), tree)
  | (path, file) :: rest =>
    match extractFile tree path file with
    | (.error error, tree) => (.error error, tree)
    | (.ok (), tree) => extractFiles tree rest

/-- Extract an archive into a tree. -/
def extract (archive : Archive) (tree : FileTree) : Except Error Unit × FileTree :=
  extractFiles tree archive.files.toList

end Archive

end TestDaemon
