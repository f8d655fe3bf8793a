import TestDaemon.Archive.Path
import TestDaemon.FileTree

/-! # Access by written paths

A written path leads from a working directory through the tree, name by name. The directory above the
root is the root.
-/

namespace TestDaemon

namespace FileTree

/-- The segments of a written path, with the directory that it starts from. -/
def beginning (working : TreePath) (path : String) : TreePath × List String :=
  let segments := (Path.segmentsFrom [] path.toList).map String.ofList
  if Path.isAbsolute path then ([], segments) else (working, segments)

/-- Go from a node to its parent, to itself or to a child. The child need not be there. -/
def descend (tree : FileTree) (here : TreePath) (segment : String) : Except OsError TreePath :=
  match tree.get? here with
  | none => .error .notFound
  | some (.file ..) => .error .notDirectory
  | some .directory =>
    if segment = "" ∨ segment = "." then .ok here
    else if segment = ".." then .ok here.dropLast
    else if isTooLong segment then .error .nameTooLong
    else .ok (here ++ [segment])

/-- The place that a written path leads to. Only its last name may be missing from the tree. -/
def locate (tree : FileTree) (working : TreePath) (path : String) : Except OsError TreePath :=
  if path = "" then .error .notFound
  else
    let (start, segments) := beginning working path
    segments.foldlM tree.descend start

/-- The node that a written path leads to. -/
def lookup (tree : FileTree) (working : TreePath) (path : String) :
    Except OsError (TreePath × FileNode) := do
  let place ← tree.locate working path
  match tree.get? place with
  | some node => return (place, node)
  | none => throw .notFound

end FileTree

end TestDaemon
