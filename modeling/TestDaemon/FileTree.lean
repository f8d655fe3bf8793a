import TestDaemon.Bytes
import TestDaemon.OsError
import TestDaemon.Text.Utf8

/-! # File trees

The files and directories below a root directory that is always there; the directories above it are no
part of the tree. A path is a list of names, and the tree is known by what it has at each path. A name has
at most 255 octets, and a path as the system sees it, with that of the root before it, at most 4095. A file
is created with permissions 0o644, and is written again only if its owner may.
-/

namespace TestDaemon

abbrev TreePath := List String

inductive FileNode where
  | file (data : Bytes) (mode : UInt32)
  | directory
  deriving DecidableEq, Repr

structure FileTree where
  nodes : List (TreePath × FileNode)
  /-- The octets that the path of the root takes. -/
  rootLength : Nat

namespace FileTree

/-- The octets that the path of a fresh temporary directory takes, such as `/tmp/.tmpAbCdEf`. -/
def temporaryLength : Nat := 15

/-- A root with nothing below it. -/
def empty (rootLength : Nat := temporaryLength) : FileTree := ⟨[], rootLength⟩

/-- The longest name, in octets. -/
def nameLimit : Nat := 255

/-- The longest path, in octets. -/
def pathLimit : Nat := 4095

/-- The permissions of a new file. -/
def newFileMode : UInt32 := 0o644

def isTooLong (name : String) : Bool := nameLimit < name.utf8ByteSize

/-- Whether a path is too long to be given to the system. -/
def isTooLongPath (tree : FileTree) (path : TreePath) : Bool :=
  pathLimit < path.foldl (fun length name => length + 1 + name.utf8ByteSize) tree.rootLength

def get? (tree : FileTree) (path : TreePath) : Option FileNode :=
  if path = [] then some .directory else tree.nodes.lookup path

/-- The tree with another node at a path. -/
def set (tree : FileTree) (path : TreePath) (node : FileNode) : FileTree :=
  { tree with nodes := (path, node) :: tree.nodes.filter (·.1 != path) }

/-- The tree with a node at a path that had none. -/
def add (tree : FileTree) (path : TreePath) (node : FileNode) : FileTree :=
  { tree with nodes := (path, node) :: tree.nodes }

/-- Make the directories on the way from `above` down the given names, none of which is there. Those above
a name that is refused stay. -/
def addDirectories (tree : FileTree) (above : TreePath) : TreePath → Except OsError Unit × FileTree
  | [] => (.ok (), tree)
  | name :: rest =>
    let path := above ++ [name]
    if isTooLong name then (.error .nameTooLong, tree)
    else (tree.add path .directory).addDirectories path rest

/-- Make the directories on the way from `above` down the given names, where they are missing. Nothing
is below a missing one. -/
def makeDirectories (tree : FileTree) (above : TreePath) : TreePath → Except OsError Unit × FileTree
  | [] => (.ok (), tree)
  | name :: rest =>
    let path := above ++ [name]
    if isTooLong name then (.error .nameTooLong, tree)
    else match tree.get? path with
      | some .directory => tree.makeDirectories path rest
      | some (.file ..) => (.error (if rest.isEmpty then .alreadyExists else .notDirectory), tree)
      | none => tree.addDirectories above (name :: rest)

/-- Create a file, or replace the data of one. -/
def writeFile (tree : FileTree) (path : TreePath) (data : Bytes) : Except OsError FileTree :=
  if path.any isTooLong then .error .nameTooLong
  else match tree.get? path.dropLast with
    | none => .error .notFound
    | some (.file ..) => .error .notDirectory
    | some .directory =>
      match tree.get? path with
      | some .directory => .error .isDirectory
      | some (.file _ mode) =>
        if mode &&& 0o200 = 0 then .error .accessDenied else .ok (tree.set path (.file data mode))
      | none => .ok (tree.set path (.file data newFileMode))

/-- Change the permissions of a file. -/
def setMode (tree : FileTree) (path : TreePath) (mode : UInt32) : Except OsError FileTree :=
  match tree.get? path with
  | some (.file data _) => .ok (tree.set path (.file data (mode &&& 0o7777)))
  | some .directory => .ok tree
  | none => .error .notFound

/-- What a change comes to that is made in full or not at all. -/
def afterChange (tree : FileTree) : Except OsError FileTree → Except OsError Unit × FileTree
  | .error error => (.error error, tree)
  | .ok changed => (.ok (), changed)

/-- The regular files, each with its data and permissions. -/
def files (tree : FileTree) : List (TreePath × Bytes × UInt32) :=
  tree.nodes.filterMap fun (path, node) =>
    match node with
    | .file data mode => some (path, data, mode)
    | .directory => none

def isExecutable (mode : UInt32) : Bool := mode &&& 0o111 != 0

@[simp] theorem get?_nil (tree : FileTree) : tree.get? [] = some .directory := rfl

theorem lookup_filter_ne {nodes : List (TreePath × FileNode)} {path other : TreePath}
    (different : other ≠ path) : (nodes.filter (·.1 != path)).lookup other = nodes.lookup other := by
  induction nodes with
  | nil => rfl
  | cons pair rest ih =>
    obtain ⟨key, node⟩ := pair
    by_cases same : key = path
    · have : (other == key) = false := by simp [same, different]
      simp [same, List.lookup_cons, same ▸ this, ih]
    · simp only [bne_iff_ne, ne_eq, same, not_false_eq_true, List.filter_cons_of_pos, List.lookup_cons, ih]

theorem get?_set (tree : FileTree) {path : TreePath} (below : path ≠ []) (other : TreePath)
    (node : FileNode) :
    (tree.set path node).get? other = if other = path then some node else tree.get? other := by
  by_cases same : other = path
  · subst same
    simp [get?, set, below]
  · have : (other == path) = false := by simp [same]
    by_cases root : other = []
    · simp [get?, root, Ne.symm below]
    · simp [get?, set, root, same, List.lookup_cons, this, lookup_filter_ne same]

theorem get?_add (tree : FileTree) {path : TreePath} (below : path ≠ []) (other : TreePath)
    (node : FileNode) :
    (tree.add path node).get? other = if other = path then some node else tree.get? other := by
  by_cases same : other = path
  · subst same
    simp [get?, add, below]
  · have : (other == path) = false := by simp [same]
    by_cases root : other = []
    · simp [get?, root, Ne.symm below]
    · simp [get?, add, root, same, List.lookup_cons, this]

end FileTree

end TestDaemon
