import TestDaemon.Machine.Octets
import TestDaemon.OsError

/-! # Disks

The nodes that a process can reach by paths: files, directories, links, devices and programs. A node is
known by its number, and keeps it as long as the disk is in use, whatever happens to the names that lead
to it. What a process may do with a node depends on the bits of its mode: on the first three of them for
a node of its own, and on the last three for one of the system.
-/

namespace TestDaemon

inductive Device where
  | null
  | zero
  | full
  | noise
  deriving DecidableEq, Repr

/-- What a node is. The directory above a directory is kept with it, and the root is above itself. -/
inductive Content where
  | file (data : ByteArray)
  | directory (entries : List (Octets × Nat)) (above : Nat)
  | link (target : Octets)
  | device (device : Device)
  | program (name : String)
  | queue (data : ByteArray)
  | descriptor (number : Nat)

/-- A node with its mode, whether it belongs to the processes, when it was changed, and how many names
lead to it. -/
structure Node where
  content : Content
  mode : Nat
  owned : Bool := true
  changed : Nat := 0
  names : Nat := 1

namespace Node

def missing : Node := ⟨.file .empty, 0, false, 0, 0⟩

def isDirectory (node : Node) : Bool := node.content matches .directory ..

def isFile (node : Node) : Bool := node.content matches .file _ | .program _

def isLink (node : Node) : Bool := node.content matches .link _

/-- Whether a process has one of the rights 4 (to read), 2 (to write) and 1 (to run or to search). -/
def permits (node : Node) (right : Nat) : Bool :=
  (if node.owned then node.mode / 64 else node.mode) &&& right != 0

/-- The octets in a node. -/
def data (node : Node) : ByteArray :=
  match node.content with
  | .file data => data
  | .queue data => data
  | .program _ => ⟨#[0x7F, 0x45, 0x4C, 0x46, 2, 1, 1, 0]⟩
  | _ => .empty

end Node

/-- The nodes by their numbers. The first one is the root. -/
structure Disk where
  nodes : Array Node

namespace Disk

def root : Nat := 0

def empty : Disk := ⟨#[⟨.directory [] root, 0o755, false, 0, 2⟩]⟩

def node (disk : Disk) (number : Nat) : Node := (disk.nodes[number]?).getD .missing

def update (disk : Disk) (number : Nat) (change : Node → Node) : Disk :=
  ⟨disk.nodes.modify number change⟩

/-- The entries of a directory. -/
def entries (disk : Disk) (number : Nat) : List (Octets × Nat) :=
  match (disk.node number).content with
  | .directory entries _ => entries
  | _ => []

def above (disk : Disk) (number : Nat) : Nat :=
  match (disk.node number).content with
  | .directory _ above => above
  | _ => root

/-- Change the entries of a directory at a time. -/
def withEntries (disk : Disk) (number time : Nat)
    (change : List (Octets × Nat) → List (Octets × Nat)) : Disk :=
  disk.update number fun node =>
    match node.content with
    | .directory entries above => { node with content := .directory (change entries) above, changed := time }
    | _ => node

/-! ## Paths -/

/-- The longest name and the longest path, in octets. -/
def nameLimit : Nat := 255

def pathLimit : Nat := 4095

/-- The most links that are followed on the way. -/
def linkLimit : Nat := 40

/-- The place of a name in a directory, with the node that is there, if any. -/
structure Place where
  directory : Nat
  name : Octets
  node? : Option Nat
  deriving Repr

/-- The names on a path, and whether it is marked as that of a directory. -/
def segments (path : Octets) : List Octets := (Octets.split '/' path).filter (· ≠ "")

def marksDirectory (path : Octets) : Bool := Octets.endsWith path "/"

/-- Go down names from a directory. `follow` tells whether a link at the end is followed. -/
def walk (disk : Disk) : (bound : Nat) → (links here : Nat) → (follow : Bool) → List Octets →
    Except OsError Place
  | 0, _, _, _, _ => .error .tooManyLinks
  | _ + 1, _, here, _, [] => .ok ⟨here, ".", some here⟩
  | bound + 1, links, here, follow, name :: rest =>
    if !(disk.node here).isDirectory then .error .notDirectory
    else if !(disk.node here).permits 1 then .error .accessDenied
    else if name = "." then
      if rest.isEmpty then .ok ⟨here, ".", some here⟩ else walk disk bound links here follow rest
    else if name = ".." then
      let above := disk.above here
      if rest.isEmpty then .ok ⟨above, ".", some above⟩ else walk disk bound links above follow rest
    else if nameLimit < name.length then .error .nameTooLong
    else match (disk.entries here).lookup name with
      | none => if rest.isEmpty then .ok ⟨here, name, none⟩ else .error .notFound
      | some number =>
        match (disk.node number).content with
        | .link target =>
          if rest.isEmpty && !follow then .ok ⟨here, name, some number⟩
          else if linkLimit ≤ links then .error .tooManyLinks
          else if target = "" then .error .notFound
          else
            let start := if Octets.startsWith target "/" then root else here
            walk disk bound (links + 1) start follow (segments target ++ rest)
        | _ =>
          if rest.isEmpty then .ok ⟨here, name, some number⟩ else walk disk bound links number follow rest

/-- The place that a path leads to from a directory. Every link adds at most one path to the way. -/
def locate (disk : Disk) (working : Nat) (path : Octets) (follow : Bool) : Except OsError Place := do
  if path = "" then throw .notFound
  if pathLimit < path.length then throw .nameTooLong
  let start := if Octets.startsWith path "/" then root else working
  let bound := (linkLimit + 1) * (pathLimit + 1)
  let place ← disk.walk bound 0 start (follow || marksDirectory path) (segments path)
  if marksDirectory path then
    match place.node? with
    | some number => if (disk.node number).isDirectory then return place else throw .notDirectory
    | none => return { place with name := place.name ++ "/" }
  return place

/-- The node that a path leads to; `follow` tells whether a link there is followed. -/
def find (disk : Disk) (working : Nat) (follow : Bool) (path : Octets) : Except OsError Nat := do
  match (← disk.locate working path follow).node? with
  | some number => return number
  | none => throw .notFound

/-- The path of a directory from the root, as far as it is known. -/
def pathOf (disk : Disk) : (bound number : Nat) → Octets
  | 0, _ => "/"
  | bound + 1, number =>
    if number = root then "/"
    else
      let above := disk.above number
      let name := ((disk.entries above).find? (·.2 == number)).map (·.1)
      let head := disk.pathOf bound above
      (if head = "/" then "" else head) ++ "/" ++ name.getD "?"

/-! ## Changes -/

/-- Whether names in a directory may be changed. -/
def mayChange (disk : Disk) (directory : Nat) : Bool :=
  (disk.node directory).permits 2 && (disk.node directory).permits 1

/-- Add a node under a new name. -/
def add (disk : Disk) (place : Place) (time : Nat) (node : Node) : Except OsError (Nat × Disk) :=
  if !disk.mayChange place.directory then .error .accessDenied
  else if (disk.node place.directory).names = 0 then .error .notFound
  else
    let number := disk.nodes.size
    let name := if marksDirectory place.name then String.ofList place.name.toList.dropLast else place.name
    let disk : Disk := ⟨disk.nodes.push { node with changed := time }⟩
    .ok (number, disk.withEntries place.directory time (· ++ [(name, number)]))

/-- Make a directory at a place. -/
def addDirectory (disk : Disk) (place : Place) (time mode : Nat) : Except OsError (Nat × Disk) :=
  match place.node? with
  | some _ => .error .alreadyExists
  | none => disk.add place time ⟨.directory [] place.directory, mode, true, time, 1⟩

/-- Take a name away from a directory. -/
def removeName (disk : Disk) (place : Place) (time : Nat) : Except OsError Disk :=
  match place.node? with
  | none => .error .notFound
  | some number =>
    if !disk.mayChange place.directory then .error .accessDenied
    else
      let disk := disk.withEntries place.directory time (·.filter (·.1 != place.name))
      .ok (disk.update number fun node => { node with names := node.names - 1 })

/-- Remove what is not a directory. -/
def removeFile (disk : Disk) (place : Place) (time : Nat) : Except OsError Disk :=
  match place.node? with
  | none => .error .notFound
  | some number =>
    if (disk.node number).isDirectory then .error .isDirectory else disk.removeName place time

/-- Remove an empty directory. -/
def removeDirectory (disk : Disk) (place : Place) (time : Nat) : Except OsError Disk :=
  match place.node? with
  | none => .error .notFound
  | some number =>
    if !(disk.node number).isDirectory then .error .notDirectory
    else if !(disk.entries number).isEmpty then .error .notEmpty
    else if place.name = "." then .error .invalidArgument
    else do
      let disk ← disk.removeName place time
      return disk.update number fun node => { node with names := 0 }

/-- Whether a directory is another one or lies below it. -/
def isBelow (disk : Disk) : (bound directory other : Nat) → Bool
  | 0, _, _ => false
  | bound + 1, directory, other =>
    directory == other || (directory != root && disk.isBelow bound (disk.above directory) other)

/-- Give the node at a place another name. -/
def rename (disk : Disk) (source target : Place) (time : Nat) : Except OsError Disk := do
  let some number := source.node? | throw .notFound
  let isDirectory := (disk.node number).isDirectory
  if isDirectory && disk.isBelow disk.nodes.size target.directory number then throw .invalidArgument
  match target.node? with
  | none => pure ()
  | some other =>
    if other = number then return disk
    if isDirectory && !(disk.node other).isDirectory then throw .notDirectory
    if !isDirectory && (disk.node other).isDirectory then throw .isDirectory
    if isDirectory && !(disk.entries other).isEmpty then throw .notEmpty
  if !disk.mayChange source.directory || !disk.mayChange target.directory then throw .accessDenied
  let name := if marksDirectory target.name then String.ofList target.name.toList.dropLast else target.name
  let disk := disk.withEntries source.directory time (·.filter (·.1 != source.name))
  let disk := disk.withEntries target.directory time (fun entries =>
    entries.filter (·.1 != name) ++ [(name, number)])
  return disk.update number fun node =>
    match node.content with
    | .directory entries _ => { node with content := .directory entries target.directory }
    | _ => node

/-- Give the node at a place one more name. -/
def addName (disk : Disk) (number : Nat) (place : Place) (time : Nat) : Except OsError Disk := do
  if (disk.node number).isDirectory then throw .notPermitted
  if place.node?.isSome then throw .alreadyExists
  if !disk.mayChange place.directory then throw .accessDenied
  let disk := disk.withEntries place.directory time (· ++ [(place.name, number)])
  return disk.update number fun node => { node with names := node.names + 1 }

/-- Change the mode of a node. -/
def changeMode (disk : Disk) (number mode : Nat) : Except OsError Disk :=
  if (disk.node number).owned then .ok (disk.update number fun node => { node with mode })
  else .error .notPermitted

/-- Write octets into a file from an offset on; a gap before it is filled with zeros. -/
def splice (data piece : ByteArray) (offset : Nat) : ByteArray :=
  if offset = data.size then data ++ piece
  else
    let padded := if data.size < offset then data ++ ⟨Array.replicate (offset - data.size) 0⟩ else data
    padded.extract 0 offset ++ piece ++ padded.extract (offset + piece.size) padded.size

def writeAt (disk : Disk) (number time offset : Nat) (piece : ByteArray) : Disk :=
  disk.update number fun node =>
    match node.content with
    | .file data => { node with content := .file (splice data piece offset), changed := time }
    | .queue data => { node with content := .queue (data ++ piece), changed := time }
    | _ => node

/-- Cut a file off, or fill it up with zeros, to a size. -/
def resize (disk : Disk) (number time size : Nat) : Disk :=
  disk.update number fun node =>
    match node.content with
    | .file data =>
      let kept := data.extract 0 size
      let content := .file (kept ++ ⟨Array.replicate (size - kept.size) 0⟩)
      { node with content, changed := time }
    | _ => node

end Disk

end TestDaemon
