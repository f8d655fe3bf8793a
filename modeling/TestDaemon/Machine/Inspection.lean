import TestDaemon.Machine.World

/-! # What a file is

The questions about files that tests may ask, by their letters.
-/

namespace TestDaemon

namespace Inspection

/-- The node at a path. A link at its end is followed. -/
def node? (path : Octets) : Act (Option Node) := do
  match ← Act.node? path true with
  | .ok node => return some node
  | .error _ => return none

/-- The number of the node at a path. -/
def number? (path : Octets) : Act (Option Nat) := do
  match ← Act.locate path true with
  | .ok place => return place.node?
  | .error _ => return none

def linkNode? (path : Octets) : Act (Option Node) := do
  match ← Act.node? path false with
  | .ok node => return some node
  | .error _ => return none

/-- Whether a node is of the kind, or has the property, that a letter stands for. -/
def holds (letter : Char) (node : Node) : Bool :=
  match letter with
  | 'a' | 'e' => true
  | 'f' => node.isFile
  | 'd' => node.isDirectory
  | 'r' => node.permits 4
  | 'w' => node.permits 2
  | 'x' => node.permits 1
  | 's' => node.isDirectory || !node.data.isEmpty
  | 'c' => (node.content matches .device _)
  | 'p' => (node.content matches .queue _)
  | 'u' => node.mode &&& 0o4000 != 0
  | 'g' => node.mode &&& 0o2000 != 0
  | 'k' => node.mode &&& 0o1000 != 0
  | 'O' | 'G' => node.owned
  | _ => false

/-- The letters of the questions about files. -/
def letters : String := "aefdrwxscpugkOGhLbS"

/-- The answer to a question about the file at a path. -/
def ask (letter : Char) (path : Octets) : Act Bool := do
  if letter = 'h' || letter = 'L' then return (← linkNode? path).any Node.isLink
  return (← node? path).any (holds letter)

/-- Whether one file was changed after another one; a file that is not there is older than all. -/
def isNewer (path other : Octets) : Act Bool := do
  match ← node? path, ← node? other with
  | some a, some b => return b.changed < a.changed
  | _, _ => return false

def isSame (path other : Octets) : Act Bool := do
  match ← number? path, ← number? other with
  | some a, some b => return a == b
  | _, _ => return false

end Inspection

end TestDaemon
