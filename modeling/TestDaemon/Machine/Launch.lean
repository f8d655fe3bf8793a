import TestDaemon.Machine.World

/-! # Launching programs

A file is launched if it is a program, or if its first line names another file to be launched in its
place, with at most one argument of its own and the path of the file in front of the others. Only the
first octets of a file are looked at.
-/

namespace TestDaemon

namespace Launch

/-- How many octets of a file are looked at. -/
def headSize : Nat := 256

/-- How many files may stand in for others. -/
def depthLimit : Nat := 5

def isGap (byte : UInt8) : Bool := byte == 0x20 || byte == 0x09

/-- The interpreter of a file and its own argument. -/
structure Interpreter where
  path : Octets
  argument : Option Octets
  deriving DecidableEq, Repr

/-- Whether the octets behind the mark hold a whole path: something that is no gap, and a gap or a zero
behind it. -/
def hasWholePath (octets : Bytes) : Bool :=
  let path := octets.dropWhile isGap
  !path.isEmpty && path.any fun byte => isGap byte || byte == 0

/-- The interpreter in the first line of a file that starts with the mark, padded with zeros to the size
that is looked at. Without a line end the line is as long as that size, and its path must not be cut. -/
def interpreterOf (data : ByteArray) : Except OsError Interpreter :=
  let head := (data.extract 0 headSize).toList
  let head := head ++ List.replicate (headSize - head.length) 0
  let octets := head.drop 2
  let line := octets.takeWhile (· != 0x0A)
  if line.length = octets.length && !hasWholePath line then .error .badFormat
  else
    let line := if line.length = octets.length then line.dropLast else line
    let trimmed := (line.reverse.dropWhile isGap).reverse
    let start := trimmed.dropWhile isGap
    if start.isEmpty then .error .badFormat
    else
      let path := start.takeWhile fun byte => !isGap byte && byte != 0
      let rest := (start.drop path.length).dropWhile isGap
      let argument := rest.takeWhile (· != 0)
      let hasArgument := (start.drop path.length).head?.any isGap && !rest.isEmpty
      .ok ⟨Octets.ofBytes path, if hasArgument then some (Octets.ofBytes argument) else none⟩

/-- Whether a file starts with the mark of a script. -/
def isScript (data : ByteArray) : Bool := data[0]? == some 0x23 && data[1]? == some 0x21

/-- A program of the system, with the name that it was launched under and its arguments. -/
structure Started where
  program : String
  name : Octets
  arguments : List Octets

mutual

/-- The program that the data of a file at a path lead to. -/
def ofData : (depth : Nat) → (data : ByteArray) → (path : Octets) → (arguments : List Octets) →
    Act (Except OsError Started)
  | 0, _, _, _ => return .error .tooManyLinks
  | depth + 1, data, path, arguments => do
    if !isScript data then return .error .badFormat
    match interpreterOf data with
    | .error error => return .error error
    | .ok interpreter =>
      if interpreter.path = "" then return .error .accessDenied
      ofPath depth interpreter.path interpreter.path (interpreter.argument.toList ++ path :: arguments)

/-- The program that a path leads to. -/
def ofPath : (depth : Nat) → (path name : Octets) → (arguments : List Octets) →
    Act (Except OsError Started)
  | 0, _, _, _ => return .error .tooManyLinks
  | depth + 1, path, name, arguments => do
    match ← Act.node? path true with
    | .error error => return .error error
    | .ok node =>
      if !node.isFile || !node.permits 1 then return .error .accessDenied
      match node.content with
      | .program program => return .ok ⟨program, name, arguments⟩
      | _ => ofData depth node.data path arguments

end

/-- More than the depth of any launch that is not refused for its depth. -/
def bound : Nat := 2 * depthLimit + 2

end Launch

end TestDaemon
