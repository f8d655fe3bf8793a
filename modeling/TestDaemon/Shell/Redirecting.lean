import TestDaemon.Shell.Engine

/-! # Redirections

The words of all redirections are expanded before the first of them is carried out. What the redirected
descriptors led to is kept, to be put back behind the command.
-/

namespace TestDaemon

namespace Shell

/-- A redirection with its word expanded. -/
inductive Target where
  | file (descriptor : Nat) (use : FileUse) (path : Octets)
  | duplicate (descriptor : Nat) (other : Option Nat)
  | text (descriptor : Nat) (text : Octets)
  | both (append : Bool) (path : Octets)

namespace Target

/-- The descriptors that are led elsewhere. -/
def descriptors : Target → List Nat
  | file descriptor .. | duplicate descriptor _ | text descriptor _ => [descriptor]
  | both .. => [1, 2]

end Target

namespace Redirection

/-- Refuse a descriptor like a mistake in the script, where the script has been read up to. -/
def refuseDescriptor {α : Type} : Run α := do
  Run.modifyShell fun shell => { shell with line := shell.readLine }
  Run.fail "Syntax error: Bad fd number"

/-- The descriptor that a word names; a dash stands for none. -/
def otherOf (text : Octets) : Run (Option Nat) := do
  match text.toList with
  | ['-'] => return none
  | [c] => if c.isDigit then return some (c.toNat - '0'.toNat) else refuseDescriptor
  | _ => refuseDescriptor

/-- A redirection with its word expanded. -/
def target (engine : Engine) (redirection : Redirection) : Run Target := do
  match redirection with
  | .file descriptor use name =>
    return .file descriptor use (← Expansion.text engine.substitute .text name)
  | .both append name => return .both append (← Expansion.text engine.substitute .text name)
  | .text descriptor word =>
    return .text descriptor ((← Expansion.text engine.substitute .text word) ++ "\n")
  | .duplicate descriptor word =>
    let name ← match Word.bareText? word with
      | some bare => pure bare
      | none => pure ((← Expansion.fields engine.substitute word).headD "")
    return .duplicate descriptor (← otherOf name)
  | .document descriptor number =>
    let (expands, word) := ((← Run.shell).documents[number]?).getD (false, [])
    let content ← do
      if expands then Expansion.text engine.substitute .document word
      else pure (Cell.plainText (word.filterMap fun part => match part with
        | .char c | .quoted c => some (Cell.octet c false)
        | _ => none))
    return .text descriptor content

/-- What is said of a file that cannot be opened. -/
def refusal (creates : Bool) (error : OsError) : Octets :=
  match error with
  | .notFound | .notDirectory => if creates then "Directory nonexistent" else "No such file"
  | error => error.description

/-- Lead a descriptor to a file. -/
def leadToFile (descriptor : Nat) (use : FileUse) (path : Octets) : Run Unit := do
  let opening : Act.Opening := match use with
    | .read => .toRead
    | .write | .clobber => .toWrite
    | .append => .toAppend
    | .readWrite => .toChange
  let protects := use = .write && (← Run.shell).hasOption 'C'
  match ← (Act.openPath { opening with refusesOld := protects } path : Act (Except OsError Nat)) with
  | .ok index => Act.lead descriptor index
  | .error error =>
    let verb := if opening.creates then "create" else "open"
    Run.fail s!"cannot {verb} {path}: {refusal opening.creates error}"

/-- Carry out a redirection. -/
def apply (target : Target) : Run Unit := do
  match target with
  | .file descriptor use path => leadToFile descriptor use path
  | .both append path =>
    leadToFile 1 (if append then .append else .write) path
    duplicate 2 1
  | .text descriptor content =>
    let pipe ← Act.newPipe none
    modify fun session =>
      { session with
        world := { session.world with
          pipes := session.world.pipes.modify pipe fun pipe => { pipe with data := Octets.toData content } } }
    Act.lead descriptor (← Act.register { channel := .source pipe, reads := true })
  | .duplicate descriptor none => Act.close descriptor
  | .duplicate descriptor (some other) => duplicate descriptor other
where
  duplicate (descriptor other : Nat) : Run Unit := do
    match ← (Act.openFile? other : Act (Option (Nat × OpenFile))) with
    | none => Run.fail s!"{other}: {OsError.badDescriptor.description}"
    | some (index, _) => Act.lead descriptor index

/-- What descriptors lead to. -/
def kept (targets : List Target) : Run (List (Nat × Option Nat)) := do
  let descriptors := (← get).world.process.descriptors
  return (targets.flatMap Target.descriptors).eraseDups.map fun descriptor =>
    (descriptor, descriptors.lookup descriptor)

/-- Lead descriptors back to where they led. -/
def putBack : List (Nat × Option Nat) → Run Unit
  | [] => return
  | (descriptor, some index) :: rest => do
    Act.lead descriptor index
    putBack rest
  | (descriptor, none) :: rest => do
    Act.close descriptor
    putBack rest

/-- Do something under redirections, which stay in force behind it if `stays` holds then. A redirection
that fails keeps the rest from being done; the result is then its status. -/
def under (targets : List Target) (stays : Run Bool) (onFailure : Nat → Run Nat) (act : Run Nat) :
    Run Nat := do
  if targets.isEmpty then act
  else
    let before ← kept targets
    let refused ←
      try
        targets.forM apply
        pure none
      catch interrupt =>
        match interrupt with
        | .failure status => pure (some status)
        | other => throw other
    match refused with
    | some status =>
      putBack before
      onFailure status
    | none =>
      let status ← try act catch interrupt =>
        putBack before
        throw interrupt
      if !(← stays) then putBack before
      return status

end Redirection

end Shell

end TestDaemon
