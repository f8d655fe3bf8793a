import TestDaemon.Machine.Disk
import TestDaemon.Machine.Signal

/-! # Processes and their surroundings

What processes share: the disk, the open files, the pipes between them, the signals on their way, a clock
that only sleeping moves, and what has been written to the error output of the first process. One process
runs at a time; a number of steps bounds them all.
-/

namespace TestDaemon

/-- How a process ended. -/
inductive ProcessEnd where
  | exited (status : Nat)
  | killed (signal : Signal)
  deriving DecidableEq, Repr

/-- The status that stands for the end of a process in the process that started it. -/
def ProcessEnd.status : ProcessEnd → Nat
  | exited status => status
  | killed signal => signal.status

/-- The variables that a process passes to the programs that it starts. -/
abbrev Environment := List (Octets × Octets)

/-- Where the octets of an open file come from or go to. -/
inductive Channel where
  | node (number : Nat)
  | device (device : Device)
  | source (pipe : Nat)
  | sink (pipe : Nat)
  | output
  | errors
  deriving DecidableEq, Repr

/-- An open file, which several descriptors may share, and how far it has been read or written. -/
structure OpenFile where
  channel : Channel
  offset : Nat := 0
  reads : Bool := false
  writes : Bool := false
  appends : Bool := false

/-- A pipe from a process to one that runs after it. It holds `limit` octets; a process that writes more
cannot go on while nobody reads. `closedAt` is when the last writer ended. -/
structure Pipe where
  data : ByteArray := .empty
  taken : Nat := 0
  limit : Option Nat := none
  isFull : Bool := false
  closedAt : Nat := 0

/-- Octets on the error output, when they were written and by which job in the background. -/
structure Writing where
  time : Nat
  job : Nat
  data : ByteArray

/-- A signal on its way to a process, from a time on. -/
structure Sending where
  process : Nat
  signal : Signal
  time : Nat

/-- A process with the processes above it, the nearest first, its working directory, the open files of its
descriptors, the bits that new files do not get, and the signals that it takes no notice of. -/
structure Process where
  number : Nat
  above : List Nat
  working : Nat
  descriptors : List (Nat × Nat)
  mask : Nat
  ignored : List Signal

/-- All that processes share, and the process that runs. The steps that are left bound them all. -/
structure World where
  disk : Disk
  opened : Array OpenFile
  pipes : Array Pipe
  written : Array Writing
  signals : List Sending
  clock : Nat
  nextProcess : Nat
  job : Nat
  steps : Nat
  process : Process

/-- What keeps a process from going on: its end, with a status or by a signal; the failure of a shell,
which ends it unless the shell goes on with a status; a pipe that has to be filled further before it can
be read; or the bound of all processes. -/
inductive Interrupt where
  | exit (status : Nat)
  | failure (status : Nat)
  | killed (signal : Signal)
  | starved (pipe : Nat)
  | endless
  deriving DecidableEq, Repr

/-- What a process does. -/
abbrev Act := EStateM Interrupt World

namespace Act

/-- Take one of the steps that are left. -/
def step : Act Unit := do
  let world ← get
  if world.steps = 0 then throw .endless else set { world with steps := world.steps - 1 }

def disk : Act Disk := return (← get).disk

def working : Act Nat := return (← get).process.working

def now : Act Nat := return (← get).clock

/-- Do something with the disk that may be refused. -/
def onDisk {α : Type} (change : Disk → Nat → Except OsError (α × Disk)) : Act (Except OsError α) := do
  let world ← get
  match change world.disk world.clock with
  | .error error => return .error error
  | .ok (value, disk) =>
    set { world with disk }
    return .ok value

/-- The place that a path leads to from the working directory. -/
def locate (path : Octets) (follow : Bool) : Act (Except OsError Disk.Place) :=
  return (← disk).locate (← working) path follow

/-- The node that a path leads to from the working directory. -/
def node? (path : Octets) (follow : Bool) : Act (Except OsError Node) := do
  let disk ← disk
  return (disk.find (← working) follow path).map disk.node

/-! ## Open files -/

/-- The open file of a descriptor. -/
def openFile? (descriptor : Nat) : Act (Option (Nat × OpenFile)) := do
  let world ← get
  return do
    let index ← world.process.descriptors.lookup descriptor
    let file ← world.opened[index]?
    return (index, file)

def isOpen (descriptor : Nat) : Act Bool := return (← openFile? descriptor).isSome

/-- Register an open file. -/
def register (file : OpenFile) : Act Nat :=
  modifyGet fun world => (world.opened.size, { world with opened := world.opened.push file })

def modifyProcess (change : Process → Process) : Act Unit :=
  modify fun world => { world with process := change world.process }

/-- Lead a descriptor to an open file. -/
def lead (descriptor index : Nat) : Act Unit :=
  modifyProcess fun process =>
    { process with
      descriptors := (descriptor, index) :: process.descriptors.filter (·.1 != descriptor) }

def close (descriptor : Nat) : Act Unit :=
  modifyProcess fun process =>
    { process with descriptors := process.descriptors.filter (·.1 != descriptor) }

/-- How a file is opened. -/
structure Opening where
  reads : Bool := false
  writes : Bool := false
  appends : Bool := false
  creates : Bool := false
  empties : Bool := false
  refusesOld : Bool := false

namespace Opening

def toRead : Opening := { reads := true }

def toWrite : Opening := { writes := true, creates := true, empties := true }

def toAppend : Opening := { writes := true, creates := true, appends := true }

def toChange : Opening := { reads := true, writes := true, creates := true }

/-- Whether a node permits it. -/
def isPermitted (opening : Opening) (node : Node) : Bool :=
  (!opening.reads || node.permits 4) && (!opening.writes || node.permits 2)

end Opening

/-- The open file for a node. -/
def openNode (opening : Opening) (number : Nat) : Act (Except OsError Nat) := do
  let world ← get
  let node := world.disk.node number
  let file (channel : Channel) : OpenFile :=
    { channel, reads := opening.reads, writes := opening.writes, appends := opening.appends }
  match node.content with
  | .directory .. =>
    if opening.writes then return .error .isDirectory
    else if !opening.isPermitted node then return .error .accessDenied
    else return .ok (← register (file (.node number)))
  | .device device =>
    if !opening.isPermitted node then return .error .accessDenied
    return .ok (← register (file (.device device)))
  | .descriptor other =>
    match ← openFile? other with
    | none => return .error .notFound
    | some (_, shared) => return .ok (← register (file shared.channel))
  | _ =>
    if !opening.isPermitted node then return .error .accessDenied
    if opening.empties then
      set { world with disk := world.disk.resize number world.clock 0 }
    return .ok (← register (file (.node number)))

/-- Open the file at a path. A new one has a mode without the bits that the process masks. -/
def openPath (opening : Opening) (path : Octets) : Act (Except OsError Nat) := do
  match ← locate path true with
  | .error error => return .error error
  | .ok place =>
    match place.node? with
    | some number =>
      if opening.refusesOld && ((← disk).node number).isFile then return .error .alreadyExists
      openNode opening number
    | none =>
      if !opening.creates then return .error .notFound
      if Disk.marksDirectory path then return .error .isDirectory
      let mode := 0o666 &&& (0o777 ^^^ (← get).process.mask)
      match ← onDisk fun disk time => disk.add place time ⟨.file .empty, mode, true, time, 1⟩ with
      | .error error => return .error error
      | .ok number =>
        return .ok (← register
          { channel := .node number, reads := opening.reads, writes := opening.writes,
            appends := opening.appends })

/-! ## Signals -/

/-- The signals that have reached a process by a time, the oldest first. -/
def arrived (world : World) (time : Nat) : List Sending :=
  world.signals.filter fun sending =>
    sending.process == world.process.number && sending.time ≤ time

/-- End the process if a signal has come that it does nothing about; `handled` are the signals that it
does something about. -/
def obey (handled : List Signal) : Act Unit := do
  let world ← get
  let deadly := (arrived world world.clock).find? fun sending =>
    sending.signal.isInevitable ||
      !(handled.contains sending.signal || world.process.ignored.contains sending.signal ||
        sending.signal.isHarmless)
  match deadly with
  | none => return
  | some sending => if sending.signal.isHolding then throw .endless else throw (.killed sending.signal)

/-- Send a signal. It reaches the process itself at once. -/
def send (process : Nat) (signal : Signal) : Act Unit :=
  modify fun world =>
    { world with signals := world.signals ++ [⟨process, signal, world.clock⟩] }

/-! ## Reading and writing -/

/-- Read at most `count` octets; none at the end. -/
def read (descriptor count : Nat) : Act (Except OsError ByteArray) := do
  match ← openFile? descriptor with
  | none => return .error .badDescriptor
  | some (index, file) =>
    if !file.reads then return .error .badDescriptor
    let world ← get
    match file.channel with
    | .node number =>
      let node := world.disk.node number
      if node.isDirectory then return .error .isDirectory
      match node.content with
      | .queue data =>
        let piece := data.extract 0 count
        set { world with disk := world.disk.update number fun node =>
          { node with content := .queue (data.extract count data.size) } }
        return .ok piece
      | _ =>
        let piece := node.data.extract file.offset (file.offset + count)
        set { world with
          opened := world.opened.modify index fun file => { file with offset := file.offset + piece.size } }
        return .ok piece
    | .device device =>
      match device with
      | .null => return .ok .empty
      | _ => return .ok ⟨Array.replicate count 0⟩
    | .source pipe =>
      let held := (world.pipes[pipe]?).getD {}
      let piece := held.data.extract held.taken (held.taken + count)
      if piece.isEmpty && held.isFull && count != 0 then throw (.starved pipe)
      if piece.isEmpty then
        set { world with clock := max world.clock held.closedAt }
      else
        set { world with
          pipes := world.pipes.modify pipe fun pipe => { pipe with taken := pipe.taken + piece.size } }
      return .ok piece
    | _ => return .error .badDescriptor

/-- Put octets into a pipe. A process that writes to a full one is ended by a signal. -/
def feed (pipe : Nat) (piece : ByteArray) : Act (Except OsError Unit) := do
  let world ← get
  let held := (world.pipes[pipe]?).getD {}
  let room := match held.limit with
    | none => piece.size
    | some limit => limit - held.data.size
  let isFull := held.isFull || room < piece.size
  let part := if room < piece.size then piece.extract 0 room else piece
  set { world with
    pipes := world.pipes.modify pipe fun pipe => { pipe with data := pipe.data ++ part, isFull } }
  if !isFull then return .ok ()
  else if world.process.ignored.contains Signal.pipe then return .error .brokenPipe
  else throw (.killed Signal.pipe)

/-- Write octets. -/
def write (descriptor : Nat) (piece : ByteArray) : Act (Except OsError Unit) := do
  match ← openFile? descriptor with
  | none => return .error .badDescriptor
  | some (index, file) =>
    if !file.writes then return .error .badDescriptor
    match file.channel with
    | .node number =>
      modify fun world =>
        let size := (world.disk.node number).data.size
        let offset := if file.appends then size else file.offset
        { world with
          disk := world.disk.writeAt number world.clock offset piece
          opened := world.opened.modify index fun file => { file with offset := offset + piece.size } }
      return .ok ()
    | .device .full => return if piece.isEmpty then .ok () else .error .noSpace
    | .device _ | .output => return .ok ()
    | .sink pipe => feed pipe piece
    | .errors =>
      modify fun world => { world with written := world.written.push ⟨world.clock, world.job, piece⟩ }
      return .ok ()
    | .source _ => return .error .badDescriptor

/-- Read all that is left, in pieces. -/
def readAll (descriptor : Nat) : Act (Except OsError ByteArray) :=
  collect 100000 .empty
where
  collect : Nat → ByteArray → Act (Except OsError ByteArray)
    | 0, _ => throw .endless
    | bound + 1, data => do
      step
      match ← read descriptor 65536 with
      | .error error => return .error error
      | .ok piece => if piece.isEmpty then return .ok data else collect bound (data ++ piece)

/-- Write a text, and take no notice of a refusal. -/
def print (descriptor : Nat) (text : Octets) : Act Unit := do
  let _ ← write descriptor (Octets.toData text)

/-- Let time pass. -/
def sleep (time : Nat) : Act Unit := do
  let world ← get
  let next := (arrived world (world.clock + time)).find? fun sending =>
    !(sending.signal.isHarmless || world.process.ignored.contains sending.signal)
  match next with
  | some sending =>
    set { world with clock := max world.clock sending.time }
    obey []
  | none => set { world with clock := world.clock + time }

/-- Do something in the place of another process, which shares all but its own state, and come back. -/
def within {α : Type} (change : Process → Process) (act : Act α) : Act (Except Interrupt α) := do
  let own := (← get).process
  modifyProcess change
  let result ← try
      let value ← act
      pure (Except.ok value)
    catch interrupt => pure (.error interrupt)
  modifyProcess fun _ => own
  match result with
  | .error (.starved pipe) => throw (.starved pipe)
  | .error .endless => throw .endless
  | _ => return result

/-- A number for a new process. -/
def newProcess : Act Nat :=
  modifyGet fun world => (world.nextProcess, { world with nextProcess := world.nextProcess + 1 })

/-- A new pipe. -/
def newPipe (limit : Option Nat) : Act Nat :=
  modifyGet fun world => (world.pipes.size, { world with pipes := world.pipes.push { limit } })

end Act

end TestDaemon
