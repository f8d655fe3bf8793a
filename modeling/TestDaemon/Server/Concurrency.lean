import TestDaemon.Connection.Interleaving
import TestDaemon.Server.Transition

/-! # Concurrent use of a server

Any number of callers start and stop one server, and every run has a worker that stops it when one of
its connections asks for that. Each of them waits for the lock, makes its moves under it and returns. The
listener and the connections of a run notice its cancellation in their own time. A caller may give up
wherever it waits; that releases the lock but undoes nothing.

An action is one indivisible step of one of them, and any order of actions may happen in which each is
possible. What can be noticed of a call without the lock is reported as events.
-/

namespace TestDaemon

/-- Where a task stands. A worker listens for a request before it waits for the lock. A task that was
given up under the lock was at some stage there. -/
inductive TaskPhase where
  | listening
  | queued
  | holding
  | returned (result : TaskResult)
  | abandoned (stage : Option Stage)
  deriving Repr

structure Task where
  kind : TaskKind
  phase : TaskPhase
  deriving Repr

/-- The task that has the lock, and its stage. -/
structure Hold where
  task : Nat
  kind : TaskKind
  stage : Stage
  deriving Repr

/-- A connection of a run, and whether it is alive. -/
structure ServedConnection where
  run : Nat
  session : InterleavedConnection
  alive : Bool

/-- A server as its concurrent users share it, with all tasks and connections so far. -/
structure SharedServer where
  lifecycle : Lifecycle
  shared : SharedContext
  tasks : List Task
  lock : Option Hold
  connections : List ServedConnection

/-- What can be noticed of a task. -/
inductive ServerEvent where
  | published (task : Nat) (state : ServerState)
  | returned (task : Nat) (result : TaskResult)
  deriving Repr

/-- The task that has the lock takes the next step with `advance`, or with `bind` when it waits for its
listener. A connection is accepted with the frames that its peer will send. -/
inductive ServerAction where
  | callStart
  | callStop
  | lock (task : Nat)
  | advance
  | bind (bound : Except Error SocketAddress)
  | abandon (task : Nat)
  | hear (task : Nat)
  | forsake (task : Nat)
  | ignore (task : Nat)
  | accept (run : Nat) (frames : List Bytes)
  | closeListener (run : Nat)
  | serve (connection : Nat)
  | misread (connection : Nat) (error : Error)
  | leave (connection : Nat)
  | requestStop (connection : Nat)

namespace InterleavedConnection

/-- Whether a connection may end: between two frames, or when its peer does not take a reply. A running
test is waited for. -/
def mayLeave (connection : InterleavedConnection) : Bool :=
  connection.finish.isSome || match connection.work with
    | .none | .replying .. => true
    | _ => false

/-- Whether the last frame of a connection has been dealt with. -/
def isIdle (connection : InterleavedConnection) : Bool :=
  connection.finish.isNone && match connection.work with
    | .none => true
    | _ => false

/-- Whether the last reply acknowledges a command to stop. -/
def hasGrantedStop (connection : InterleavedConnection) : Bool :=
  connection.isIdle && connection.replies.getLast? == some (.ok Request.stopCommand)

/-- Report a framing error instead of reading the next frame. -/
def misread (connection : InterleavedConnection) (error : Error) : InterleavedConnection :=
  { connection with work := .replying (.failed error.message) .close }

end InterleavedConnection

namespace Stage

/-- Whether a task waits for others at a stage, so that its caller may give up. -/
def awaits : Stage → Bool
  | starting .binding | stopping _ .closing | stopping _ .draining => true
  | _ => false

/-- The tasks that come to life with the move at a stage. -/
def recruits : Stage → List Task
  | starting (.begun run _) => [⟨.worker run, .listening⟩]
  | _ => []

end Stage

namespace SharedServer

/-- A server that nobody uses. -/
def initial (store : Store) : SharedServer := ⟨.initial, ⟨store, 0⟩, [], none, []⟩

/-- Put a task into another phase. -/
def setPhase (server : SharedServer) (task : Nat) (phase : TaskPhase) : SharedServer :=
  { server with tasks := server.tasks.modify task fun entry => { entry with phase } }

def setConnection (server : SharedServer) (index : Nat) (connection : ServedConnection) :
    SharedServer :=
  { server with connections := server.connections.set index connection }

/-- The connection with an index, while it is alive. -/
def connection? (server : SharedServer) (index : Nat) : Option ServedConnection :=
  (server.connections[index]?).filter (·.alive)

/-- Whether a connection of a run is alive. -/
def isConnected (server : SharedServer) (run : Nat) : Bool :=
  server.connections.any fun connection => connection.alive && connection.run == run

/-- Whether what a stop waits for has come about. -/
def isReady (server : SharedServer) : Stage → Bool
  | .stopping run .closing => !server.lifecycle.isListening run
  | .stopping run .draining => server.lifecycle.isComplete run && !server.isConnected run
  | _ => true

/-- Create a task that waits for the lock. -/
def call (server : SharedServer) (kind : TaskKind) : SharedServer :=
  { server with tasks := server.tasks ++ [⟨kind, .queued⟩] }

/-- Give the lock to a task. -/
def grant (server : SharedServer) (task : Nat) (kind : TaskKind) : SharedServer :=
  { server.setPhase task .holding with lock := some ⟨task, kind, .entered⟩ }

/-- Make a move under the lock. -/
def apply (server : SharedServer) (hold : Hold) (move : Move) : SharedServer × List ServerEvent :=
  ({ server with
      lifecycle := move.lifecycle
      lock := some { hold with stage := move.stage }
      tasks := server.tasks ++ hold.stage.recruits },
    (move.publication.map (.published hold.task)).toList)

/-- Leave the lock and return. -/
def release (server : SharedServer) (hold : Hold) (result : TaskResult) :
    SharedServer × List ServerEvent :=
  ({ server.setPhase hold.task (.returned result) with lock := none }, [.returned hold.task result])

/-- The next step of the task that has the lock; `none` if it has to wait. -/
def advance? (server : SharedServer) (hold : Hold) : Option (SharedServer × List ServerEvent) :=
  match hold.stage with
  | .leaving result => some (server.release hold result)
  | stage =>
    if server.isReady stage then (server.lifecycle.move? hold.kind stage).map (server.apply hold)
    else none

/-- Go on with the listener that a start waited for, or without one. -/
def bind? (server : SharedServer) (hold : Hold) (bound : Except Error SocketAddress) :
    Option SharedServer :=
  match hold.stage with
  | .starting .binding =>
    some { server with lock := some { hold with stage := .starting (.ofBinding bound) } }
  | _ => none

/-- Give up a task that waits under the lock. -/
def desert? (server : SharedServer) (task : Nat) : Option SharedServer :=
  match server.lock with
  | some hold =>
    if hold.task = task ∧ hold.stage.awaits then
      some { server.setPhase task (.abandoned (some hold.stage)) with lock := none }
    else none
  | none => none

/-- Give up a task that waits. A worker is nobody's to give up. -/
def abandon? (server : SharedServer) (task : Nat) : Option SharedServer :=
  match server.tasks[task]? with
  | some ⟨.start, .queued⟩ | some ⟨.stop, .queued⟩ =>
    some (server.setPhase task (.abandoned none))
  | some ⟨.start, .holding⟩ | some ⟨.stop, .holding⟩ => server.desert? task
  | _ => none

/-- Let the worker of a run take up a request to stop it. -/
def hear? (server : SharedServer) (task : Nat) (phase : TaskPhase) : Option SharedServer :=
  match server.tasks[task]? with
  | some ⟨.worker run, .listening⟩ =>
    if server.lifecycle.isStopPending run then
      some { server.setPhase task phase with lifecycle := server.lifecycle.takeStop run }
    else none
  | _ => none

/-- Let a worker return that nobody is left to ask. -/
def ignore? (server : SharedServer) (task : Nat) : Option SharedServer :=
  match server.tasks[task]? with
  | some ⟨.worker run, .listening⟩ =>
    if !server.lifecycle.isListening run && !server.isConnected run &&
        !server.lifecycle.isStopPending run then
      some (server.setPhase task (.returned .unasked))
    else none
  | _ => none

/-- Take up a connection with a run that listens. -/
def accept? (server : SharedServer) (run : Nat) (frames : List Bytes) : Option SharedServer :=
  if server.lifecycle.isListening run then
    some { server with connections := server.connections ++ [⟨run, .start frames, true⟩] }
  else none

/-- Let a connection take its next step. -/
def serve? (services : Services) (server : SharedServer) (index : Nat) : Option SharedServer := do
  let connection ← server.connection? index
  let (session, shared) ← connection.session.advance? services server.shared
  return { server.setConnection index { connection with session } with shared }

/-- Let a connection that is alive become another if it may. -/
def changeConnection? (server : SharedServer) (index : Nat) (may : InterleavedConnection → Bool)
    (change : ServedConnection → ServedConnection) : Option SharedServer := do
  let connection ← server.connection? index
  if may connection.session then some (server.setConnection index (change connection)) else none

/-- Note the request of a connection to stop its run. -/
def requestStop? (server : SharedServer) (index : Nat) : Option SharedServer := do
  let connection ← server.connection? index
  if connection.session.hasGrantedStop then
    some { server with lifecycle := server.lifecycle.requestStop connection.run }
  else none

/-- Take an action; `none` if it is not possible. A listener ends when it notices the cancellation of
its run, or by a failure of its own. -/
def step? (services : Services) (server : SharedServer) :
    ServerAction → Option (SharedServer × List ServerEvent)
  | .callStart => some (server.call .start, [])
  | .callStop => some (server.call .stop, [])
  | .lock task =>
    match server.lock, server.tasks[task]? with
    | none, some ⟨kind, .queued⟩ => some (server.grant task kind, [])
    | _, _ => none
  | .advance => server.lock.bind server.advance?
  | .bind bound => (server.lock.bind (server.bind? · bound)).map (·, [])
  | .abandon task => (server.abandon? task).map (·, [])
  | .hear task => (server.hear? task .queued).map (·, [])
  | .forsake task =>
    (server.hear? task (.returned .forsaken)).map (·, [.returned task .forsaken])
  | .ignore task => (server.ignore? task).map (·, [.returned task .unasked])
  | .accept run frames => (server.accept? run frames).map (·, [])
  | .closeListener run =>
    if server.lifecycle.isListening run then
      some ({ server with lifecycle := server.lifecycle.closeListener run }, [])
    else none
  | .serve connection => (server.serve? services connection).map (·, [])
  | .misread connection error =>
    (server.changeConnection? connection (·.isIdle) fun entry =>
      { entry with session := entry.session.misread error }).map (·, [])
  | .leave connection =>
    (server.changeConnection? connection (·.mayLeave) fun entry =>
      { entry with alive := false }).map (·, [])
  | .requestStop connection => (server.requestStop? connection).map (·, [])

/-- Take actions in order, with the events of all of them; `none` if one of them is not possible. -/
def run? (services : Services) (server : SharedServer) :
    List ServerAction → Option (SharedServer × List ServerEvent)
  | [] => some (server, [])
  | action :: actions => do
    let (next, events) ← server.step? services action
    let (last, later) ← next.run? services actions
    return (last, events ++ later)

end SharedServer

end TestDaemon
