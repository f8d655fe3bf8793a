import TestDaemon.Connection

/-! # Interleaved connections

Connections of one server work on one store. The handling of a frame is cut into its indivisible steps:
a payload is imported and then stored, a deployment removed, or an archive looked up and then tested, and
last a reply is written. Between two steps of one connection others may take theirs.
-/

namespace TestDaemon

/-- What is left to do for the frame that a connection is at. -/
inductive PendingWork where
  | none
  | importing (payload : Bytes)
  | storing (archive : Archive)
  | removing (id : String)
  | lookingUp (id className method : String)
  | testing (archive : Archive) (className method : String)
  | replying (reply : Reply) (outcome : FrameOutcome)

/-- A connection between two steps: the frames still to come, what it has written, and how it ended. -/
structure InterleavedConnection where
  frames : List Bytes
  dispatcher : Dispatcher
  work : PendingWork
  replies : List Reply
  finish : Option (Except Error Unit)

/-- What the connections share. -/
structure SharedContext where
  store : Store
  imports : Nat

namespace InterleavedConnection

/-- A connection that is to handle some frames. -/
def start (frames : List Bytes) : InterleavedConnection := ⟨frames, .new, .none, [], none⟩

/-- The reply to a frame that failed, after which the connection goes on. -/
def replyError (error : Error) : PendingWork := .replying (.ofError error) .proceed

/-- What is to be done for a command line. -/
def workOfLine (line : String) : PendingWork :=
  match Command.parse line with
  | .error error => replyError error
  | .ok .stop => .replying (.ok line) .proceed
  | .ok (.undeploy id) => .removing id
  | .ok (.test id className method) => .lookingUp id className method

/-- What is to be done for a frame. -/
def workOf : Except Error Dispatch → PendingWork
  | .error error => replyError error
  | .ok .pending => .none
  | .ok .unsupported => .replying .unsupported .close
  | .ok (.command line) => workOfLine line
  | .ok (.deploy payload) => .importing payload

/-- Begin the next frame. -/
def nextFrame (connection : InterleavedConnection) : Option InterleavedConnection :=
  match connection.frames with
  | [] => none
  | frame :: frames =>
    let (dispatched, dispatcher) := connection.dispatcher.dispatch frame
    some { connection with frames, dispatcher, work := workOf dispatched }

/-- Take the next step; `none` if there is none. -/
def advance? (services : Services) (connection : InterleavedConnection) (shared : SharedContext) :
    Option (InterleavedConnection × SharedContext) :=
  if connection.finish.isSome then none
  else match connection.work with
    | .none => connection.nextFrame.map (·, shared)
    | .importing payload =>
      match services.importer shared.imports payload with
      | .error error => some ({ connection with work := .none, finish := some (.error error) }, shared)
      | .ok archive =>
        some ({ connection with work := .storing archive },
          { shared with imports := shared.imports + 1 })
    | .storing archive =>
      some ({ connection with work := .replying (.ok (Request.deployHead ++ archive.id)) .proceed },
        { shared with store := (shared.store.insert archive.id archive).2 })
    | .removing id =>
      let (reply, context) := (Context.mk shared.store shared.imports false).undeploy id
      some ({ connection with work := .replying reply .proceed }, { shared with store := context.store })
    | .lookingUp id className method =>
      match shared.store.get? id with
      | none => some ({ connection with work := replyError (.notDeployed id) }, shared)
      | some archive => some ({ connection with work := .testing archive className method }, shared)
    | .testing archive className method =>
      match services.executor archive className method with
      | .error error => some ({ connection with work := replyError error }, shared)
      | .ok result =>
        some ({ connection with work := .replying (.raw result.encode) .proceed }, shared)
    | .replying reply outcome =>
      let finish := match outcome with
        | .proceed => none
        | .close => some (.ok ())
      some ({ connection with work := .none, replies := connection.replies ++ [reply], finish }, shared)

/-- Everything that a connection has written. -/
def output (connection : InterleavedConnection) : Bytes := connection.replies.flatMap Reply.encode

/-- Whether a connection has no step to take. -/
def isDone (connection : InterleavedConnection) : Bool :=
  connection.finish.isSome || match connection.work with
    | .none => connection.frames.isEmpty
    | _ => false

end InterleavedConnection

/-- Connections with what they share. -/
structure InterleavedSystem where
  connections : List InterleavedConnection
  shared : SharedContext

namespace InterleavedSystem

/-- Let one connection take a step; `none` if it has none. -/
def advance? (services : Services) (system : InterleavedSystem) (index : Nat) :
    Option InterleavedSystem := do
  let connection ← system.connections[index]?
  let (connection, shared) ← connection.advance? services system.shared
  return ⟨system.connections.set index connection, shared⟩

/-- Let connections take steps in the given order. -/
def schedule? (services : Services) (system : InterleavedSystem) (order : List Nat) :
    Option InterleavedSystem :=
  order.foldlM (fun system index => system.advance? services index) system

end InterleavedSystem

end TestDaemon
