import TestDaemon.Context
import TestDaemon.Dispatch
import TestDaemon.Frame

/-! # Connections

One peer's session. Frames are handled strictly in order: the next one is not read until the reply to
the last one has been written. The peer may take a limited number of bytes only; a reply that it does
not take in full ends the connection. Cancellation is noticed between frames: a running test is never
interrupted, and its reply is still written if the peer takes it.

| frame | reply | connection after |
|---|---|---|
| command | a line or a raw result | open |
| deploy | `OK DPL <id>` | open |
| deploy that fails | none | closed |
| unknown marker | `ERR Unsupported Command` | closed |
-/

namespace TestDaemon

inductive Phase where
  | awaitingFrame
  | dispatching
  | handlingCommand
  | handlingDeploy
  deriving DecidableEq, Repr

def Phase.name : Phase → String
  | awaitingFrame => "awaiting_frame"
  | dispatching => "dispatching"
  | handlingCommand => "handling_command"
  | handlingDeploy => "handling_deploy"

inductive FrameOutcome where
  | proceed
  | close
  deriving DecidableEq, Repr

/-- The reading side of the peer: how many more bytes it takes, if there is a limit, and the error of
a write past it. Without such an error the write waits until the connection is cancelled. A peer that
takes nothing for a while and the rest later, before any cancellation, counts as one without a limit: how
long a write waits cannot be told from what is written. One that would take the rest only after the
cancellation counts as one that takes no more. -/
structure Peer where
  room : Option Nat
  refusal : Option String
  deriving DecidableEq, Repr

def Peer.unlimited : Peer := ⟨none, none⟩

def Error.droppedReply : Error :=
  ⟨.io, "server stopping, peer not reading; response dropped"⟩

structure Connection where
  context : Context
  decoder : FrameDecoder
  dispatcher : Dispatcher
  phase : Phase
  cancelled : Bool
  peer : Peer
  /-- How many frames have been handled. -/
  handled : Nat

/-- What an action of a connection comes to: its result, the bytes that the peer took, and the
connection after it. -/
structure Step (α : Type) where
  result : Except Error α
  output : Bytes
  connection : Connection

namespace Connection

def new (context : Context) (limit : Nat) (peer : Peer) : Connection :=
  ⟨context, .new limit, .new, .awaitingFrame, false, peer, 0⟩

def enter (connection : Connection) (phase : Phase) : Connection := { connection with phase }

/-- Write one reply. A write that does not come to its end at once is given up as soon as the connection is
cancelled, wherever the bytes that have been taken end. -/
def send (connection : Connection) (reply : Reply) : Step Unit :=
  let bytes := reply.encode
  match connection.peer.room with
  | none => ⟨.ok (), bytes, connection⟩
  | some room =>
    if bytes.length ≤ room then
      ⟨.ok (), bytes,
        { connection with peer := { connection.peer with room := some (room - bytes.length) } }⟩
    else
      let full := { connection with peer := { connection.peer with room := some 0 } }
      match connection.peer.refusal with
      | some text => ⟨.error ⟨.io, text⟩, bytes.take room, full⟩
      | none => ⟨.error .droppedReply, bytes.take room, { full with cancelled := true }⟩

/-- Write one reply and go on as `outcome` says. -/
def answer (connection : Connection) (reply : Reply) (outcome : FrameOutcome) : Step FrameOutcome :=
  let sent := connection.send reply
  ⟨sent.result.map fun _ => outcome, sent.output, sent.connection⟩

/-- Carry out a command line and answer it. A stop is requested only after its reply is out. -/
def handleCommand (services : Services) (connection : Connection) (line : String) :
    Step FrameOutcome :=
  let interrupted := match connection.context.testRun? line with
    | some (archive, className, method) => services.interrupts archive className method connection.handled
    | none => false
  let (result, context) := connection.context.execute services line
  let connection := { connection with context, cancelled := connection.cancelled || interrupted }
  match result with
  | .error error => connection.answer (.ofError error) .proceed
  | .ok (.respond reply) => connection.answer reply .proceed
  | .ok (.respondThenStop reply) =>
    let sent := connection.send reply
    match sent.result with
    | .error error => ⟨.error error, sent.output, sent.connection⟩
    | .ok () =>
      ⟨.ok .proceed, sent.output,
        { sent.connection with context := sent.connection.context.requestStop }⟩

/-- Import a payload and answer it. A failed import is not answered. -/
def handleDeploy (services : Services) (connection : Connection) (payload : Bytes) :
    Step FrameOutcome :=
  match connection.context.ingest services payload with
  | (.error error, _) => ⟨.error error, [], connection⟩
  | (.ok reply, context) => { connection with context }.answer reply .proceed

def dispatchFrame (services : Services) (connection : Connection) (frame : Bytes) :
    Step FrameOutcome :=
  let (dispatched, dispatcher) := connection.dispatcher.dispatch frame
  let connection := { connection with dispatcher }
  match dispatched with
  | .error error => connection.answer (.ofError error) .proceed
  | .ok .pending => ⟨.ok .proceed, [], connection⟩
  | .ok .unsupported => connection.answer .unsupported .close
  | .ok (.command line) => (connection.enter .handlingCommand).handleCommand services line
  | .ok (.deploy payload) => (connection.enter .handlingDeploy).handleDeploy services payload

/-- Classify and answer one frame. -/
def handleFrame (services : Services) (connection : Connection) (frame : Bytes) :
    Step FrameOutcome :=
  let step := (connection.enter .dispatching).dispatchFrame services frame
  { step with
    connection := { step.connection.enter .awaitingFrame with handled := connection.handled + 1 } }

/-- Report a framing error, if the peer takes the line, and end with that error. -/
def reportFraming (connection : Connection) (error : Error) : Step (Option Unit) :=
  let sent := connection.send (.failed error.message)
  ⟨.error error, sent.output, sent.connection⟩

end Connection

namespace FrameDecoder

theorem decode_length {decoder after : FrameDecoder} {frame : Bytes}
    (decoded : decoder.decode = (.ok (some frame), after)) :
    after.buffer.length < decoder.buffer.length := by
  unfold decode at decoded
  simp only at decoded
  split at decoded
  · next position found =>
    split at decoded
    · simp at decoded
    · obtain ⟨_, rfl⟩ := Prod.mk.inj decoded
      obtain ⟨after, within⟩ := Bytes.findFrom?_bound found
      simp only [List.length_drop, Request.delimiter, List.length_cons, List.length_nil]
        at after within ⊢
      omega
  · split at decoded <;> simp at decoded

theorem decodeEnd_length {decoder after : FrameDecoder} {frame : Bytes}
    (decoded : decoder.decodeEnd = (.ok (some frame), after)) :
    after.buffer.length < decoder.buffer.length := by
  unfold decodeEnd at decoded
  split at decoded
  · simp at decoded
  · exact decode_length decoded

/-- The next frame while the stream is open, or at its end. -/
def next (decoder : FrameDecoder) (ended : Bool) : Except Error (Option Bytes) × FrameDecoder :=
  if ended then decoder.decodeEnd else decoder.decode

theorem next_length {decoder after : FrameDecoder} {ended : Bool} {frame : Bytes}
    (decoded : decoder.next ended = (.ok (some frame), after)) :
    after.buffer.length < decoder.buffer.length := by
  cases ended
  · exact decode_length decoded
  · exact decodeEnd_length decoded

end FrameDecoder

namespace Connection

/-- Serve the frames that are complete in the buffer. The result is `some ()` if the connection is
closed then, and `none` if it waits for more input. -/
def serve (services : Services) (ended : Bool) (connection : Connection) : Step (Option Unit) :=
  if connection.cancelled then ⟨.ok (some ()), [], connection⟩
  else match _ : connection.decoder.next ended with
    | (.error error, decoder) => { connection with decoder }.reportFraming error
    | (.ok none, decoder) =>
      ⟨.ok (if ended then some () else none), [], { connection with decoder }⟩
    | (.ok (some frame), decoder) =>
      let handled := { connection with decoder }.handleFrame services frame
      match handled.result with
      | .error error => ⟨.error error, handled.output, handled.connection⟩
      | .ok .close => ⟨.ok (some ()), handled.output, handled.connection⟩
      | .ok .proceed =>
        let rest := serve services ended { handled.connection with decoder }
        { rest with output := handled.output ++ rest.output }
termination_by connection.decoder.buffer.length
decreasing_by exact FrameDecoder.next_length ‹_›

variable {services : Services} {ended : Bool} {connection : Connection} {decoder : FrameDecoder}

theorem serve_eq (services : Services) (ended : Bool) (connection : Connection) :
    connection.serve services ended =
      if connection.cancelled then ⟨.ok (some ()), [], connection⟩
      else match connection.decoder.next ended with
        | (.error error, decoder) => { connection with decoder }.reportFraming error
        | (.ok none, decoder) =>
          ⟨.ok (if ended then some () else none), [], { connection with decoder }⟩
        | (.ok (some frame), decoder) =>
          let handled := { connection with decoder }.handleFrame services frame
          match handled.result with
          | .error error => ⟨.error error, handled.output, handled.connection⟩
          | .ok .close => ⟨.ok (some ()), handled.output, handled.connection⟩
          | .ok .proceed =>
            let rest := serve services ended { handled.connection with decoder }
            { rest with output := handled.output ++ rest.output } := by
  rw [serve]
  congr 1
  split
  all_goals
    next decoded => rw [decoded]

theorem serve_cancelled (cancelled : connection.cancelled = true) :
    connection.serve services ended = ⟨.ok (some ()), [], connection⟩ := by
  rw [serve_eq, if_pos cancelled]

theorem serve_error {error : Error} (running : connection.cancelled = false)
    (decoded : connection.decoder.next ended = (.error error, decoder)) :
    connection.serve services ended = { connection with decoder }.reportFraming error := by
  rw [serve_eq, running, decoded]
  rfl

/-- Without a further frame, serving comes to its end or to a wait. -/
theorem serve_none (running : connection.cancelled = false)
    (decoded : connection.decoder.next ended = (.ok none, decoder)) :
    connection.serve services ended =
      ⟨.ok (if ended then some () else none), [], { connection with decoder }⟩ := by
  rw [serve_eq, running, decoded]
  rfl

theorem serve_frame {frame : Bytes} (running : connection.cancelled = false)
    (decoded : connection.decoder.next ended = (.ok (some frame), decoder)) :
    connection.serve services ended =
      let handled := { connection with decoder }.handleFrame services frame
      match handled.result with
      | .error error => ⟨.error error, handled.output, handled.connection⟩
      | .ok .close => ⟨.ok (some ()), handled.output, handled.connection⟩
      | .ok .proceed =>
        let rest := serve services ended { handled.connection with decoder }
        { rest with output := handled.output ++ rest.output } := by
  rw [serve_eq, running, decoded]
  rfl

/-- What one read of a connection yields. -/
inductive Event where
  | received (bytes : Bytes)
  | cancelled
  | failed (text : String)
  deriving DecidableEq, Repr

/-- How a run went: the output before its first event was read, that after each event read, the end,
and the connection then. -/
structure Run where
  before : Bytes
  replies : List Bytes
  finish : Except Error Unit
  connection : Connection

/-- Everything that the peer took. -/
def Run.output (run : Run) : Bytes := run.before ++ run.replies.flatten

/-- Serve the events of a connection, and after the last one the end of the stream. -/
def run (services : Services) (connection : Connection) (events : List Event) : Run :=
  let served := connection.serve services false
  match served.result with
  | .error error => ⟨served.output, [], .error error, served.connection⟩
  | .ok (some ()) => ⟨served.output, [], .ok (), served.connection⟩
  | .ok none =>
    match events with
    | [] =>
      let last := served.connection.serve services true
      ⟨served.output ++ last.output, [], last.result.map fun _ => (), last.connection⟩
    | .received bytes :: events =>
      let fed := { served.connection with decoder := served.connection.decoder.feed bytes }
      let rest := run services fed events
      ⟨served.output, rest.before :: rest.replies, rest.finish, rest.connection⟩
    | .cancelled :: _ =>
      ⟨served.output, [[]], .ok (), { served.connection with cancelled := true }⟩
    | .failed text :: _ => ⟨served.output, [[]], .error ⟨.io, text⟩, served.connection⟩

end Connection

end TestDaemon
