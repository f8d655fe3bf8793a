import Mathlib.Logic.Function.Basic
import TestDaemon.Proofs.Session

/-! # One frame at a time

The connections of a server where a frame is handled in full before anybody handles the next one. Between
two frames a connection is known by the bytes that it carries over, by what it has written and by how it
has ended. All of them act on one context.
-/

namespace TestDaemon

/-- Services that go by their arguments alone. -/
abbrev Services.ofFunctions (convert : Bytes → Except Error Archive) (executor : Executor) : Services :=
  { importer := fun _ => convert, executor }

/-- A connection between two frames, with what it has written for each frame that it has answered. -/
structure SerialConnection where
  dispatcher : Dispatcher
  replies : List Bytes
  finish : Option (Except Error Unit)

/-- How a connection has ended after a frame, if it has. -/
def FrameOutcome.finishOf : Except Error FrameOutcome → Option (Except Error Unit)
  | .ok proceed => none
  | .ok close => some (.ok ())
  | .error error => some (.error error)

namespace SerialConnection

def start : SerialConnection := ⟨.new, [], none⟩

/-- The connection itself, with a peer that takes everything. -/
def toConnection (connection : SerialConnection) (context : Context) : Connection :=
  { Connection.new context FrameDecoder.defaultLimit .unlimited with dispatcher := connection.dispatcher }

/-- What a connection has written, with the output for one more frame. -/
def note (replies : List Bytes) (output : Bytes) : List Bytes :=
  if output.isEmpty then replies else replies ++ [output]

/-- Handle a frame. A connection that has ended handles nothing. -/
def handle (services : Services) (connection : SerialConnection) (context : Context) (frame : Bytes) :
    SerialConnection × Context :=
  if connection.finish.isSome then (connection, context)
  else
    let handled := (connection.toConnection context).handleFrame services frame
    (⟨handled.connection.dispatcher, note connection.replies handled.output,
      FrameOutcome.finishOf handled.result⟩, handled.connection.context)

/-- Handle frames while nobody else does anything. -/
def handleAll (services : Services) (connection : SerialConnection) (context : Context) :
    List Bytes → SerialConnection × Context
  | [] => (connection, context)
  | frame :: frames =>
    let handled := connection.handle services context frame
    handleAll services handled.1 handled.2 frames

variable {importer : Importer} {executor : Executor}

/-- A frame is handled by the answer to the request that it completes. -/
theorem handle_eq {connection : SerialConnection} (unfinished : connection.finish = none)
    (context : Context) (frame : Bytes) :
    connection.handle { importer, executor } context frame =
      let request := connection.dispatcher.dispatch frame
      let answer := context.answer { importer, executor } request.1
      (⟨request.2, note connection.replies answer.output, FrameOutcome.finishOf answer.result⟩,
        answer.context) := by
  have fresh := Connection.undisturbed_new importer executor context FrameDecoder.defaultLimit
  have undisturbed : (connection.toConnection context).Undisturbed { importer, executor } :=
    fresh.of_same rfl rfl
  rw [handle, if_neg (by simp [unfinished]), undisturbed.handleFrame]
  rfl

theorem handle_of_finish {connection : SerialConnection} {services : Services}
    (finished : connection.finish.isSome = true) (context : Context) (frame : Bytes) :
    connection.handle services context frame = (connection, context) :=
  if_pos finished

end SerialConnection

/-- Connections by their number, and the context that they share. -/
structure SerialSystem where
  connections : Nat → SerialConnection
  context : Context

namespace SerialSystem

def start (context : Context) : SerialSystem := ⟨fun _ => .start, context⟩

/-- Let one connection handle a frame. -/
def handle (services : Services) (system : SerialSystem) (index : Nat) (frame : Bytes) : SerialSystem :=
  let handled := (system.connections index).handle services system.context frame
  ⟨Function.update system.connections index handled.1, handled.2⟩

/-- Let connections handle frames in the given order, each frame by the connection whose number stands
beside it. -/
def handleAll (services : Services) (system : SerialSystem) (sequence : List (Nat × Bytes)) :
    SerialSystem :=
  sequence.foldl (fun system (index, frame) => system.handle services index frame) system

/-- The frames of one connection, in their order. -/
def framesOf (index : Nat) (sequence : List (Nat × Bytes)) : List Bytes :=
  (sequence.filter (·.1 == index)).map (·.2)

@[simp] theorem framesOf_nil (index : Nat) : framesOf index [] = [] := rfl

@[simp] theorem framesOf_append (index : Nat) (first second : List (Nat × Bytes)) :
    framesOf index (first ++ second) = framesOf index first ++ framesOf index second := by
  simp [framesOf]

@[simp] theorem framesOf_cons_self (index : Nat) (frame : Bytes) (sequence : List (Nat × Bytes)) :
    framesOf index ((index, frame) :: sequence) = frame :: framesOf index sequence := by
  simp [framesOf]

theorem framesOf_cons_of_ne {index other : Nat} (different : other ≠ index) (frame : Bytes)
    (sequence : List (Nat × Bytes)) :
    framesOf index ((other, frame) :: sequence) = framesOf index sequence := by
  simp [framesOf, different]

@[simp] theorem handleAll_cons (services : Services) (system : SerialSystem) (index : Nat) (frame : Bytes)
    (sequence : List (Nat × Bytes)) :
    system.handleAll services ((index, frame) :: sequence) =
      (system.handle services index frame).handleAll services sequence := rfl

theorem handleAll_append (services : Services) (system : SerialSystem)
    (first second : List (Nat × Bytes)) :
    system.handleAll services (first ++ second) =
      (system.handleAll services first).handleAll services second :=
  List.foldl_append

theorem context_handle (services : Services) (system : SerialSystem) (index : Nat) (frame : Bytes) :
    (system.handle services index frame).context =
      ((system.connections index).handle services system.context frame).2 := rfl

theorem connections_handle_self (services : Services) (system : SerialSystem) (index : Nat)
    (frame : Bytes) :
    (system.handle services index frame).connections index =
      ((system.connections index).handle services system.context frame).1 :=
  Function.update_self ..

theorem connections_handle_of_ne {index other : Nat} (different : other ≠ index) (services : Services)
    (system : SerialSystem) (frame : Bytes) :
    (system.handle services index frame).connections other = system.connections other :=
  Function.update_of_ne different ..

end SerialSystem

end TestDaemon
