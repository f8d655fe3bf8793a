import TestDaemon.Error
import TestDaemon.Request

/-! # Dispatch of frames

A frame is handed on by its marker. Frames too short for a marker are carried over and become the
head of the next one. A command is the first line of its frame, at most 2000 bytes long; the decoding
of its text is lossy.
-/

namespace TestDaemon

/-- The longest accepted command line, in bytes. -/
def commandLineLimit : Nat := 2000

def Error.commandLineTooLong : Error :=
  ⟨.command, s!"command line too long: exceeded {commandLineLimit} bytes"⟩

/-- The bytes before the first line feed, without a carriage return at their end. -/
def firstLine (frame : Bytes) : Bytes :=
  let line := frame.takeWhile (· != 0x0A)
  if line.getLast? = some 0x0D then line.dropLast else line

/-- The command line of a frame. -/
def commandLine (frame : Bytes) : Except Error String :=
  let line := firstLine frame
  if commandLineLimit < line.length then .error .commandLineTooLong
  else .ok (Utf8.decodeLossy line)

/-- What a frame asks for. -/
inductive Dispatch where
  | command (line : String)
  | deploy (payload : Bytes)
  | unsupported
  | pending
  deriving DecidableEq, Repr

structure Dispatcher where
  carried : Bytes
  deriving DecidableEq, Repr

namespace Dispatcher

def new : Dispatcher := ⟨[]⟩

/-- Classify a frame behind the carried bytes. A deploy loses its marker and the byte after it. -/
def dispatch (dispatcher : Dispatcher) (frame : Bytes) : Except Error Dispatch × Dispatcher :=
  let body := dispatcher.carried ++ frame
  match Marker.of body with
  | .incomplete => (.ok .pending, ⟨body⟩)
  | .unknown => (.ok .unsupported, new)
  | .deploy => (.ok (.deploy (body.drop 4)), new)
  | .command => ((commandLine body).map .command, new)

end Dispatcher

end TestDaemon
