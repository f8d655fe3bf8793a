import TestDaemon.Request
import TestDaemon.TestResult.Decoder

/-! # A client's link to its peer

A client sees of its peer what the peer does with each request: it takes the request or refuses it,
delivers bytes, and lets something follow them. The delivered bytes are read one reply at a time, and
what is left of them stays for the next reply.
-/

namespace TestDaemon

/-- What a reader meets behind the delivered bytes: the end of the stream, an error, or nothing, which
it waits for. -/
inductive Ending where
  | closed
  | failed (text : String)
  | silent
  deriving DecidableEq, Repr

/-- Why an operation has no result: an error, or a wait for a silent peer. -/
inductive Halt where
  | failed (error : Error)
  | waiting
  deriving DecidableEq, Repr

/-- What a peer does on a request, and its state after that. -/
structure Reaction (σ : Type) where
  refusal : Option String
  delivered : Bytes
  ending : Ending
  peer : σ

/-- The behaviour of a peer whose state is of type `σ`. -/
structure Remote (σ : Type) where
  react : σ → Bytes → Reaction σ

structure Link (σ : Type) where
  peer : σ
  unread : Bytes
  ending : Ending

namespace Error

def closedByPeer : Error := ⟨.io, "connection closed by daemon"⟩

def invalidText : Error := ⟨.io, "stream did not contain valid UTF-8"⟩

/-- A test result that cannot be read from a stream. -/
def malformedResult (input : Bytes) (fault : Json.Fault) : Error :=
  ⟨.protocol, "malformed test result: " ++ fault.streamMessage input⟩

end Error

namespace Link

variable {σ : Type}

/-- Send a request. -/
def send (remote : Remote σ) (link : Link σ) (request : Bytes) : Except Halt Unit × Link σ :=
  let reaction := remote.react link.peer request
  let link := ⟨reaction.peer, link.unread ++ reaction.delivered, reaction.ending⟩
  match reaction.refusal with
  | some text => (.error (.failed ⟨.io, text⟩), link)
  | none => (.ok (), link)

/-- What comes of a need for more bytes than there are. -/
def starved (link : Link σ) : Halt :=
  match link.ending with
  | .closed => .failed .closedByPeer
  | .failed text => .failed ⟨.io, text⟩
  | .silent => .waiting

/-- A line without its end. -/
def stripLineEnd (text : String) : String := Text.trimEnd (fun c => c = '\r' || c = '\n') text

def lineOf (bytes : Bytes) : Except Halt String :=
  match Utf8.decode? bytes with
  | some text => .ok (stripLineEnd text)
  | none => .error (.failed .invalidText)

/-- The bytes through the first line feed, and the ones behind it. -/
def splitLine? : Bytes → Option (Bytes × Bytes)
  | [] => none
  | byte :: rest =>
    if byte = 0x0A then some ([byte], rest)
    else (splitLine? rest).map fun (line, rest) => (byte :: line, rest)

/-- Read a line. The end of the stream ends a line that is not empty. -/
def readLine (link : Link σ) : Except Halt String × Link σ :=
  match splitLine? link.unread with
  | some (line, rest) => (lineOf line, { link with unread := rest })
  | none =>
    if link.ending = .closed ∧ link.unread ≠ [] then (lineOf link.unread, { link with unread := [] })
    else (.error link.starved, link)

/-- The next byte, which stays unread. -/
def peek (link : Link σ) : Except Halt UInt8 :=
  match link.unread with
  | [] => .error link.starved
  | byte :: _ => .ok byte

/-- Read a test result, and leave what follows it. -/
def readResult (link : Link σ) : Except Halt TestResult × Link σ :=
  match TestResult.read (.start link.unread) with
  | .ok (result, cursor) => (.ok result, { link with unread := cursor.rest })
  | .error fault =>
    let malformed : Halt := .failed (.malformedResult link.unread fault)
    (.error (match fault.look, link.ending with
      | _, .closed => malformed
      | .ending, _ | .unclosed, .silent => link.starved
      | _, _ => malformed), link)

end Link

end TestDaemon
