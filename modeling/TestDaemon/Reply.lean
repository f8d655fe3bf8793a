import TestDaemon.Error
import TestDaemon.Request

/-! # Replies on the wire

A reply is a line of text, ended by a carriage return and a line feed, or raw bytes without an
envelope. A line that reports success starts with `OK `, one that reports a failure with `ERR `.
-/

namespace TestDaemon

inductive Reply where
  | line (text : String)
  | raw (bytes : Bytes)
  deriving DecidableEq, Repr

namespace Reply

def lineEnd : Bytes := [0x0D, 0x0A]

def okHead : String := "OK "

def errorHead : String := "ERR "

def encode : Reply → Bytes
  | line text => Utf8.encode text ++ lineEnd
  | raw bytes => bytes

def ok (text : String) : Reply := line (okHead ++ text)

def failed (text : String) : Reply := line (errorHead ++ text)

/-- The reply to a request whose handling failed. -/
def ofError (error : Error) : Reply :=
  failed ("Caught unexpected error servicing request: " ++ error.message)

/-- The reply to a body with an unknown marker. -/
def unsupported : Reply := failed "Unsupported Command"

/-- The ID that a line reports as deployed. -/
def deployedId? (text : String) : Option String :=
  (Text.after? okHead text).bind (Text.after? Request.deployHead)

end Reply

end TestDaemon
