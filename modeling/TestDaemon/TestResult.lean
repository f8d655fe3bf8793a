import TestDaemon.Json.Printer
import TestDaemon.Text.Utf8
import TestDaemon.Timestamp.Printer

/-! # Test results

The outcome of one test method, and its written form: a JSON object on one line, without blanks, in
which an absent message is left out.
-/

namespace TestDaemon

inductive TestStatus where
  | passed
  | failed
  | skipped
  deriving DecidableEq, Repr

/-- The written name of a status. -/
def TestStatus.name : TestStatus → String
  | passed => "passed"
  | failed => "failed"
  | skipped => "skipped"

/-- The name of a status at the head of a report. -/
def TestStatus.title : TestStatus → String
  | passed => "Passed"
  | failed => "Failed"
  | skipped => "Skipped"

structure TestResult where
  status : TestStatus
  message : Option String
  startedAt : Timestamp
  finishedAt : Timestamp
  deriving DecidableEq, Repr

namespace TestResult

/-- The whole milliseconds that the test ran, cut off toward zero. -/
def elapsedMillis (result : TestResult) : Int :=
  Timestamp.millisBetween result.startedAt result.finishedAt

/-- A member of an object: a name, a colon and a value that is already written. -/
def memberChars (name : String) (value : List Char) : List Char :=
  Json.quoteChars name.toList ++ ':' :: value

def toChars (result : TestResult) : List Char :=
  let message := match result.message with
    | some text => ',' :: memberChars "message" (Json.quoteChars text.toList)
    | none => []
  '\x7b' :: memberChars "status" (Json.quoteChars result.status.name.toList) ++ message ++
    ',' :: memberChars "started_at" (Json.quoteChars result.startedAt.toChars) ++
    ',' :: memberChars "finished_at" (Json.quoteChars result.finishedAt.toChars) ++ ['\x7d']

/-- The bytes that stand for the result on the wire. -/
def encode (result : TestResult) : Bytes := Utf8.encodeChars result.toChars

end TestResult

end TestDaemon
