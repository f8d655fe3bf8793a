import TestDaemon.Client.Connecting
import TestDaemon.CommandLine.Report
import TestDaemon.Settings.Decoder
import TestDaemon.Text.Digits

/-! # The control program

One connection is opened and one task carried out over it. The settings come from a file, if one is
named, and are overridden by options. A failed test is a failure of the program.
-/

namespace TestDaemon

/-- What the control program is asked to do. -/
inductive ControlTask where
  | deploy (path : String)
  | undeploy (id : String)
  | test (id className method : String)
  | run (path className method : String)
  | stop
  deriving DecidableEq, Repr

structure Control where
  host : Option String
  port : Option UInt16
  timeoutSeconds : Option UInt64
  configPath : Option String
  task : ControlTask
  deriving DecidableEq, Repr

def Error.unreadableArchive (path : String) (cause : OsError) : Error :=
  ⟨.io, "cannot read " ++ path ++ ": " ++ cause.text⟩

namespace Control

open CommandLine

def program : Program :=
  ⟨"exec-daemon-ctl",
    ["[OPTIONS] deploy <ARCHIVE>", "[OPTIONS] undeploy <ID>", "[OPTIONS] test <ID> <CLASS> <METHOD>",
      "[OPTIONS] run <ARCHIVE> <CLASS> <METHOD>", "[OPTIONS] stop"]⟩

/-- The port that a text writes. A minus sign may stand before zero. -/
def port? (text : String) : Option UInt16 :=
  match text.toList with
  | '-' :: digits => if digits ≠ [] ∧ digits.all (· = '0') then some 0 else none
  | _ => Text.word16? text

def shape : Shape where
  options := [⟨"host", anyText⟩, ⟨"port", fun text => (port? text).isSome⟩,
    ⟨"timeout-seconds", fun text => (Text.word64? text).isSome⟩, ⟨"config", isFileName⟩]
  positionals := []
  required := 0
  commands := ["deploy", "undeploy", "test", "run", "stop"]
  versioned := true

/-- The arguments of a command, all of which are required. -/
def taskShape (positionals : List (String → Bool)) : Shape :=
  ⟨[], positionals, positionals.length, [], false⟩

/-- Read the words behind a command. -/
def parseTask (command : String) (words : List String) : Except Dismissal ControlTask := do
  match command with
  | "deploy" =>
    match (← (taskShape [isFileName]).parse words).positionals with
    | [path] => return .deploy path
    | _ => throw .usage
  | "undeploy" =>
    match (← (taskShape [anyText]).parse words).positionals with
    | [id] => return .undeploy id
    | _ => throw .usage
  | "test" =>
    match (← (taskShape [anyText, anyText, anyText]).parse words).positionals with
    | [id, className, method] => return .test id className method
    | _ => throw .usage
  | "run" =>
    match (← (taskShape [isFileName, anyText, anyText]).parse words).positionals with
    | [path, className, method] => return .run path className method
    | _ => throw .usage
  | _ =>
    let _ ← (taskShape []).parse words
    return .stop

/-- Read the command line. -/
def parse (words : List String) : Except Dismissal Control := do
  let arguments ← shape.parse words
  match arguments.command with
  | none => throw .usage
  | some (command, words) =>
    let task ← parseTask command words
    return {
      host := arguments.option? "host"
      port := (arguments.option? "port").bind port?
      timeoutSeconds := (arguments.option? "timeout-seconds").bind Text.word64?
      configPath := arguments.option? "config"
      task }

/-- The settings of the client: those of the file, overridden by the options. -/
def settings (files : FileReader) (control : Control) : Except Error ClientSettings := do
  let client ← match control.configPath with
    | none => pure {}
    | some path => (Settings.ofFile (files path)).map (·.client)
  return { client with
    host := control.host.getD client.host
    port := control.port <|> client.port
    connectTimeoutSeconds := control.timeoutSeconds.getD client.connectTimeoutSeconds }

/-- The lines that tell a result. -/
def describe (result : TestResult) : String :=
  s!"{result.status.title} in {result.elapsedMillis}ms\n" ++
    (result.message.map (· ++ "\n")).getD ""

/-- The report of a test. -/
def reportOf (result : TestResult) : Report :=
  ⟨if result.status = .failed then 1 else 0, describe result, ""⟩

def success (line : String) : Report := ⟨0, line ++ "\n", ""⟩

def failure (error : Error) : Report :=
  let hint :=
    if error.kind = .connectTimeout then "Is exec-daemon running and reachable?\n" else ""
  ⟨1, "", "Error: " ++ error.message ++ "\n" ++ hint⟩

def readArchive (files : FileReader) (path : String) : Except Halt Bytes :=
  (files path).mapError fun cause => .failed (.unreadableArchive path cause)

variable {σ : Type}

/-- Carry out the task over a connection. -/
def perform (remote : Remote σ) (files : FileReader) (client : Client σ) :
    ControlTask → Except Halt Report × Client σ
  | .deploy path =>
    match readArchive files path with
    | .error halt => (.error halt, client)
    | .ok archive =>
      let (result, client) := client.deployBytes remote archive
      (result.map success, client)
  | .undeploy id =>
    let (result, client) := client.undeployId remote id
    (result.map fun _ => success (Reply.okHead ++ id), client)
  | .test id className method =>
    let (result, client) := client.invokeOn remote id className method
    (result.map reportOf, client)
  | .run path className method =>
    match readArchive files path with
    | .error halt => (.error halt, client)
    | .ok archive =>
      let (result, client) := client.runTest remote archive className method
      (result.map reportOf, client)
  | .stop =>
    let (result, client) := client.stop remote
    (result.map fun _ => success "OK", client)

/-- How the program ends: with a report and the client that it used, if it connected. It does not end
where it waits for a silent peer or for another attempt, and not in order where its deadline lies past
the end of the clock. -/
def execute (remote : Remote σ) (files : FileReader) (connect : ClientSettings → Connecting σ)
    (control : Control) : Option (Report × Option (Client σ)) :=
  match control.settings files with
  | .error error => some (failure error, none)
  | .ok settings =>
    match connect settings with
    | .trying => none
    | .overflow => none
    | .failed error => some (failure error, none)
    | .client client =>
      match perform remote files client control.task with
      | (.error .waiting, _) => none
      | (.error (.failed error), client) => some (failure error, some client)
      | (.ok report, client) => some (report, some client)

end Control

end TestDaemon
