import Std.Time.DateTime.Timestamp
import TestDaemon.Client.Canned
import TestDaemon.CommandLine.Control
import TestDaemon.CommandLine.Daemon
import TestDaemon.Connection
import TestDaemon.Execution

/-! # The programs

The first word names the program: `control` for the control program and `daemon` for the daemon. The
host is isolated, so that a control program finds no server, and a daemon serves one connection, whose
input and output are its own.
-/

namespace TestDaemon.Main

open CommandLine

/-- What is written to the streams of a program. -/
def leave (report : Report) : IO UInt32 := do
  (← IO.getStdout).putStr report.output
  (← IO.getStderr).putStr report.errors
  return report.code

/-- The reason for which a file could not be read. -/
def toOsError : IO.Error → OsError
  | .permissionDenied .. => .accessDenied
  | .inappropriateType .. => .isDirectory
  | _ => .notFound

/-- Read the files of a program in advance. -/
def readAll (paths : List String) : IO FileReader := do
  let read ← paths.mapM fun (path : String) => do
    let result ← try
        let data ← IO.FS.readBinFile path
        pure (Except.ok data.toList)
      catch error => pure (Except.error (toOsError error))
    return (path, result)
  return fun path => (read.lookup path).getD (.error .notFound)

/-- The files that a task reads. -/
def taskPaths : ControlTask → List String
  | .deploy path => [path]
  | .run path _ _ => [path]
  | _ => []

/-- The control program. -/
def control (words : List String) : IO UInt32 := do
  match Control.parse words with
  | .error dismissal => leave (Control.program.dismiss dismissal)
  | .ok control =>
    let files ← readAll (control.configPath.toList ++ taskPaths control.task)
    let now : Int := (← IO.monoNanosNow)
    let connect (settings : ClientSettings) : Connecting Bytes :=
      Client.connect settings now [⟨.failed (Host.refusal settings.host), now⟩]
    match control.execute Remote.canned files connect with
    | some (report, _) => leave report
    | none => return 101

/-- The present time. -/
def clock : IO (Option Timestamp) := do
  let nanos := (← Std.Time.Timestamp.now).toNanosecondsSinceUnixEpoch.val
  return Timestamp.of? (nanos / 1000000000) (nanos % 1000000000).toNat

/-- What the daemon serves with, at the present time. -/
def services (entropy : Nat) : IO Services := do
  let executor : Executor := match ← clock with
    | some now => processExecutor now now
    | none => fun _ className _ => .error (.launchFailed className "no clock")
  return ⟨fun serial payload => Zip.decode (entropy + serial) payload, executor, fun _ _ _ => false⟩

/-- Serve the connection until it ends, or a stop is requested, or the input ends. -/
partial def serve (entropy : Nat) (ended : Bool) (connection : Connection) : IO Unit := do
  let step := connection.serve (← services entropy) ended
  let output ← IO.getStdout
  output.write step.output.toByteArray
  output.flush
  match step.result with
  | .ok none =>
    if step.connection.context.stopRequested then return
    let input ← (← IO.getStdin).read 65536
    let connection := step.connection
    serve entropy input.isEmpty
      { connection with decoder := connection.decoder.feed input.toList }
  | _ => return

/-- The daemon. -/
def daemon (words : List String) : IO UInt32 := do
  match Daemon.parse words with
  | .error dismissal => leave (Daemon.program.dismiss dismissal)
  | .ok daemon =>
    let files ← readAll daemon.configPath.toList
    let host ← IO.getEnv Daemon.hostVariable
    let port ← IO.getEnv Daemon.portVariable
    let environment (name : String) : Option String :=
      if name = Daemon.hostVariable then host else if name = Daemon.portVariable then port else none
    let entropy := ((← IO.getRandomBytes 16).toList.foldl (fun n byte => 256 * n + byte.toNat) 0)
    let available ← services entropy
    let started := do
      let settings ← daemon.configure files environment
      let (_, server, _) ← Daemon.launch available .idle settings
      return server
    match started with
    | .error error => leave (Daemon.failure error)
    | .ok server =>
      serve entropy false (.new (.new server.store) server.options.maxFrameBytes .unlimited)
      return 0

end TestDaemon.Main

def main (words : List String) : IO UInt32 :=
  match words with
  | "control" :: words => TestDaemon.Main.control words
  | "daemon" :: words => TestDaemon.Main.daemon words
  | words => TestDaemon.Main.daemon words
