import TestDaemon.CommandLine.Report
import TestDaemon.Server
import TestDaemon.Settings.Decoder
import TestDaemon.Text.Digits
import TestDaemon.Text.Quoted

/-! # The daemon program

The address to listen on comes from the environment, else from the command line, else from the file
with the settings. A blank name is as good as none, and an empty port lets the system choose.
-/

namespace TestDaemon

inductive LogFormat where
  | text
  | json
  deriving DecidableEq, Repr

/-- The command line of the daemon. -/
structure Daemon where
  host : Option String
  port : Option String
  configPath : Option String
  logFormat : LogFormat
  deriving DecidableEq, Repr

def Error.unreadablePort (text : String) : Error :=
  ⟨.config, "Bind port must be between 0 and 65535: " ++ text⟩

namespace Daemon

open CommandLine

def program : Program := ⟨"exec-daemon", ["[OPTIONS] [HOST] [PORT]"]⟩

def logFormat? : String → Option LogFormat
  | "text" => some .text
  | "json" => some .json
  | _ => none

def shape : Shape where
  options := [⟨"config", isFileName⟩, ⟨"log-format", fun text => (logFormat? text).isSome⟩]
  positionals := [anyText, anyText]
  required := 0
  commands := []
  versioned := true

/-- Read the command line. -/
def parse (words : List String) : Except Dismissal Daemon := do
  let arguments ← shape.parse words
  return {
    host := arguments.positionals[0]?
    port := arguments.positionals[1]?
    configPath := arguments.option? "config"
    logFormat := ((arguments.option? "log-format").bind logFormat?).getD .text }

/-- The variable that overrides the name to listen on. -/
def hostVariable : String := "EXEC_DAEMON_BIND_NAME"

/-- The variable that overrides the port to listen on. -/
def portVariable : String := "EXEC_DAEMON_BIND_PORT"

/-- The port that a text stands for. -/
def readPort (text : String) : Except Error UInt16 :=
  let text := Text.trim text
  if text = "" then .ok 0
  else match Text.word16? text with
    | some port => .ok port
    | none => .error (.unreadablePort text)

/-- The settings with the overrides of the environment and the command line. -/
def override (daemon : Daemon) (environment : String → Option String) (settings : Settings) :
    Except Error Settings := do
  let host := environment hostVariable <|> daemon.host
  let bindAddress := match host with
    | some host => if Text.trim host = "" then settings.server.bindAddress else some host
    | none => settings.server.bindAddress
  let port ← match environment portVariable <|> daemon.port with
    | some text => readPort text
    | none => pure settings.server.port
  return { settings with server := { settings.server with bindAddress, port } }

/-- The settings that the daemon runs with. -/
def configure (files : FileReader) (environment : String → Option String) (daemon : Daemon) :
    Except Error Settings := do
  let settings ← match daemon.configPath with
    | none => pure {}
    | some path => Settings.ofFile (files path)
  daemon.override environment settings

/-- Start a server as configured. -/
def launch (services : Services) (host : Host) (settings : Settings) :
    Except Error (SocketAddress × Server × Host) := do
  let server ← Server.ofSettings services settings.server
  match server.start host with
  | (.error error, _) => throw error
  | (.ok address, server, host) => return (address, server, host)

/-- The report of a daemon that failed. -/
def failure (error : Error) : Report :=
  ⟨1, "", "Error: " ++ error.kind.name ++ "(" ++ Text.quote error.detail ++ ")\n"⟩

end Daemon

end TestDaemon
