import TestDaemon.OsError
import TestDaemon.Settings
import TestDaemon.Text.Quoted
import TestDaemon.Toml.Document
import TestDaemon.Toml.Excerpt

/-! # Reading settings

Settings are read from a TOML document. Unknown keys are ignored, missing ones have their defaults,
and an array stands for a table with its items in the order of the fields. The first value in the
order of the document that does not fit is reported.
-/

namespace TestDaemon

namespace Toml

/-- The words for a value of an unexpected kind. -/
def Node.describe : Node → String
  | string _ text => "string " ++ Text.quote text
  | integer _ value => s!"integer `{value.toInt}`"
  | float _ value => "floating point `" ++ value.toString ++ "`"
  | boolean _ value => if value then "boolean `true`" else "boolean `false`"
  | datetime _ => "map"
  | array .. => "sequence"
  | table .. => "map"

/-- The complaint about a value of another kind than expected. -/
def Node.unexpected (node : Node) (expected : String) : Misfit :=
  ⟨"invalid type: " ++ node.describe ++ ", expected " ++ expected, node.span?⟩

/-- Read a text. -/
def Node.toText (node : Node) : Except Misfit String :=
  match node with
  | .string _ text => .ok text
  | other => .error (other.unexpected "a string")

/-- Read a number from 0 up to a limit. -/
def Node.toNumber (limit : Nat) (expected : String) (node : Node) : Except Misfit Nat :=
  match node with
  | .integer span value =>
    if 0 ≤ value.toInt ∧ value.toInt ≤ limit then .ok value.toInt.toNat
    else .error ⟨s!"invalid value: integer `{value.toInt}`, expected {expected}", some span⟩
  | other => .error (other.unexpected expected)

def Node.toPort (node : Node) : Except Misfit UInt16 :=
  (node.toNumber (UInt16.size - 1) "u16").map UInt16.ofNat

/-- Read a number of 64 bits. -/
def Node.toWord (expected : String) (node : Node) : Except Misfit UInt64 :=
  (node.toNumber (UInt64.size - 1) expected).map UInt64.ofNat

/-- Read the fields of a record one after the other: by name from a table, by place from an array. A
date has no fields. -/
def Node.readFields {α : Type} (names : List String) (set : α → String → Node → Except Misfit α)
    (expected : String) (start : α) (node : Node) : Except Misfit α :=
  match node with
  | .table _ _ entries =>
    (entries.foldlM (fun (record : α) entry =>
      (set record entry.1.name entry.2).mapError
        (Misfit.within (entry.2.span? <|> some entry.1.span))) start).mapError (.within node.span?)
  | .array _ _ items =>
    ((names.zip items).foldlM (fun (record : α) entry => set record entry.1 entry.2) start).mapError
      (.within node.span?)
  | .datetime _ => .ok start
  | other => .error (other.unexpected expected)

end Toml

namespace ServerSettings

open Toml

def fieldNames : List String := ["bind_address", "port", "max_frame_bytes", "worker_threads"]

/-- Read one field. -/
def set (settings : ServerSettings) (name : String) (node : Toml.Node) :
    Except Misfit ServerSettings :=
  match name with
  | "bind_address" => node.toText.map fun address => { settings with bindAddress := some address }
  | "port" => node.toPort.map fun port => { settings with port }
  | "max_frame_bytes" => (node.toWord "usize").map fun maxFrameBytes => { settings with maxFrameBytes }
  | "worker_threads" => (node.toWord "usize").map fun workerThreads => { settings with workerThreads }
  | _ => .ok settings

def ofNode (node : Toml.Node) : Except Misfit ServerSettings :=
  node.readFields fieldNames set "struct ServerConfig" {}

end ServerSettings

namespace ClientSettings

open Toml

def fieldNames : List String := ["host", "port", "connect_timeout_seconds", "retry_interval_ms"]

/-- Read one field. -/
def set (settings : ClientSettings) (name : String) (node : Toml.Node) :
    Except Misfit ClientSettings :=
  match name with
  | "host" => node.toText.map fun host => { settings with host }
  | "port" => node.toPort.map fun port => { settings with port := some port }
  | "connect_timeout_seconds" =>
    (node.toWord "u64").map fun connectTimeoutSeconds => { settings with connectTimeoutSeconds }
  | "retry_interval_ms" =>
    (node.toWord "u64").map fun retryIntervalMillis => { settings with retryIntervalMillis }
  | _ => .ok settings

def ofNode (node : Toml.Node) : Except Misfit ClientSettings :=
  node.readFields fieldNames set "struct ClientConfig" {}

end ClientSettings

namespace Error

/-- A text that breaks the rules of TOML. -/
def invalidSettings : Error := ⟨.config, "invalid config"⟩

/-- A document with a value that does not fit. -/
def misfitSettings (text : String) (misfit : Toml.Misfit) : Error :=
  ⟨.config, "invalid config: " ++ misfit.message text⟩

def unreadableSettings (cause : String) : Error := ⟨.config, "failed to read config: " ++ cause⟩

end Error

namespace Settings

open Toml

def fieldNames : List String := ["server", "client"]

/-- Read one part. -/
def set (settings : Settings) (name : String) (node : Toml.Node) : Except Misfit Settings :=
  match name with
  | "server" => (ServerSettings.ofNode node).map fun server => { settings with server }
  | "client" => (ClientSettings.ofNode node).map fun client => { settings with client }
  | _ => .ok settings

/-- Read and check the settings of a text. -/
def parse (text : String) : Except Error Settings :=
  match Toml.parse? text with
  | none => .error .invalidSettings
  | some entries =>
    match Toml.Node.readFields fieldNames set "struct DaemonConfig" {} (.table none .header entries) with
    | .error misfit => .error (.misfitSettings text misfit)
    | .ok settings => settings.validate.map fun _ => settings

/-- Read the settings in a file, or fail with the system's refusal. -/
def ofFile (contents : Except OsError Bytes) : Except Error Settings :=
  match contents with
  | .error error => .error (.unreadableSettings error.text)
  | .ok bytes =>
    match Utf8.decode? bytes with
    | none => .error (.unreadableSettings "stream did not contain valid UTF-8")
    | some text => parse text

end Settings

end TestDaemon
