import TestDaemon.Error
import TestDaemon.Frame
import TestDaemon.Text.Blank

/-! # Settings

What can be configured for a server and for a client, the values where nothing is configured, and the
ranges that are checked before use.
-/

namespace TestDaemon

/-- Without an address a server listens on all of them; port 0 lets the system choose. -/
structure ServerSettings where
  bindAddress : Option String := none
  port : UInt16 := 0
  maxFrameBytes : UInt64 := UInt64.ofNat FrameDecoder.defaultLimit
  workerThreads : UInt64 := 4
  deriving DecidableEq, Repr

/-- A client tries to connect until its timeout has passed, and pauses between attempts. -/
structure ClientSettings where
  host : String := "127.0.0.1"
  port : Option UInt16 := none
  connectTimeoutSeconds : UInt64 := 10
  retryIntervalMillis : UInt64 := 200
  deriving DecidableEq, Repr

structure Settings where
  server : ServerSettings := {}
  client : ClientSettings := {}
  deriving DecidableEq, Repr

namespace Error

def zeroSetting (name : String) : Error := ⟨.config, name ++ " must be greater than zero"⟩

def missingClientHost : Error := ⟨.config, "client host must be specified"⟩

def missingClientPort : Error := ⟨.config, "client port must be specified"⟩

end Error

namespace ClientSettings

def forAddress (host : String) (port : UInt16) : ClientSettings := { host, port := some port }

def connectTimeoutMillis (settings : ClientSettings) : Nat :=
  settings.connectTimeoutSeconds.toNat * 1000

def retryIntervalNanos (settings : ClientSettings) : Nat :=
  settings.retryIntervalMillis.toNat * 1000000

def requirePort (settings : ClientSettings) : Except Error UInt16 :=
  match settings.port with
  | some port => .ok port
  | none => .error .missingClientPort

/-- A blank host and an empty pause are refused. -/
def validate (settings : ClientSettings) : Except Error Unit :=
  if Text.trim settings.host = "" then .error .missingClientHost
  else if settings.retryIntervalMillis = 0 then .error (.zeroSetting "retry_interval_ms")
  else .ok ()

end ClientSettings

/-- Check all ranges; the first violation counts. -/
def Settings.validate (settings : Settings) : Except Error Unit :=
  if settings.server.maxFrameBytes = 0 then .error (.zeroSetting "max_frame_bytes")
  else if settings.server.workerThreads = 0 then .error (.zeroSetting "worker_threads")
  else settings.client.validate

end TestDaemon
