/-! # Errors

An error has a kind, which decides how callers react, and a text that tells its cause. The causes are
named beside the rules that raise them; the full wording of an error is `Error.message`.
-/

namespace TestDaemon

inductive ErrorKind where
  | config
  | protocol
  | command
  | deploy
  | execution
  | notFound
  | lifecycle
  | connectTimeout
  | io
  deriving DecidableEq, Repr

/-- The words with which the message of an error of this kind begins. -/
def ErrorKind.label : ErrorKind → String
  | config => "config"
  | protocol => "protocol"
  | command => "command"
  | deploy => "deploy"
  | execution => "execution"
  | notFound => "not found"
  | lifecycle => "lifecycle"
  | connectTimeout => "connect timeout"
  | io => "io"

/-- The name of the kind as a programmer writes it. -/
def ErrorKind.name : ErrorKind → String
  | config => "Config"
  | protocol => "Protocol"
  | command => "Command"
  | deploy => "Deploy"
  | execution => "Execution"
  | notFound => "NotFound"
  | lifecycle => "Lifecycle"
  | connectTimeout => "ConnectTimeout"
  | io => "Io"

structure Error where
  kind : ErrorKind
  detail : String
  deriving DecidableEq, Repr

def Error.message (error : Error) : String := error.kind.label ++ ": " ++ error.detail

end TestDaemon
