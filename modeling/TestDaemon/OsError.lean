import TestDaemon.Error

/-! # Errors of the operating system

The refusals that files, processes and sockets can meet, with their numbers and texts.
-/

namespace TestDaemon

inductive OsError where
  | notPermitted
  | notFound
  | noProcess
  | badFormat
  | badDescriptor
  | accessDenied
  | alreadyExists
  | notDirectory
  | isDirectory
  | invalidArgument
  | noSpace
  | illegalSeek
  | brokenPipe
  | nameTooLong
  | notEmpty
  | tooManyLinks
  | addressInUse
  | addressUnavailable
  | networkUnreachable
  | connectionReset
  | connectionRefused
  deriving DecidableEq, Repr

namespace OsError

def number : OsError → Nat
  | notPermitted => 1
  | notFound => 2
  | noProcess => 3
  | badFormat => 8
  | badDescriptor => 9
  | accessDenied => 13
  | alreadyExists => 17
  | notDirectory => 20
  | isDirectory => 21
  | invalidArgument => 22
  | noSpace => 28
  | illegalSeek => 29
  | brokenPipe => 32
  | nameTooLong => 36
  | notEmpty => 39
  | tooManyLinks => 40
  | addressInUse => 98
  | addressUnavailable => 99
  | networkUnreachable => 101
  | connectionReset => 104
  | connectionRefused => 111

def description : OsError → String
  | notPermitted => "Operation not permitted"
  | notFound => "No such file or directory"
  | noProcess => "No such process"
  | badFormat => "Exec format error"
  | badDescriptor => "Bad file descriptor"
  | accessDenied => "Permission denied"
  | alreadyExists => "File exists"
  | notDirectory => "Not a directory"
  | isDirectory => "Is a directory"
  | invalidArgument => "Invalid argument"
  | noSpace => "No space left on device"
  | illegalSeek => "Illegal seek"
  | brokenPipe => "Broken pipe"
  | nameTooLong => "File name too long"
  | notEmpty => "Directory not empty"
  | tooManyLinks => "Too many levels of symbolic links"
  | addressInUse => "Address already in use"
  | addressUnavailable => "Cannot assign requested address"
  | networkUnreachable => "Network is unreachable"
  | connectionReset => "Connection reset by peer"
  | connectionRefused => "Connection refused"

def text (error : OsError) : String := s!"{error.description} (os error {error.number})"

/-- What is said of a file or host name with a NUL in it, before the system is asked. -/
def nulInName : String := "file name contained an unexpected NUL byte"

end OsError

def Error.ofOs (error : OsError) : Error := ⟨.io, error.text⟩

def Error.nulInName : Error := ⟨.io, OsError.nulInName⟩

end TestDaemon
