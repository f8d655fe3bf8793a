/-! # Signals

What can be sent to a process. A process that does nothing about it is ended by most signals, and takes
no notice of a few.
-/

namespace TestDaemon

/-- A signal by its number. -/
abbrev Signal := Nat

namespace Signal

/-- The signals with their names, from number 1 on. -/
def names : List String :=
  ["HUP", "INT", "QUIT", "ILL", "TRAP", "ABRT", "BUS", "FPE", "KILL", "USR1", "SEGV", "USR2", "PIPE",
    "ALRM", "TERM", "STKFLT", "CHLD", "CONT", "STOP", "TSTP", "TTIN", "TTOU", "URG", "XCPU", "XFSZ",
    "VTALRM", "PROF", "WINCH", "POLL", "PWR", "SYS"]

/-- What is said of the end of a process by each signal, from number 1 on. -/
def descriptions : List String :=
  ["Hangup", "Interrupt", "Quit", "Illegal instruction", "Trace/breakpoint trap", "Aborted", "Bus error",
    "Floating point exception", "Killed", "User defined signal 1", "Segmentation fault",
    "User defined signal 2", "Broken pipe", "Alarm clock", "Terminated", "Stack fault", "Child exited",
    "Continued", "Stopped (signal)", "Stopped", "Stopped (tty input)", "Stopped (tty output)",
    "Urgent I/O condition", "CPU time limit exceeded", "File size limit exceeded",
    "Virtual timer expired", "Profiling timer expired", "Window changed", "I/O possible",
    "Power failure", "Bad system call"]

/-- The first number past the signals. -/
def limit : Nat := 65

def interrupt : Signal := 2

def kill : Signal := 9

def pipe : Signal := 13

def alarm : Signal := 14

def terminate : Signal := 15

def child : Signal := 17

/-- The signal of a name. -/
def ofName? (name : String) : Option Signal :=
  match names.idxOf? name with
  | some index => some (index + 1)
  | none => if name = "IO" then some 29 else if name = "CLD" then some 17 else none

def name? (signal : Signal) : Option String := if signal = 0 then none else names[signal - 1]?

def description (signal : Signal) : String :=
  (descriptions[signal - 1]?).getD s!"Unknown signal {signal}"

/-- Whether nothing happens unless something is done about a signal. -/
def isHarmless (signal : Signal) : Bool := [17, 18, 23, 28].contains signal

/-- Whether a process is held until it is told to go on. -/
def isHolding (signal : Signal) : Bool := [19, 20, 21, 22].contains signal

/-- Whether nothing can be done about a signal. -/
def isInevitable (signal : Signal) : Bool := signal == 9 || signal == 19

/-- The status that stands for the end of a process by a signal. -/
def status (signal : Signal) : Nat := 128 + signal

end Signal

end TestDaemon
