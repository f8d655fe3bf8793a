import TestDaemon.Machine.Mode
import TestDaemon.Shell.Builtin.Options

/-! # Directories, signals and jobs

The working directory, the bits that new files do not get, actions for signals, signals to processes, and
waiting for what runs in the background.
-/

namespace TestDaemon

namespace Shell

namespace Builtin

/-! ## The working directory -/

/-- A path from the root without detours: dots are taken out, and so are the names in front of two dots. -/
def plainPath (directory path : Octets) : Octets :=
  let start := if path.startsWith "/" then [] else Disk.segments directory
  let names := (Disk.segments path).foldl (fun names name =>
    if name = "." then names else if name = ".." then names.dropLast else names ++ [name]) start
  let head := if path.startsWith "//" && !path.startsWith "///" then "//" else "/"
  head ++ "/".intercalate names

/-- The path of the working directory without links. -/
def physicalPath : Run Octets := do
  let world := (← get).world
  return world.disk.pathOf (world.disk.nodes.size + 1) world.process.working

/-- Work in another directory. -/
def enter (path : Octets) (isPhysical : Bool) : Run Bool := do
  let shell ← Run.shell
  let target := if isPhysical then path else plainPath shell.directory path
  let world := (← get).world
  match world.disk.find world.process.working true target with
  | .error _ => return false
  | .ok number =>
    let node := world.disk.node number
    if !node.isDirectory || !node.permits 1 then return false
    Act.modifyProcess fun process => { process with working := number }
    let directory ← if isPhysical then physicalPath else pure target
    Run.modifyShell fun shell => { shell with directory }
    Run.setVariable "OLDPWD" shell.directory true
    Run.setVariable "PWD" directory true
    return true

/-- The directories in which a path is looked for, each with whether it has to be shown. -/
def candidates (path : Octets) : Run (List (Octets × Bool)) := do
  let isFixed := path.startsWith "/" || path = "." || path = ".." || path.startsWith "./" ||
    path.startsWith "../"
  if isFixed then return [(path, false)]
  match (← Run.shell).value? "CDPATH" with
  | none => return [(path, false)]
  | some list =>
    let found := (Octets.split ':' list).map fun directory =>
      if directory = "" then (path, false)
      else (if directory.endsWith "/" then directory ++ path else directory ++ "/" ++ path, true)
    return found ++ [(path, false)]

/-- Work in the first of some directories that is there. -/
def enterFirst (isPhysical : Bool) (asked : Octets) : List (Octets × Bool) → Run Bool
  | [] => Run.fail s!"can't cd to {asked}"
  | (path, shows) :: rest => do
    let world := (← get).world
    let isThere := match world.disk.find world.process.working true path with
      | .ok number => (world.disk.node number).isDirectory
      | .error _ => false
    if isThere || rest.isEmpty then
      if ← enter path isPhysical then return shows
      Run.fail s!"can't cd to {asked}"
    else enterFirst isPhysical asked rest

/-- The options that choose between the path as entered and the one without links. -/
def isPhysicalAsked (given : List (Char × Octets)) : Bool := (given.getLast?.map (·.1)) = some 'P'

def cd : Builtin := fun _ _ arguments => do
  let (given, operands) ← options "LP" "" arguments
  let shell ← Run.shell
  let (path, shows) := match operands.head? with
    | none => ((shell.value? "HOME").getD "", false)
    | some "-" => ((shell.value? "OLDPWD").getD "", true)
    | some path => (path, false)
  let found ← candidates (if path = "" then "." else path)
  let shown ← enterFirst (isPhysicalAsked given) path found
  if shows || shown then Run.print ((← Run.shell).directory ++ "\n")
  return 0

def pwd : Builtin := fun _ _ arguments => do
  let (given, _) ← options "LP" "" arguments
  let path ← if isPhysicalAsked given then physicalPath else pure (← Run.shell).directory
  Run.print (path ++ "\n")
  return 0

/-! ## Limits -/

def umask : Builtin := fun _ _ arguments => do
  let (given, operands) ← options "S" "" arguments
  let mask := (← get).world.process.mask
  match operands with
  | [] =>
    let text := if given.isEmpty then Mode.octalText mask else Mode.symbolicText (0o777 ^^^ mask)
    Run.print (text ++ "\n")
  | text :: _ =>
    let isNumber := (text.toList.headD ' ').isDigit
    match Mode.changed? false 0 (if isNumber then mask else 0o777 ^^^ mask) text with
    | none => Run.fail (if isNumber then "Illegal number: " ++ text else "Illegal mode: " ++ text)
    | some mode =>
      let mask := (if isNumber then mode else 0o777 ^^^ mode) &&& 0o777
      Act.modifyProcess fun process => { process with mask }
  return 0

/-- The limits are not enforced; most of them are shown as none. -/
def ulimit : Builtin := fun _ _ arguments => do
  let (given, operands) ← options "HSatfdscmlpnvwrc" "" arguments
  if operands.isEmpty then
    let letter := ((given.filter fun (c, _) => c ≠ 'H' && c ≠ 'S').getLast?.map (·.1)).getD 'f'
    Run.print (match letter with
      | 'c' => "0\n"
      | 'n' => "1024\n"
      | 's' => "8192\n"
      | _ => "unlimited\n")
  return 0

/-- The times of the shell and of other processes, which none of them takes. -/
def times : Builtin := fun _ _ _ => do
  let line := "0m0.000000s 0m0.000000s\n"
  Run.print (line ++ line)
  return 0

/-! ## Signals -/

/-- The first and the last one of the signals that have no meaning of their own. -/
def firstFree : Signal := 34

def lastFree : Signal := 64

/-- The name of a signal; one that has none is its number. -/
def signalName (signal : Signal) : String :=
  if signal = 0 then "EXIT"
  else if signal = 16 then "16"
  else if signal = 29 then "IO"
  else if signal < firstFree then (Signal.name? signal).getD (toString signal)
  else if signal = firstFree then "RTMIN"
  else if signal = lastFree then "RTMAX"
  else if signal < 50 then s!"RTMIN+{signal - firstFree}"
  else s!"RTMAX-{lastFree - signal}"

/-- The signal of a number or a name. Number 0 stands for the end, where `withEnd` holds. -/
def signal? (text : Octets) (withEnd : Bool) : Option Signal :=
  if text ≠ "" && text.toList.all Char.isDigit then
    match text.toNat? with
    | some number => if number < Signal.limit then some number else none
    | none => none
  else
    let name := text.toUpper
    if withEnd && name = "EXIT" then some 0
    else (List.range Signal.limit).find? fun signal => signal ≠ 0 && signalName signal == name

/-- Set the action for a signal, or take it away. -/
def setAction (signal : Signal) (action : Option Octets) : Run Unit := do
  Run.modifyShell fun shell =>
    let others := shell.actions.filter (·.1 != signal)
    { shell with actions := match action with
        | none => others
        | some text => others ++ [(signal, text)] }
  if signal ≠ 0 && !(← Run.shell).inert.contains signal then
    Act.modifyProcess fun process =>
      let others := process.ignored.filter (· != signal)
      { process with ignored := if action = some "" then signal :: others else others }

/-- Set an action for each of some signals. -/
def setActions (action : Option Octets) : List Octets → Run Nat
  | [] => return 0
  | text :: rest => do
    match signal? text true with
    | none =>
      Run.printError s!"trap: {text}: bad trap\n"
      return 1
    | some signal =>
      let action := if action = some "-" then none else action
      setAction signal action
      setActions action rest

def trap : Builtin := fun _ _ arguments => do
  let (_, operands) ← options "" "" arguments
  match operands with
  | [] =>
    let actions := (← Run.shell).actions.mergeSort fun a b => a.1 ≤ b.1
    for (signal, text) in actions do
      Run.print s!"trap -- {quotedAlways text} {signalName signal}\n"
    return 0
  | first :: rest =>
    let isNumber := first ≠ "" && first.toList.all Char.isDigit && (signal? first true).isSome
    if rest.isEmpty || isNumber then setActions none operands else setActions (some first) rest

/-- Whether a process is there, and what becomes of a job that is still running. -/
def sendTo (process : Nat) (signal : Signal) : Run Bool := do
  let world := (← get).world
  if process = world.process.number || world.process.above.contains process then
    if signal ≠ 0 then
      Act.send process signal
      if process = world.process.number then Act.obey (← Run.shell).handled
    return true
  let running := (← Run.shell).jobs.find? fun job => job.process == process && world.clock < job.time
  match running with
  | none => return false
  | some _ =>
    if signal ≠ 0 && !signal.isHarmless then
      Run.modifyShell fun shell =>
        { shell with
          jobs := shell.jobs.map fun job =>
            if job.process == process then { job with finish := .killed signal, time := world.clock }
            else job }
      modify fun session =>
        { session with
          world := { session.world with
            written := session.world.written.filter fun writing =>
              !(writing.job == process && world.clock < writing.time) } }
    return true

/-- The job that a text behind a percent sign means. -/
def jobOf (text : Octets) : Run Job := do
  let jobs := (← Run.shell).jobs
  let rest := String.ofList (text.toList.drop 1)
  let found :=
    if rest = "" || rest = "%" || rest = "+" then jobs.getLast?
    else if rest = "-" then jobs.dropLast.getLast?
    else match rest.toNat? with
      | some index => jobs.find? (·.index == index)
      | none => none
  match found with
  | some job => return job
  | none => Run.fail s!"No such job: {text}"

def killUsage {α : Type} : Run α :=
  Run.fail ("Usage: kill [-s sigspec | -signum | -sigspec] [pid | job]... or\n" ++ "kill -l [exitstatus]")

/-- Send a signal to each of some processes. -/
def sendAll (signal : Signal) : List Octets → (status : Nat) → Run Nat
  | [], status => return status
  | target :: rest, status => do
    let process ← do
      if target.startsWith "%" then pure (← jobOf target).process
      else if target.startsWith "-" then number (String.ofList (target.toList.drop 1))
      else number target
    let own := (← get).world.process.number
    let process := if process = 0 then own else process
    if ← sendTo process signal then sendAll signal rest status
    else
      Run.complain "No such process\n"
      sendAll signal rest 1

/-- List the signals, or the one that a status stands for. -/
def listSignals (operands : List Octets) : Run Nat := do
  match operands with
  | [] =>
    Run.print "0\n"
    for index in List.range lastFree do Run.print (signalName (index + 1) ++ "\n")
    return 0
  | text :: _ =>
    let value ← number text
    let value := if 128 < value then value - 128 else value
    if 0 < value && value < Signal.limit then
      Run.print (signalName value ++ "\n")
      return 0
    Run.fail s!"invalid signal number or exit status: {text}"

def kill : Builtin := fun _ _ arguments => do
  match arguments with
  | [] => killUsage
  | first :: rest =>
    if !first.startsWith "-" then sendAll Signal.terminate arguments 0
    else match signal? (String.ofList (first.toList.drop 1)) false with
      | some signal => if rest.isEmpty then killUsage else sendAll signal rest 0
      | none =>
        let (given, operands) ← options "l" "s" arguments
        let lists := given.any (·.1 == 'l')
        let mut signal := Signal.terminate
        for (letter, value) in given do
          if letter = 's' then
            match signal? value false with
            | some number => signal := number
            | none => Run.fail s!"invalid signal number or name: {value}"
        if lists then
          if given.any (·.1 == 's') then killUsage
          listSignals operands
        else if operands.isEmpty then killUsage
        else sendAll signal operands 0

/-! ## Jobs -/

/-- Wait up to a time, or to the first signal for which there is an action; the result is the signal. -/
def waitUntil (time : Nat) : Run (Option Signal) := do
  if time = Engine.never then throw .endless
  let world := (← get).world
  let handled := (← Run.shell).handled
  let coming := (Act.arrived world time).filter fun sending =>
    handled.contains sending.signal || !(world.process.ignored.contains sending.signal || sending.signal.isHarmless)
  match coming.mergeSort (fun a b => a.time ≤ b.time) with
  | [] =>
    modify fun session => { session with world := { session.world with clock := max world.clock time } }
    return none
  | sending :: _ =>
    modify fun session =>
      { session with world := { session.world with clock := max world.clock sending.time } }
    Act.obey handled
    return some sending.signal

/-- The end of a job, after waiting for it. -/
def waitFor : List Octets → (status : Nat) → Run Nat
  | [], status => return status
  | text :: rest, _ => do
    let job? ← do
      if text.startsWith "%" then pure (some (← jobOf text))
      else
        let process ← number text
        pure ((← Run.shell).jobs.find? (·.process == process))
    match job? with
    | none => waitFor rest 127
    | some job =>
      match ← waitUntil job.time with
      | some signal => return signal.status
      | none => waitFor rest job.finish.status

def wait : Builtin := fun _ _ arguments => do
  let (_, operands) ← options "" "" arguments
  if operands.isEmpty then
    let clock := (← get).world.clock
    match ← waitUntil ((← Run.shell).jobs.foldl (fun latest job => max latest job.time) clock) with
    | some signal => return signal.status
    | none => return 0
  waitFor operands 127

/-- No list of jobs is shown: without a terminal they are of no interest. -/
def jobs : Builtin := fun _ _ arguments => do
  let _ ← options "lp" "" arguments
  return 0

def foreground : Builtin := fun _ _ _ => Run.fail "No current job"

end Builtin

end Shell

end TestDaemon
