import TestDaemon.Machine.Launch
import TestDaemon.Shell.Expansion

/-! # Subshells, programs and actions

How a shell carries out texts as commands, and how it has commands carried out by other processes: in a
copy of itself, by a program, or with their output taken as a value. Other processes run to their end
before the shell goes on, also those in the background, whose effects in later time count as if they
happened then.
-/

namespace TestDaemon

namespace Shell

/-- How commands are carried out and programs run, up to a depth. `tested` tells that a failure of the
command is looked at, so that it does not end the shell. -/
structure Engine where
  evaluate : Command → (tested : Bool) → Run Nat
  execute : Octets → List Octets → Environment → Act (Except OsError Nat)

namespace Engine

/-! ## Texts as commands -/

/-- The source of a text, which may be that of a file. -/
def sourceOf (isFile : Bool) (text : Octets) : Run Source := do
  let shell ← Run.shell
  return { rest := text.toList.filter (· ≠ '\x00'), extended := shell.extended, isFile }

/-- The text that was read from a file, where it is to be shown. -/
def showRead (old new : Source) : Run Unit := do
  if old.isFile && (← Run.shell).hasOption 'v' then
    Run.printError (String.ofList (old.rest.take (old.rest.length - new.rest.length)))

/-- The next command of a source. -/
def nextCommand (source : Source) : Run (Option Command × Source) := do
  let shell ← Run.shell
  let start := { source with aliases := shell.aliases, documents := shell.documents }
  match Reading.readLine start with
  | .ok command? source =>
    showRead start source
    Run.modifyShell fun shell => { shell with documents := source.documents, readLine := source.line }
    return (command?, source)
  | .error fault source =>
    showRead start source
    Run.modifyShell fun shell => { shell with line := fault.line }
    Run.fail fault.text

/-- Carry out the commands of a source, until something is skipped. -/
def runSource (engine : Engine) : (bound : Nat) → Source → (status : Nat) → Run Nat
  | 0, _, _ => throw .endless
  | bound + 1, source, status => do
    match ← nextCommand source with
    | (none, _) => return status
    | (some command, source) =>
      let own ← do
        if command matches .nothing then pure status
        else if (← Run.shell).hasOption 'n' then pure status
        else engine.evaluate command false
      if (← Run.shell).skip ≠ .nothing then return own
      runSource engine bound source own

/-- Carry out a text, which may be that of a file. -/
def runWhole (engine : Engine) (isFile : Bool) (text : Octets) : Run Nat := do
  let readLine := (← Run.shell).readLine
  Run.ensuring (do runSource engine (text.length + 2) (← sourceOf isFile text) 0)
    (Run.modifyShell fun shell => { shell with readLine })

/-- Carry out a text. -/
def runText (engine : Engine) (text : Octets) : Run Nat := runWhole engine false text

/-- Carry out the text of a file. -/
def runFile (engine : Engine) (text : Octets) : Run Nat := runWhole engine true text

/-! ## Signals -/

/-- Forget a signal that has arrived. -/
def forget (sending : Sending) : Run Unit :=
  modify fun session =>
    { session with
      world := { session.world with
        signals := session.world.signals.filter fun other =>
          !(other.process == sending.process && other.signal == sending.signal) } }

/-- Carry out the action for a signal. The status afterwards is the one before, unless the action ends a
function with a status. -/
def act (engine : Engine) (text : Octets) : Run Unit := do
  let shell ← Run.shell
  let status := shell.savedStatus.getD shell.status
  Run.modifyShell fun shell => { shell with savedStatus := some status }
  let _ ← engine.runText text
  Run.modifyShell fun after =>
    { after with
      savedStatus := shell.savedStatus
      status := if after.skip = .body true then after.status else status }

/-- Do what is to be done about the signals that have arrived. While something is skipped, actions wait. -/
def obeySignals (engine : Engine) : Run Unit := do
  let world := (← get).world
  if world.signals.isEmpty then return
  Act.obey (← Run.shell).handled
  for sending in Act.arrived world world.clock do
    let shell ← Run.shell
    match shell.action? sending.signal with
    | none | some "" => forget sending
    | some text =>
      if shell.skip = .nothing then
        forget sending
        engine.act text

/-! ## Ends -/

/-- The end of a shell, after its action for the end. -/
def finishing (engine : Engine) (act : Run Nat) : Run ProcessEnd := do
  match ← endOf act with
  | .killed signal => return .killed signal
  | .exited status =>
    match (← Run.shell).action? 0 with
    | none | some "" => return .exited (status % 256)
    | some text =>
      Run.modifyShell fun shell =>
        { shell with
          actions := shell.actions.filter (·.1 ≠ 0)
          skip := .nothing
          savedStatus := some status
          status }
      match ← endOf (do
        let _ ← engine.runText text
        return status) with
      | .killed signal => return .killed signal
      | .exited status => return .exited (status % 256)
where
  /-- How something ends that may be interrupted. -/
  endOf (act : Run Nat) : Run ProcessEnd := do
    try return .exited (← act)
    catch interrupt =>
      match interrupt with
      | .exit status | .failure status => return .exited status
      | .killed signal => return .killed signal
      | other => throw other

/-- Do something in a copy of the shell, as another process. -/
def fork (engine : Engine) (change : Process → Process) (act : Run Nat) : Run ProcessEnd := do
  let kept ← Run.shell
  let own := (← get).world.process
  let number ← Act.newProcess
  Act.modifyProcess fun process => change { process with number, above := process.number :: process.above }
  Run.modifyShell fun shell =>
    { shell with actions := shell.actions.filter (·.2 = ""), jobs := [], savedStatus := none }
  let finish ← engine.finishing act
  modify fun session => { shell := kept, world := { session.world with process := own } }
  return finish

/-- Lead a descriptor of a process to an open file. -/
def withDescriptor (descriptor index : Nat) (process : Process) : Process :=
  { process with
    descriptors := (descriptor, index) :: process.descriptors.filter (·.1 != descriptor) }

/-- The status of a process that the shell has waited for, unless a signal has ended the shell meanwhile. An
end by a signal is reported, but for those that are meant to end programs quietly. -/
def statusOf (finish : ProcessEnd) : Run Nat := do
  Act.obey (← Run.shell).handled
  match finish with
  | .exited status => return status
  | .killed signal =>
    if signal ≠ Signal.interrupt && signal ≠ Signal.pipe then
      Run.printError (Signal.description signal ++ "\n")
    return finish.status

/-! ## Programs -/

/-- What is said of a program that cannot be run. -/
def refusalOf (error : OsError) : Octets :=
  match error with
  | .notFound | .notDirectory => "not found"
  | error => error.description

/-- The status of a shell that cannot run a program. -/
def refusalStatus (error : OsError) : Nat :=
  match error with
  | .notFound | .notDirectory | .tooManyLinks | .nameTooLong => 127
  | _ => 126

/-- Become a program. Files that are no programs are taken for scripts. -/
def become (engine : Engine) (path : Octets) (arguments : List Octets) (environment : Environment) :
    Run Nat := do
  let name := arguments.headD path
  match ← engine.execute path arguments environment with
  | .ok status => return status
  | .error .badFormat =>
    match ← engine.execute "/bin/sh" ("/bin/sh" :: path :: arguments.tail) environment with
    | .ok status => return status
    | .error error => refused name error
  | .error error => refused name error
where
  refused (name : Octets) (error : OsError) : Run Nat := do
    Run.complain s!"{name}: {refusalOf error}"
    throw (.exit (refusalStatus error))

/-- Run a program and wait for its end. -/
def runProgram (engine : Engine) (path : Octets) (arguments : List Octets) (environment : Environment) :
    Run Nat := do
  statusOf (← engine.fork id (engine.become path arguments environment))

/-! ## Substitutions -/

/-- The octets in a pipe, which is emptied. -/
def drain (pipe : Nat) : Run ByteArray :=
  modifyGet fun session =>
    let data := ((session.world.pipes[pipe]?).map (·.data)).getD .empty
    (data, { session with
      world := { session.world with pipes := session.world.pipes.modify pipe fun _ => {} } })

/-- The output of commands, without zeros and without the line ends at its end. -/
def substitute (engine : Engine) : Substitute := fun body => do
  if body matches .nothing then return ""
  let pipe ← Act.newPipe none
  let sink ← Act.register { channel := .sink pipe, writes := true }
  let finish ← engine.fork (withDescriptor 1 sink) (engine.evaluate body false)
  let innerStatus ← statusOf finish
  Run.modifyShell fun shell => { shell with innerStatus }
  let octets := ((← drain pipe).toList.filter (· ≠ 0)).reverse.dropWhile (· = 0x0A)
  return Octets.ofBytes octets.reverse

/-! ## Pipelines -/

/-- How much a pipe holds at first. -/
def pipeLimit : Nat := 65536

/-- Run the stages of a pipeline one after another, each from the same time on, and give the end of the
last one. -/
def runStages (engine : Engine) (limit startedAt : Nat) (tested : Bool) :
    (source : Option Nat) → (latest : Nat) → List Command → Run ProcessEnd
  | _, _, [] => return .exited 0
  | source, latest, stage :: rest => do
    modify fun session => { session with world := { session.world with clock := startedAt } }
    let input (process : Process) : Process :=
      match source with
      | none => process
      | some index => withDescriptor 0 index process
    if rest.isEmpty then
      let finish ← engine.fork input (engine.evaluate stage tested)
      modify fun session =>
        { session with world := { session.world with clock := max latest session.world.clock } }
      return finish
    let pipe ← Act.newPipe (some limit)
    let sink ← Act.register { channel := .sink pipe, writes := true }
    let finish ← engine.fork (fun process => withDescriptor 1 sink (input process))
      (engine.evaluate stage tested)
    let _ ← statusOf finish
    let clock := (← get).world.clock
    modify fun session =>
      { session with
        world := { session.world with
          pipes := session.world.pipes.modify pipe fun pipe => { pipe with closedAt := clock } } }
    let index ← Act.register { channel := .source pipe, reads := true }
    runStages engine limit startedAt tested (some index) (max latest clock) rest

/-- Run a pipeline. If a stage needs more than its pipe could hold, all is run again with larger ones. -/
def runPipeline (engine : Engine) (tested : Bool) (stages : List Command) :
    (bound limit : Nat) → Run ProcessEnd
  | 0, _ => throw .endless
  | bound + 1, limit => do
    let before ← get
    try engine.runStages limit before.world.clock tested none before.world.clock stages
    catch interrupt =>
      match interrupt with
      | .starved pipe =>
        if pipe < before.world.pipes.size then throw interrupt
        let steps := (← get).world.steps
        set { before with world := { before.world with steps } }
        runPipeline engine tested stages bound (limit * 16)
      | other => throw other

/-! ## The background -/

/-- When a process ends that does not end by itself. -/
def never : Nat := 1000000000000000

/-- Start something that the shell does not wait for. -/
def startJob (act : Run ProcessEnd) : Run Unit := do
  let before ← get
  let process := before.world.nextProcess
  modify fun session => { session with world := { session.world with job := process } }
  let (finish, time) ←
    try
      let finish ← act
      pure (finish, (← get).world.clock)
    catch interrupt =>
      match interrupt with
      | .endless =>
        set { before with
          world := { before.world with nextProcess := process + 1, steps := before.world.steps / 2 } }
        pure (ProcessEnd.exited 0, never)
      | other => throw other
  modify fun session =>
    { session with
      world := { session.world with clock := before.world.clock, job := before.world.job } }
  Run.modifyShell fun shell =>
    let index := (shell.jobs.foldl (fun index job => max index job.index) 0) + 1
    { shell with jobs := shell.jobs ++ [⟨process, finish, time, index⟩], lastBackground := some process }

/-- Run a command in the background, without the input of the shell. -/
def runInBackground (engine : Engine) (act : Run Nat) : Run Unit := do
  let input ← Act.register { channel := .device .null, reads := true }
  let change (process : Process) : Process :=
    { withDescriptor 0 input process with ignored := 2 :: 3 :: process.ignored }
  startJob (engine.fork change act)

end Engine

end Shell

end TestDaemon
