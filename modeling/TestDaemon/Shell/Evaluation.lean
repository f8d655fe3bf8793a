import TestDaemon.Shell.Builtins
import TestDaemon.Shell.Condition
import TestDaemon.Shell.Redirecting

/-! # Carrying out commands

Each kind of command in turn. A command that fails ends a shell that is to stop at failures, unless the
failure is looked at; what is skipped is passed on outwards until a loop or a function ends it.
-/

namespace TestDaemon

namespace Shell

namespace Evaluation

/-- Keep the line of a command for complaints. -/
def atLine (line : Nat) : Run Unit := Run.modifyShell fun shell => { shell with line }

/-- The fields of words, one word after another. -/
def fieldsOf (engine : Engine) : List Word → Run (List Octets)
  | [] => return []
  | word :: rest => do
    let first ← Expansion.fields engine.substitute word
    return first ++ (← fieldsOf engine rest)

def targetsOf (engine : Engine) : List Redirection → Run (List Target)
  | [] => return []
  | redirection :: rest => do
    let first ← Redirection.target engine redirection
    return first :: (← targetsOf engine rest)

/-! ## Simple commands -/

/-- A command whose first words have been expanded: what it stands for, its fields, the words that are
left, and what was said about it by the words in front. -/
structure Settled where
  found : Found
  fields : List Octets
  words : List Word
  /-- Whether the first built-in command on the way is special. -/
  isSpecial : Option Bool := none
  withFunctions : Bool := true
  path : Option Octets := none

/-- The fields of the first word that has any, with the words behind it. -/
def firstFields (engine : Engine) : List Word → Run (List Octets × List Word)
  | [] => return ([], [])
  | word :: rest => do
    match ← Expansion.fields engine.substitute word with
    | [] => firstFields engine rest
    | fields => return (fields, rest)

/-- Whether the letters of an option of `command` only choose the directories to look in. -/
def choosesPath (text : Octets) : Bool :=
  match text.toList with
  | '-' :: c :: rest => (c :: rest).all (· == 'p')
  | _ => false

/-- Pass over the options of `command`; `none` if it is to be carried out itself. The flag tells whether
the directories are the standard ones. -/
def behindCommand (engine : Engine) : (bound : Nat) → List Octets → List Word → (standard : Bool) →
    Run (Option (List Octets × List Word × Bool) × List Octets × List Word)
  | 0, _, _, _ => throw .endless
  | bound + 1, before, words, standard => do
    -- `before` ends with the last argument looked at
    let (following, words) ← match before.drop 1 with
      | [] => firstFields engine words
      | rest => pure (rest, words)
    let all := before.take 1 ++ following
    match following with
    | [] => return (none, all, words)
    | text :: rest =>
      if text = "--" then
        let (rest, words) ← if rest.isEmpty then firstFields engine words else pure (rest, words)
        if rest.isEmpty then return (none, all, words)
        return (some (rest, words, standard), all, words)
      else if choosesPath text then
        let (result, others, words) ← behindCommand engine bound following words true
        return (result, before.take 1 ++ others, words)
      else if text.startsWith "-" && text ≠ "-" then return (none, all, words)
      else return (some (following, words, standard), all, words)

/-- Find out what a command is. -/
def settle (engine : Engine) : (bound : Nat) → Settled → Run Settled
  | 0, _ => throw .endless
  | bound + 1, settled => do
    let name := settled.fields.headD ""
    let found ← Search.find name settled.withFunctions settled.path
    let settled := { settled with found }
    match found with
    | .builtin isSpecial =>
      let settled := { settled with isSpecial := settled.isSpecial.or (some isSpecial) }
      if name ≠ "command" then return settled
      match ← behindCommand engine bound settled.fields settled.words false with
      | (none, fields, words) => return { settled with fields, words }
      | (some (fields, words, standard), _, _) =>
        let path := if standard then some Search.standardPath else settled.path
        settle engine bound { settled with fields, words, path, withFunctions := false }
    | _ => return settled

/-- The fields of the arguments; those that are assignments are not split for some commands. -/
def argumentsOf (engine : Engine) (assigning : Bool) : List Word → Run (List Octets)
  | [] => return []
  | word :: rest => do
    let first ← do
      if assigning && (Word.assignment? word).isSome then
        pure [← Expansion.text engine.substitute .assigned word]
      else Expansion.fields engine.substitute word
    return first ++ (← argumentsOf engine assigning rest)

/-- Carry out assignments, for the command alone or for good. -/
def assign (engine : Engine) (isLocal exports : Bool) : List Word → Run (List Octets)
  | [] => return []
  | word :: rest => do
    let text ← Expansion.text engine.substitute .assigned word
    match Octets.cut? '=' text with
    | some (name, value) =>
      if isLocal then Run.keepVariable name
      Run.setVariable name value (isLocal || exports)
    | none => pure ()
    return text :: (← assign engine isLocal exports rest)

/-- The text of a variable with its parameters and commands replaced; it is left as it is if that fails. -/
def replacedText (engine : Engine) (text : Octets) : Run Octets := do
  if !text.toList.any fun c => c = '$' || c = '`' || c = '\\' then return text
  match Reading.readQuoted { rest := text.toList } with
  | .error _ _ => return text
  | .ok word _ =>
    try Expansion.text engine.substitute .document word
    catch interrupt =>
      match interrupt with
      | .failure _ => return text
      | other => throw other

/-- Show a command that is about to be carried out. -/
def trace (engine : Engine) (texts : List Octets) (descriptor : Nat) : Run Unit := do
  let shell ← Run.shell
  if shell.hasOption 'x' then
    Run.modifyShell fun shell => { shell with options := shell.options.filter (· ≠ 'x') }
    let head ← replacedText engine ((shell.value? "PS4").getD "")
    Run.modifyShell fun after => { after with options := shell.options }
    Act.print descriptor (head ++ " ".intercalate texts ++ "\n")

/-- Call a function with arguments. -/
def callFunction (engine : Engine) (function : Function) (arguments : List Octets) (tested : Bool) :
    Run Nat := do
  let outer ← Run.shell
  Run.modifyShell fun shell =>
    { shell with arguments, functionLine := function.line, loops := 0, optionOffset := none }
  let _ ← Run.ensuring (engine.evaluate function.body tested)
    (Run.modifyShell fun shell =>
      { shell with
        arguments := outer.arguments
        functionLine := outer.functionLine
        loops := outer.loops
        optionOffset := outer.optionOffset
        skip := if shell.skip matches .body _ then .nothing else shell.skip })
  return (← Run.shell).status

/-- Carry out a command that has been found. -/
def callFound (engine : Engine) (settled : Settled) (fields : List Octets) (tested : Bool) : Run Nat := do
  let name := fields.headD ""
  match settled.found with
  | .function function => callFunction engine function fields.tail tested
  | .builtin _ => callBuiltin engine name (settled.isSpecial = some true) fields.tail
  | _ =>
    match ← Search.find name settled.withFunctions settled.path with
    | .program path => engine.runProgram path fields (← Run.shell).environment
    | .missing error =>
      Run.complain s!"{name}: {Engine.refusalOf error}"
      return 127
    | _ => return 127

/-- Carry out a simple command with a name. -/
def named (engine : Engine) (settled : Settled) (assignments : List Word) (redirections : List Redirection)
    (tested : Bool) : Run Nat := do
  let name := settled.fields.headD ""
  let assigning := (settled.found matches .builtin _) && assigningNames.contains name
  let fields := settled.fields ++ (← argumentsOf engine assigning settled.words)
  let isSpecial := settled.isSpecial = some true
  let isExec := (settled.found matches .builtin _) && name = "exec"
  let targets ← targetsOf engine redirections
  if !isSpecial then Run.pushLocals
  let onFailure (status : Nat) : Run Nat := do
    Run.setStatus status
    if isSpecial then throw (.failure status) else return status
  let errors := (← get).world.process.descriptors.lookup 2
  let act : Run Nat := do
    let assigned ← assign engine (!isSpecial) (isExec && fields.length ≠ 1) assignments
    traceTo errors (assigned ++ fields)
    callFound engine settled fields tested
  Run.ensuring (Redirection.under targets (return isExec) onFailure act)
    (if isSpecial then return else Run.popLocals)
where
  /-- Show a command where the error output led before its redirections. -/
  traceTo (errors : Option Nat) (texts : List Octets) : Run Unit := do
    if !(← Run.shell).hasOption 'x' then return
    let own := (← get).world.process.descriptors
    match errors with
    | none => return
    | some index =>
      Act.lead 2 index
      trace engine texts 2
      Act.modifyProcess fun process => { process with descriptors := own }

/-- Carry out a simple command. -/
def simple (engine : Engine) (line : Nat) (assignments words : List Word)
    (redirections : List Redirection) (tested : Bool) : Run Nat := do
  atLine line
  Run.modifyShell fun shell => { shell with innerStatus := 0 }
  match ← firstFields engine words with
  | ([], _) =>
    let targets ← targetsOf engine redirections
    Redirection.under targets (return false)
      (fun status => do
        Run.setStatus status
        return status)
      (do
        let assigned ← assign engine false false assignments
        trace engine assigned 2
        return (← Run.shell).innerStatus)
  | (fields, words) =>
    let settled ← settle engine (fields.length + words.length + 2) { found := .builtin false, fields, words }
    named engine settled assignments redirections tested

/-! ## Loops -/

/-- What a loop does next, after one of its parts: it goes on, or it ends. -/
def endsLoop : Run Bool := do
  match (← Run.shell).skip with
  | .nothing => return false
  | .leave count =>
    Run.modifyShell fun shell => { shell with skip := if count ≤ 1 then .nothing else .leave (count - 1) }
    return true
  | .goOn count =>
    Run.modifyShell fun shell => { shell with skip := if count ≤ 1 then .nothing else .goOn (count - 1) }
    return 1 < count
  | .body _ => return true

def inLoop (act : Run Nat) : Run Nat := do
  Run.modifyShell fun shell => { shell with loops := shell.loops + 1 }
  let status ← act
  Run.modifyShell fun shell => { shell with loops := shell.loops - 1 }
  return status

/-- Whether what is skipped has reached the next round of a loop. -/
def skips : Run Bool := return (← Run.shell).skip ≠ .nothing

/-- Carry out a loop as long as its condition holds. -/
def loop (engine : Engine) (untilTrue : Bool) (test body : Command) (tested : Bool) :
    (bound status : Nat) → Run Nat
  | 0, _ => throw .endless
  | bound + 1, status => do
    Act.step
    let answer ← engine.evaluate test true
    if ← skips then
      let hasStatus := (← Run.shell).skip = .body true
      let ends ← endsLoop
      let status := if hasStatus then answer else status
      if ends then return status else loop engine untilTrue test body tested bound status
    else if (answer = 0) = untilTrue then return status
    else
      let status ← engine.evaluate body tested
      if ← endsLoop then return status else loop engine untilTrue test body tested bound status

/-- Carry out commands for each of some values of a variable. -/
def each (engine : Engine) (name : Octets) (body : Command) (tested : Bool) :
    List Octets → (status : Nat) → Run Nat
  | [], status => return status
  | value :: rest, _ => do
    Run.setVariable name value false
    let status ← engine.evaluate body tested
    if ← endsLoop then return status else each engine name body tested rest status

/-! ## Choices -/

def matchesAny (engine : Engine) (subject : Octets) : List Word → Run Bool
  | [] => return false
  | word :: rest => do
    if Pattern.isMatch (← Expansion.pattern engine.substitute word) subject then return true
    matchesAny engine subject rest

/-- Carry out the first branch that has a pattern for a text. -/
def choose (engine : Engine) (subject : Octets) (tested : Bool) : List Branch → Run Nat
  | [] => return 0
  | .branch patterns body :: rest => do
    if ← matchesAny engine subject patterns then
      if body matches .nothing then return 0 else engine.evaluate body tested
    else choose engine subject tested rest

/-! ## Lists -/

/-- Carry out commands one after another, until something is skipped. -/
def inSequence (engine : Engine) (tested : Bool) : List Command → (status : Nat) → Run Nat
  | [], status => return status
  | command :: rest, _ => do
    let status ← engine.evaluate command tested
    if ← skips then return status
    inSequence engine tested rest status

/-- Carry out a command in a subshell that has redirections. -/
def inSubshell (engine : Engine) (body : Command) (targets : List Target) (tested : Bool) : Run Nat := do
  targets.forM Redirection.apply
  engine.evaluate body tested

/-- Carry out a command. The second result tells whether its failure counts. -/
def dispatch (engine : Engine) (command : Command) (tested : Bool) : Run (Nat × Bool) := do
  match command with
  | .nothing => return (0, false)
  | .simple line assignments words redirections =>
    return (← simple engine line assignments words redirections tested, true)
  | .pipeline inBackground stages =>
    if inBackground then
      engine.runInBackground (do
        match ← engine.runPipeline tested stages 10 Engine.pipeLimit with
        | .exited status => return status
        | .killed signal => throw (.killed signal))
      return (0, true)
    let finish ← engine.runPipeline tested stages 10 Engine.pipeLimit
    return (← Engine.statusOf finish, true)
  | .redirected line body redirections =>
    atLine line
    let targets ← targetsOf engine redirections
    let status ← Redirection.under targets (return false) (fun status => return status)
      (engine.evaluate body tested)
    return (status, false)
  | .background line body redirections =>
    atLine line
    let targets ← targetsOf engine redirections
    engine.runInBackground (inSubshell engine body targets false)
    return (0, true)
  | .subshell line body redirections =>
    atLine line
    let targets ← targetsOf engine redirections
    let finish ← engine.fork id (inSubshell engine body targets tested)
    return (← Engine.statusOf finish, true)
  | .sequence commands => return (← inSequence engine tested commands 0, false)
  | .both first second =>
    let status ← engine.evaluate first true
    if status ≠ 0 || (← skips) then return (status, false)
    return (← engine.evaluate second tested, false)
  | .either first second =>
    let status ← engine.evaluate first true
    if status = 0 || (← skips) then return (status, false)
    return (← engine.evaluate second tested, false)
  | .negation body =>
    let status ← engine.evaluate body true
    if ← skips then return (status, false)
    return (if status = 0 then 1 else 0, false)
  | .conditional test yes no =>
    let answer ← engine.evaluate test true
    if ← skips then return (answer, false)
    if answer = 0 then return (← engine.evaluate yes tested, false)
    if no matches .nothing then return (0, false)
    return (← engine.evaluate no tested, false)
  | .loop untilTrue test body =>
    return (← inLoop (loop engine untilTrue test body tested Reading.bound 0), false)
  | .each line name words body =>
    atLine line
    let values ← fieldsOf engine words
    return (← inLoop (each engine name body tested values 0), false)
  | .choice line subject branches =>
    atLine line
    let subject ← Expansion.text engine.substitute .text subject
    return (← choose engine subject tested branches, false)
  | .function line name body =>
    Run.modifyShell fun shell =>
      { shell with functions := (name, ⟨line, body⟩) :: shell.functions.filter (·.1 != name) }
    return (0, false)
  | .condition line items =>
    atLine line
    return (← Condition.status engine items, true)
  | .computation line expression =>
    atLine line
    let text ← Expansion.text engine.substitute {} expression
    return (if (← Arithmetic.evaluate text) = 0 then 1 else 0, true)

/-- Carry out a command, with the actions for the signals that arrive before and behind it. -/
def evaluate (engine : Engine) (command : Command) (tested : Bool) : Run Nat := do
  Act.step
  engine.obeySignals
  let (status, counts) ← dispatch engine command tested
  Run.setStatus status
  engine.obeySignals
  if counts && status ≠ 0 && !tested && (← Run.shell).hasOption 'e' then throw (.exit status)
  return status

end Evaluation

end Shell

end TestDaemon
