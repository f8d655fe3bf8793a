import TestDaemon.Shell.Builtin.Options

/-! # Variables, parameters and options

What a script changes in its own shell: variables and their properties, the parameters, the options, and
aliases; and how lines and options are read into variables.
-/

namespace TestDaemon

namespace Shell

namespace Builtin

/-- Set a variable whose name may be bad. -/
def setChecked (name value : Octets) (exports : Bool) : Run Unit := do
  if !isName name then Run.fail (name ++ ": bad variable name")
  Run.setVariable name value exports

/-- All variables that pass a test, with a head in front of each. -/
def listVariables (head : Octets) (test : Variable → Bool) : Run Unit := do
  let listed := (← Run.shell).bindings.filter (test ·.2)
  let listed := listed.mergeSort fun a b => Octets.le a.1 b.1
  for (name, entry) in listed do
    let value := entry.value.map fun value => "=" ++ quotedAlways value
    Run.print (head ++ name ++ value.getD "" ++ "\n")

/-- Mark variables as exported or protected, with new values for some, or list those that are. -/
def mark : Builtin := fun _ name arguments => do
  let exports := name = "export"
  let (given, operands) ← options "p" "" arguments
  if operands.isEmpty || !given.isEmpty then
    listVariables (name ++ " ") fun entry => if exports then entry.exported else entry.isReadOnly
    return 0
  for operand in operands do
    let (variableName, value?) := match Octets.cut? '=' operand with
      | some (head, value) => (head, some value)
      | none => (operand, none)
    if !isName variableName then Run.fail (variableName ++ ": bad variable name")
    match value? with
    | some value => Run.setVariable variableName value exports
    | none => pure ()
    Run.modifyShell fun shell =>
      let old := (shell.binding? variableName).getD {}
      shell.putVariable variableName
        (if exports then { old with exported := true } else { old with isReadOnly := true })
  return 0

def unset : Builtin := fun _ _ arguments => do
  let (given, operands) ← options "vf" "" arguments
  let ofFunctions := (given.getLast?.map (·.1)) = some 'f'
  for name in operands do
    if ofFunctions then
      Run.modifyShell fun shell => { shell with functions := shell.functions.filter (·.1 != name) }
    else
      if !isName name then Run.fail (name ++ ": bad variable name")
      Run.unsetVariable name
  return 0

/-- Make variables local to the function under way. -/
def makeLocal : Builtin := fun _ _ arguments => do
  if (← Run.shell).locals.isEmpty then Run.fail "not in a function"
  for argument in arguments do
    match Octets.cut? '=' argument with
    | some (name, value) =>
      Run.keepVariable name
      setChecked name value false
    | none =>
      if !isName argument && argument ≠ "-" then Run.fail (argument ++ ": bad variable name")
      Run.keepVariable argument
  return 0

/-! ## Parameters and options -/

def shift : Builtin := fun _ _ arguments => do
  let count ← match arguments with
    | [] => pure 1
    | text :: _ => number text
  if (← Run.shell).arguments.length < count then Run.fail "can't shift that many"
  Run.modifyShell fun shell => { shell with arguments := shell.arguments.drop count, optionOffset := none }
  Run.setVariable "OPTIND" "1" false
  return 0

/-- Switch an option on or off. -/
def switch (letter : Char) (on : Bool) : Run Unit :=
  Run.modifyShell fun shell =>
    let others := shell.options.filter (· != letter)
    { shell with options := if on then letter :: others else others }

/-- The sign that switches an option on or off. -/
def signOf (on : Bool) : String := if on then "-" else "+"

/-- The options that have a name but no letter. -/
def silentOptions : List String := ["nolog", "debug"]

/-- List the options, for a reader or as commands that set them. -/
def listOptions (asCommands : Bool) : Run Unit := do
  let shell ← Run.shell
  if !asCommands then Run.print "Current option settings\n"
  let named := optionNames.map fun (letter, name) => (name, shell.hasOption letter)
  for (name, on) in named ++ silentOptions.map (·, false) do
    if asCommands then Run.print s!"set {signOf on}o {name}\n"
    else
      let gap := String.ofList (List.replicate (16 - name.length) ' ')
      let state := if on then "on" else "off"
      Run.print s!"{name}{gap}{state}\n"

/-- Switch the options of one argument, which may take their names from the arguments behind it. -/
def switchLetters (on : Bool) : List Char → List Octets → Run (List Octets)
  | [], rest => return rest
  | 'o' :: letters, rest => do
    match rest with
    | [] => listOptions !on
    | name :: _ =>
      match optionNames.find? (·.2 == name) with
      | some (letter, _) => switch letter on
      | none =>
        if !silentOptions.contains name then
          Run.fail s!"Illegal option {signOf on}o {name}"
    switchLetters on letters rest.tail
  | letter :: letters, rest => do
    if (optionNames.lookup letter).isNone then
      Run.fail s!"Illegal option -{letter}"
    switch letter on
    switchLetters on letters rest

/-- Switch the options at the front. The first result is the arguments behind them, and the second one
whether an end of the options was marked. -/
def switchAll : (bound : Nat) → List Octets → Run (List Octets × Bool)
  | 0, rest => return (rest, false)
  | _ + 1, [] => return ([], false)
  | bound + 1, argument :: rest => do
    match argument.toList with
    | ['-', '-'] => return (rest, true)
    | ['-'] =>
      switch 'x' false
      switch 'v' false
      return (rest, !rest.isEmpty)
    | '-' :: letters => switchAll bound (← switchLetters true letters rest)
    | '+' :: letters => switchAll bound (← switchLetters false letters rest)
    | _ => return (argument :: rest, false)

def set : Builtin := fun _ _ arguments => do
  if arguments.isEmpty then
    listVariables "" fun entry => entry.value.isSome
    return 0
  let (rest, isMarked) ← switchAll (arguments.length + 1) arguments
  if isMarked || !rest.isEmpty then
    Run.modifyShell fun shell => { shell with arguments := rest, optionOffset := none }
    Run.setVariable "OPTIND" "1" false
  return 0

/-! ## Reading -/

/-- The octets of one line, each with whether it was escaped, and whether the line had an end. -/
def readOctets (isRaw : Bool) : (bound : Nat) → (isEscaped : Bool) → List Cell → Run (List Cell × Bool)
  | 0, _, _ => throw .endless
  | bound + 1, isEscaped, read => do
    match ← (Act.read 0 1 : Act (Except OsError ByteArray)) with
    | .error _ => return (read.reverse, false)
    | .ok piece =>
      match piece.toList with
      | [] => return (read.reverse, false)
      | byte :: _ =>
        let c := Octets.charOf byte
        if c = '\x00' then readOctets isRaw bound isEscaped read
        else if isEscaped then
          readOctets isRaw bound false (if c = '\n' then read else .octet c true :: read)
        else if c = '\\' && !isRaw then readOctets isRaw bound true read
        else if c = '\n' then return (read.reverse, true)
        else readOctets isRaw bound false (.octet c false :: read)

/-- The runs of octets that were not escaped, from a position on. -/
def plainRegions : (position start : Nat) → List Cell → List Region
  | position, start, [] => [⟨start, position, false⟩]
  | position, start, .octet _ true :: rest => ⟨start, position, false⟩ :: plainRegions (position + 1) (position + 1) rest
  | position, start, _ :: rest => plainRegions (position + 1) start rest

/-- Give values to variables; those that are left over become empty. -/
def giveAll : (names values : List Octets) → Run Unit
  | [], _ => return
  | name :: names, values => do
    setChecked name (values.headD "") false
    giveAll names values.tail

def read : Builtin := fun _ _ arguments => do
  let (given, names) ← options "r" "p" arguments
  if names.isEmpty then Run.fail "arg count"
  let (cells, isWhole) ← readOctets (given.any (·.1 == 'r')) Reading.bound false []
  let buffer : Buffer := { cells := cells.toArray, regions := (plainRegions 0 0 cells).toArray }
  let ranges := Expansion.fieldRanges (← Run.shell).separators (some names.length) buffer
  giveAll names (ranges.map fun (start, stop) => Cell.plainText (buffer.cells.extract start stop).toList)
  return if isWhole then 0 else 1

/-- The letter of an option at the front of a list, if it is there, with what follows it. -/
def allowedOption? (letter : Char) : List Char → Option Bool
  | [] => none
  | c :: rest => if c = letter && c ≠ ':' then some (rest.head? == some ':') else allowedOption? letter rest

/-- Take the next option out of arguments; what is reached in them is kept between calls. -/
def getopts : Builtin := fun _ _ arguments => do
  match arguments with
  | allowed :: name :: operands =>
    let shell ← Run.shell
    let words := if operands.isEmpty then shell.arguments else operands
    let index := max 1 (((shell.value? "OPTIND").bind (Numeral.read? 10 ·)).getD 1).toNat
    let isQuiet := allowed.startsWith ":"
    let letters := if isQuiet then allowed.toList.tail else allowed.toList
    let finish (value : Octets) (index : Nat) (offset : Option Nat) (status : Nat) : Run Nat := do
      Run.setVariable "OPTIND" (toString index) false
      setChecked name value false
      Run.modifyShell fun shell => { shell with optionOffset := offset }
      return status
    let word := (words[index - 1]?).getD ""
    let offset := match shell.optionOffset with
      | some offset => if offset < word.length then some offset else none
      | none => none
    let (word, index, offset?) : Octets × Nat × Option Nat := match shell.optionOffset, offset with
      | some _, some offset => (word, index, some offset)
      | _, _ =>
        match word.toList with
        | '-' :: _ :: _ => if word = "--" then ("--", index + 1, none) else (word, index, some 1)
        | _ => (word, index, none)
    match offset? with
    | none => finish "?" index none 1
    | some offset =>
      let letter := (word.toList[offset]?).getD '?'
      let isLast := word.length ≤ offset + 1
      let next := if isLast then index + 1 else index
      let nextOffset := if isLast then none else some (offset + 1)
      match allowedOption? letter letters with
      | none =>
        if isQuiet then Run.setVariable "OPTARG" letter.toString false
        else
          Run.printError s!"Illegal option -{letter}\n"
          Run.unsetVariable "OPTARG"
        finish "?" next nextOffset 0
      | some false =>
        Run.setVariable "OPTARG" "" false
        finish letter.toString next nextOffset 0
      | some true =>
        if !isLast then
          Run.setVariable "OPTARG" (String.ofList (word.toList.drop (offset + 1))) false
          finish letter.toString (index + 1) none 0
        else match words[index]? with
          | some value =>
            Run.setVariable "OPTARG" value false
            finish letter.toString (index + 2) none 0
          | none =>
            if isQuiet then
              Run.setVariable "OPTARG" letter.toString false
              finish ":" (index + 1) none 0
            else
              Run.printError s!"No arg for -{letter} option\n"
              Run.unsetVariable "OPTARG"
              finish "?" (index + 1) none 0
  | _ => Run.fail "Usage: getopts optstring var [arg...]"

/-! ## Aliases -/

def printAlias (name value : Octets) : Run Unit := Run.print s!"{name}={quotedAlways value}\n"

def setAliases : Builtin := fun _ _ arguments => do
  if arguments.isEmpty then
    for (name, value) in (← Run.shell).aliases do printAlias name value
    return 0
  let mut status := 0
  for argument in arguments do
    match Octets.cut? '=' argument with
    | some (name, value) =>
      if name ≠ "" then
        Run.modifyShell fun shell =>
          { shell with aliases := shell.aliases.filter (·.1 != name) ++ [(name, value)] }
    | none =>
      match (← Run.shell).aliases.lookup argument with
      | some value => printAlias argument value
      | none =>
        Run.printError s!"alias: {argument} not found\n"
        status := 1
  return status

def unalias : Builtin := fun _ _ arguments => do
  let (given, names) ← options "a" "" arguments
  if !given.isEmpty then
    Run.modifyShell fun shell => { shell with aliases := [] }
    return 0
  let mut status := 0
  for name in names do
    if ((← Run.shell).aliases.lookup name).isNone then
      Run.printError s!"unalias: {name} not found\n"
      status := 1
    Run.modifyShell fun shell => { shell with aliases := shell.aliases.filter (·.1 != name) }
  return status

end Builtin

end Shell

end TestDaemon
