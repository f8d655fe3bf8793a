import TestDaemon.Machine.Launch

/-! # Tools

The programs of the system share the way in which they take options, name what they complain about and
read their inputs.
-/

namespace TestDaemon

/-- What a program is run with: the name that it was launched under, its arguments and variables, and how
it can become another program. -/
structure Invocation where
  name : Octets
  arguments : List Octets
  environment : Environment
  become : Octets → List Octets → Environment → Act (Except OsError Nat)

/-- A program, with the status of its end. -/
abbrev Tool := Invocation → Act Nat

namespace Tool

def print (text : Octets) : Act (Except OsError Unit) := Act.write 1 (Octets.toData text)

/-! ## Quoting -/

/-- Characters that need no quotes in a command. -/
def isPlain (c : Char) : Bool := c.isAlphanum || "%+,-./:@_".contains c

/-- Whether a text can stand in a command as it is. -/
def needsNoQuotes (text : Octets) : Bool :=
  text ≠ "" && text.toList.all fun c => isPlain c || c == '\x7b' || c == '\x7d' || c == ']' || c == '#' || c == '~'

/-- How an octet that cannot be shown is written. -/
def escaped (c : Char) : List Char :=
  match c with
  | '\n' => ['\\', 'n']
  | '\t' => ['\\', 't']
  | '\r' => ['\\', 'r']
  | '\x07' => ['\\', 'a']
  | '\x08' => ['\\', 'b']
  | '\x0b' => ['\\', 'v']
  | '\x0c' => ['\\', 'f']
  | c =>
    let n := c.toNat
    '\\' :: [n / 64 % 8, n / 8 % 8, n % 8].map fun digit => Char.ofNat ('0'.toNat + digit)

def isShown (c : Char) : Bool := ' ' ≤ c && c < '\x7f'

/-- A text in quotes, in which runs of octets that cannot be shown are written as escapes. -/
def quoted (text : Octets) : Octets :=
  let chars := text.toList
  if chars.all isShown then
    if !chars.contains '\'' then s!"'{text}'"
    else if chars.all fun c => c ≠ '"' && c ≠ '$' && c ≠ '`' && c ≠ '\\' then s!"\"{text}\""
    else
      String.ofList (['\''] ++ chars.flatMap (fun c => if c = '\'' then ['\'', '\\', '\'', '\''] else [c]) ++ ['\''])
  else String.ofList (['\''] ++ go false chars ++ ['\''])
where
  /-- The text behind the opening quote, inside an escape or not. -/
  go : (inEscape : Bool) → List Char → List Char
    | _, [] => []
    | inEscape, c :: rest =>
      if isShown c then
        let text := if c = '\'' then ['\\', '\''] else [c]
        if c = '\'' then
          (if inEscape then ['\\', '\''] ++ go true rest else ['\'', '\\', '\'', '\''] ++ go false rest)
        else (if inEscape then ['\'', '\''] else []) ++ text ++ go false rest
      else (if inEscape then [] else ['\'', '$', '\'']) ++ escaped c ++ go true rest

/-- A text in quotes, in which quotes, backslashes and octets that cannot be shown are escaped. -/
def cited (text : Octets) : Octets :=
  let char (c : Char) : List Char :=
    if c = '\'' || c = '\\' then ['\\', c] else if isShown c then [c] else escaped c
  String.ofList (['\''] ++ text.toList.flatMap char ++ ['\''])

/-- A text in quotes if it needs them. -/
def quotedIfNeeded (text : Octets) : Octets :=
  if needsNoQuotes text && !text.startsWith "#" && !text.startsWith "~" then text else quoted text

/-! ## Complaints -/

namespace Complaint

/-- Complain about something. -/
def say (invocation : Invocation) (text : Octets) : Act Unit :=
  Act.print 2 (invocation.name ++ ": " ++ text ++ "\n")

/-- Point at the help. -/
def pointAtHelp (invocation : Invocation) : Act Unit :=
  Act.print 2 s!"Try '{invocation.name} --help' for more information.\n"

/-- Complain, point at the help, and end. -/
def misused {α : Type} (invocation : Invocation) (status : Nat) (text : Octets) : Act α := do
  say invocation text
  pointAtHelp invocation
  throw (.exit status)

/-- Complain and end. -/
def fatal {α : Type} (invocation : Invocation) (status : Nat) (text : Octets) : Act α := do
  say invocation text
  throw (.exit status)

end Complaint

/-! ## Options -/

/-- The options of a program: letters, those behind which an argument follows, and long names with the
letters that they stand for. A long name that stands for no letter has its own. -/
structure Options where
  flags : String := ""
  valued : String := ""
  long : List (String × Char) := []
  /-- Whether options may follow operands. -/
  mixed : Bool := true
  status : Nat := 1

/-- The options that were given, in order, and the operands. -/
abbrev Given := List (Char × Octets) × List Octets

namespace Options

/-- Take the letters of one argument. -/
def takeLetters (invocation : Invocation) (options : Options) :
    List Char → List Octets → Act (List (Char × Octets) × List Octets)
  | [], rest => return ([], rest)
  | c :: letters, rest => do
    if options.valued.contains c then
      if !letters.isEmpty then return ([(c, String.ofList letters)], rest)
      match rest with
      | value :: rest => return ([(c, value)], rest)
      | [] => Complaint.misused invocation options.status s!"option requires an argument -- '{c}'"
    else if options.flags.contains c then
      let (given, rest) ← takeLetters invocation options letters rest
      return ((c, "") :: given, rest)
    else Complaint.misused invocation options.status s!"invalid option -- '{c}'"

/-- Take a long option. -/
def takeLong (invocation : Invocation) (options : Options) (text : Octets) (rest : List Octets) :
    Act ((Char × Octets) × List Octets) := do
  let (name, value?) := match Octets.cut? '=' text with
    | some (name, value) => (name, some value)
    | none => (text, none)
  let candidates := options.long.filter fun (long, _) => long.startsWith name
  let letters := (candidates.map (·.2)).eraseDups
  match (options.long.lookup name).or (if letters.length = 1 then letters.head? else none) with
  | none =>
    if candidates.isEmpty then
      Complaint.misused invocation options.status s!"unrecognized option '--{text}'"
    else
      let list := String.join (candidates.map fun (long, _) => s!" '--{long}'")
      Complaint.misused invocation options.status s!"option '--{name}' is ambiguous; possibilities:{list}"
  | some c =>
    if options.valued.contains c then
      match value?, rest with
      | some value, rest => return ((c, value), rest)
      | none, value :: rest => return ((c, value), rest)
      | none, [] =>
        let long := (candidates.head?.map (·.1)).getD name
        Complaint.misused invocation options.status s!"option '--{long}' requires an argument"
    else if value?.isSome then
      let long := (candidates.head?.map (·.1)).getD name
      Complaint.misused invocation options.status s!"option '--{long}' doesn't allow an argument"
    else return ((c, ""), rest)

/-- Take options and operands apart. -/
def takeAll (invocation : Invocation) (options : Options) : (bound : Nat) → List Octets → Act Given
  | 0, operands => return ([], operands)
  | _ + 1, [] => return ([], [])
  | bound + 1, argument :: rest => do
    if argument = "--" then return ([], rest)
    else if argument.startsWith "--" then
      let (first, rest) ← takeLong invocation options (String.ofList (argument.toList.drop 2)) rest
      let (given, operands) ← takeAll invocation options bound rest
      return (first :: given, operands)
    else if argument.startsWith "-" && argument ≠ "-" then
      let (first, rest) ← takeLetters invocation options argument.toList.tail rest
      let (given, operands) ← takeAll invocation options bound rest
      return (first ++ given, operands)
    else if options.mixed then
      let (given, operands) ← takeAll invocation options bound rest
      return (given, argument :: operands)
    else return ([], argument :: rest)

/-- The options and operands of an invocation. -/
def take (options : Options) (invocation : Invocation) : Act Given :=
  takeAll invocation options (invocation.arguments.length + 1) invocation.arguments

end Options

/-- Whether an option was given. -/
def has (given : Given) (letter : Char) : Bool := given.1.any (·.1 == letter)

/-- The value that was given last for an option. -/
def value? (given : Given) (letter : Char) : Option Octets :=
  ((given.1.reverse).find? (·.1 == letter)).map (·.2)

/-! ## Inputs -/

/-- The descriptor for reading a file, with whether it has to be closed. -/
def openToRead (path : Octets) : Act (Except OsError Nat) := do
  match ← Act.openPath .toRead path with
  | .error error => return .error error
  | .ok index =>
    let used := (← get).process.descriptors.map (·.1)
    let descriptor := ((List.range (used.length + 4)).drop 3).find? fun number => !used.contains number
    let descriptor := descriptor.getD 3
    Act.lead descriptor index
    return .ok descriptor

/-- The octets of a file, or of the standard input for a dash. -/
def readFile (path : Octets) : Act (Except OsError ByteArray) := do
  if path = "-" then Act.readAll 0
  else match ← openToRead path with
    | .error error => return .error error
    | .ok descriptor =>
      let result ← Act.readAll descriptor
      Act.close descriptor
      return result

/-- Put octets into a new file, or in place of those of an old one. -/
def writeFile (path : Octets) (append : Bool) (data : ByteArray) : Act (Except OsError Unit) := do
  match ← Act.openPath (if append then .toAppend else .toWrite) path with
  | .error error => return .error error
  | .ok index =>
    Act.lead 9 index
    let result ← Act.write 9 data
    Act.close 9
    return result

/-- Print an output again and again, until it is refused. -/
def printForever (output : Octets) : (bound : Nat) → Act OsError
  | 0 => throw .endless
  | bound + 1 => do
    Act.step
    match ← print output with
    | .ok () => printForever output bound
    | .error error => return error

/-- Write an output, and complain if that is not possible. -/
def finish (invocation : Invocation) (output : Octets) (status : Nat) : Act Nat := do
  if output = "" then return status
  match ← print output with
  | .ok () => return status
  | .error error =>
    Complaint.say invocation s!"write error: {error.description}"
    return 1

/-! ## Running programs -/

/-- The directories in which programs are looked for if no variable names any. -/
def standardDirectories : List Octets := ["/bin", "/usr/bin"]

/-- Become the program at the first of some paths that leads to one. A file that is no program is taken
for a script. -/
def becomeFirst (invocation : Invocation) (arguments : List Octets) (environment : Environment) :
    List Octets → (error : OsError) → Act (Except OsError Nat)
  | [], error => return .error error
  | path :: rest, error => do
    match ← invocation.become path arguments environment with
    | .ok status => return .ok status
    | .error .badFormat =>
      invocation.become "/bin/sh" ("/bin/sh" :: path :: arguments.tail) environment
    | .error .accessDenied => becomeFirst invocation arguments environment rest .accessDenied
    | .error _ => becomeFirst invocation arguments environment rest error

/-- Become the program of a name, which is looked for in the directories of the environment. -/
def becomeNamed (invocation : Invocation) (arguments : List Octets) (environment : Environment) :
    Act (Except OsError Nat) := do
  let name := arguments.headD ""
  if name = "" then return .error .notFound
  let paths := if name.toList.contains '/' then [name]
    else
      let directories := (environment.lookup "PATH").elim standardDirectories (Octets.split ':')
      directories.map fun directory => if directory = "" then name else directory ++ "/" ++ name
  becomeFirst invocation arguments environment paths .notFound

/-- The status of a program that could not run another one. -/
def refusalStatus (error : OsError) : Nat := if error = .notFound then 127 else 126

/-- Run something as another process, and come back with its end. -/
def spawn (act : Act Nat) : Act ProcessEnd := do
  let number ← Act.newProcess
  let change (process : Process) : Process :=
    { process with number, above := process.number :: process.above }
  match ← Act.within change act with
  | .ok status => return .exited (status % 256)
  | .error (.exit status) | .error (.failure status) => return .exited (status % 256)
  | .error (.killed signal) => return .killed signal
  | .error other => throw other

/-! ## Numbers -/

/-- The number that a text is, if it has digits only. -/
def number? (text : Octets) : Option Nat :=
  if text ≠ "" && text.toList.all Char.isDigit then text.toNat? else none

/-- The number that a text is, with a unit behind it. -/
def size? (text : Octets) : Option Nat := do
  let digits := String.ofList (text.toList.takeWhile Char.isDigit)
  let unit := String.ofList (text.toList.dropWhile Char.isDigit)
  let number ← number? digits
  let factor ← match unit with
    | "" => some 1
    | "b" => some 512
    | "kB" => some 1000
    | "k" | "K" | "KiB" => some 1024
    | "MB" => some 1000000
    | "M" | "MiB" => some 1048576
    | "GB" => some 1000000000
    | "G" | "GiB" => some 1073741824
    | _ => none
  return number * factor

end Tool

end TestDaemon
