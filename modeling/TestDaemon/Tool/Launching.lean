import TestDaemon.Tool.Basic

/-! # Tools that run programs

Running a program with other variables, under other conditions, for some time only, or for items that
are read.
-/

namespace TestDaemon

namespace Tool

/-! ## Variables -/

/-- The lines of an environment. -/
def environmentLines (environment : Environment) (ending : Octets) : Octets :=
  String.join (environment.map fun (name, value) => s!"{name}={value}{ending}")

/-- Set a variable in its place, or behind all others. -/
def withVariable (environment : Environment) (name value : Octets) : Environment :=
  if (environment.lookup name).isSome then
    environment.map fun (old, kept) => if old = name then (old, value) else (old, kept)
  else environment ++ [(name, value)]

namespace Splitting

/-- The words of a text that stands for several arguments. -/
structure Progress where
  words : List Octets := []
  word : Option Octets := none

def Progress.put (progress : Progress) (text : Octets) : Progress :=
  { progress with word := some (progress.word.getD "" ++ text) }

def Progress.finish (progress : Progress) : List Octets := progress.words ++ progress.word.toList

/-- The character of an escape by a letter; a space of double quotes stands for itself. -/
def letter? : Char → Option Octets
  | 'f' => some "\x0c"
  | 'n' => some "\n"
  | 'r' => some "\r"
  | 't' => some "\t"
  | 'v' => some "\x0b"
  | '#' => some "#"
  | '$' => some "$"
  | '_' => some " "
  | '"' => some "\""
  | '\'' => some "'"
  | '\\' => some "\\"
  | _ => none

/-- Split a text; `quote?` is the quote that is open. The error is the complaint. -/
def split (environment : Environment) : (bound : Nat) → (quote? : Option Char) → List Char → Progress →
    Except Octets (List Octets)
  | 0, _, _, progress => .ok progress.finish
  | _ + 1, some _, [], _ => .error "no terminating quote in -S string"
  | _ + 1, none, [], progress => .ok progress.finish
  | bound + 1, quote?, c :: rest, progress =>
    if quote? = some c then split environment bound none rest (progress.put "")
    else if c = '\'' && quote? ≠ some '"' || c = '"' && quote? ≠ some '\'' then
      split environment bound (some c) rest (progress.put "")
    else if quote? = some '\'' && c ≠ '\\' then split environment bound quote? rest (progress.put c.toString)
    else if quote?.isNone && (c = ' ' || ('\t' ≤ c && c ≤ '\x0d')) then
      split environment bound none rest ⟨progress.finish, none⟩
    else if c = '#' && quote?.isNone && progress.word.isNone then .ok progress.finish
    else if c = '$' && quote? ≠ some '\'' then
      let name := (rest.drop 1).takeWhile fun c => c.isAlphanum || c = '_'
      let tail := rest.drop (name.length + 1)
      if rest.head? = some '\x7b' && !name.isEmpty && !(name.headD 'a').isDigit && tail.head? = some '\x7d' then
        match environment.lookup (String.ofList name) with
        | none => split environment bound quote? tail.tail progress
        | some value => split environment bound quote? tail.tail (progress.put value)
      else
        .error ("only $\x7bVARNAME\x7d expansion is supported, error at: " ++ String.ofList (c :: rest))
    else if c ≠ '\\' then split environment bound quote? rest (progress.put c.toString)
    else match rest with
      | [] => .error "invalid backslash at end of string in -S"
      | next :: rest =>
        if quote? = some '\'' && next ≠ '\\' && next ≠ '\'' then
          split environment bound quote? (next :: rest) (progress.put "\\")
        else if next = 'c' then
          if quote? = some '"' then .error "'\\c' must not appear in double-quoted -S string"
          else .ok progress.finish
        else if next = '_' && quote?.isNone then split environment bound none rest ⟨progress.finish, none⟩
        else match letter? next with
          | some text => split environment bound quote? rest (progress.put text)
          | none => .error ("invalid sequence '\\" ++ next.toString ++ "' in -S")

end Splitting

namespace Env

/-- What a program is to be run with. -/
structure Request where
  isEmpty : Bool := false
  ending : Octets := "\n"
  directory : Option Octets := none
  unset : List Octets := []
  rest : List Octets

/-- The letters of options, those with arguments behind them, and long names. -/
def options : Options :=
  { flags := "i0v", valued := "uCS", mixed := false, status := 125,
    long := [("ignore-environment", 'i'), ("null", '0'), ("unset", 'u'), ("chdir", 'C'),
      ("split-string", 'S'), ("debug", 'v')] }

def blanks : List Char := [' ', '\t', '\n', '\x0b', '\x0c', '\r']

/-- Put the words of a text that stands for several arguments in front of the others. -/
def respread (invocation : Invocation) (text : Octets) (rest : List Octets) : Act (List Octets) := do
  match Splitting.split invocation.environment (2 * text.length + 2) none text.toList {} with
  | .ok words => return words ++ rest
  | .error complaint => Complaint.fatal invocation 125 complaint

/-- Take the letters of one argument; texts that stand for several arguments are put in their place. -/
def takeLetters (invocation : Invocation) : List Char → Request → Act Request
  | [], request => return request
  | c :: letters, request => do
    match c with
    | 'i' => takeLetters invocation letters { request with isEmpty := true }
    | '0' => takeLetters invocation letters { request with ending := "\x00" }
    | 'v' => takeLetters invocation letters request
    | 'u' | 'C' | 'S' =>
      let (value, rest) ← match letters, request.rest with
        | [], [] => Complaint.misused invocation 125 s!"option requires an argument -- '{c}'"
        | [], value :: rest => pure (value, rest)
        | letters, rest => pure (String.ofList letters, rest)
      match c with
      | 'u' =>
        if value = "" || value.toList.contains '=' then
          Complaint.fatal invocation 125 s!"cannot unset {cited value}: Invalid argument"
        return { request with unset := request.unset ++ [value], rest }
      | 'C' => return { request with directory := some value, rest }
      | _ => return { request with rest := ← respread invocation value rest }
    | c =>
      Complaint.say invocation s!"invalid option -- '{c}'"
      if blanks.contains c then
        Complaint.say invocation "use -[v]S to pass options in shebang lines"
      Complaint.pointAtHelp invocation
      throw (.exit 125)

/-- Take the options. -/
def takeOptions (invocation : Invocation) : (bound : Nat) → Request → Act Request
  | 0, request => return request
  | bound + 1, request => do
    match request.rest with
    | [] => return request
    | text :: rest =>
      if text = "-" then return { request with isEmpty := true, rest }
      else if text = "--" then
        if rest.head? = some "-" then return { request with isEmpty := true, rest := rest.tail }
        return { request with rest }
      else if text.startsWith "--" then
        let ((letter, value), rest) ← options.takeLong invocation (String.ofList (text.toList.drop 2)) rest
        let given := if options.valued.contains letter then letter :: value.toList else [letter]
        let isEmptyValue := options.valued.contains letter && value = ""
        let rest := if isEmptyValue then "" :: rest else rest
        takeOptions invocation bound (← takeLetters invocation given { request with rest })
      else if text.startsWith "-" then
        takeOptions invocation bound (← takeLetters invocation text.toList.tail { request with rest })
      else return request

/-- Take the assignments in front of a command. -/
def takeAssignments : List Octets → Environment → Environment × List Octets
  | text :: rest, environment =>
    match Octets.cut? '=' text with
    | some (name, value) => takeAssignments rest (withVariable environment name value)
    | none => (environment, text :: rest)
  | [], environment => (environment, [])

end Env

def env : Tool := fun invocation => do
  let length := invocation.arguments.foldl (fun length text => length + text.length + 1) 0
  let request ← Env.takeOptions invocation (length + 1) { rest := invocation.arguments }
  let start := if request.isEmpty then []
    else invocation.environment.filter fun (name, _) => !request.unset.contains name
  let (environment, command) := Env.takeAssignments request.rest start
  if command.isEmpty then
    if request.directory.isSome then
      Complaint.misused invocation 125 "must specify command with --chdir (-C)"
    return ← finish invocation (environmentLines environment request.ending) 0
  if request.ending ≠ "\n" then
    Complaint.misused invocation 125 "cannot specify --null (-0) with command"
  match request.directory with
  | none => pure ()
  | some directory =>
    match ← Act.locate directory true with
    | .ok ⟨_, _, some number⟩ => Act.modifyProcess fun process => { process with working := number }
    | .ok _ => Complaint.fatal invocation 125 s!"cannot change directory to {quoted directory}: No such file or directory"
    | .error error =>
      Complaint.fatal invocation 125 s!"cannot change directory to {quoted directory}: {error.description}"
  match ← becomeNamed invocation command environment with
  | .ok status => return status
  | .error error =>
    let name := command.headD ""
    Complaint.say invocation s!"{cited name}: {error.description}"
    if error = .notFound && name.toList.any Env.blanks.contains then
      Complaint.say invocation "use -[v]S to pass options in shebang lines"
    return refusalStatus error

def printenv : Tool := fun invocation => do
  let options : Options := { flags := "0", mixed := false, status := 2, long := [("null", '0')] }
  let given ← options.take invocation
  let ending := if has given '0' then "\x00" else "\n"
  if given.2.isEmpty then finish invocation (environmentLines invocation.environment ending) 0
  else
    let values := given.2.map fun name => invocation.environment.lookup name
    let output := String.join (values.map fun value? => value?.elim "" (· ++ ending))
    finish invocation output (if values.all Option.isSome then 0 else 1)

/-! ## Conditions -/

/-- Become a program in the place of a tool that only prepares it. -/
def passOn (invocation : Invocation) (command : List Octets) (failure : Octets) : Act Nat := do
  match ← becomeNamed invocation command invocation.environment with
  | .ok status => return status
  | .error error =>
    Complaint.say invocation (failure ++ cited (command.headD "") ++ ": " ++ error.description)
    return refusalStatus error

def nice : Tool := fun invocation => do
  let options : Options :=
    { flags := "0123456789", valued := "n", mixed := false, status := 125, long := [("adjustment", 'n')] }
  let given ← options.take invocation
  match value? given 'n' with
  | some text =>
    let digits := match text.toList with
      | '-' :: rest | '+' :: rest => rest
      | rest => rest
    if digits.isEmpty || !digits.all Char.isDigit then
      Complaint.fatal invocation 125 s!"invalid adjustment {cited text}"
    if given.2.isEmpty then
      Complaint.misused invocation 125 "a command must be given with an adjustment"
  | none => pure ()
  if given.2.isEmpty then finish invocation "0\n" 0 else passOn invocation given.2 ""

def nohup : Tool := fun invocation => do
  let options : Options := { mixed := false, status := 125 }
  let given ← options.take invocation
  if given.2.isEmpty then Complaint.misused invocation 125 "missing operand"
  Act.modifyProcess fun process => { process with ignored := 1 :: process.ignored }
  passOn invocation given.2 "failed to run command "

/-! ## Time -/

/-- The microseconds of a second. -/
def second : Nat := 1000000

/-- The time that a text describes in seconds or with a unit, in microseconds. -/
def duration? (text : Octets) : Option Nat := do
  let chars := text.toList
  let whole := chars.takeWhile Char.isDigit
  let rest := chars.drop whole.length
  let places := match rest with
    | '.' :: rest => rest.takeWhile Char.isDigit
    | _ => []
  let rest := match rest with
    | '.' :: rest => rest.drop places.length
    | rest => rest
  if whole.isEmpty && places.isEmpty then none
  let factor ← match rest with
    | [] | ['s'] => some 1
    | ['m'] => some 60
    | ['h'] => some 3600
    | ['d'] => some 86400
    | _ => none
  let value := (whole ++ places).foldl (fun n c => 10 * n + (c.toNat - 48)) 0
  return value * second * factor / Nat.pow 10 places.length

def sleep : Tool := fun invocation => do
  let options : Options := {}
  let given ← options.take invocation
  if given.2.isEmpty then Complaint.misused invocation 1 "missing operand"
  let times := given.2.map fun text => (text, duration? text, text = "infinity" || text = "inf")
  let bad := times.filter fun (_, time?, isEndless) => time?.isNone && !isEndless
  if !bad.isEmpty then
    for (text, _) in bad do Complaint.say invocation s!"invalid time interval {cited text}"
    Complaint.pointAtHelp invocation
    return 1
  if times.any (·.2.2) then throw .endless
  Act.sleep (times.foldl (fun sum (_, time?, _) => sum + time?.getD 0) 0)
  return 0

/-- The signal of a name, with or without its first letters, or of a number. -/
def signalNamed? (text : Octets) : Option Signal :=
  match number? text with
  | some number => if number < Signal.limit then some number else none
  | none =>
    let name := text.toUpper
    Signal.ofName? (if name.startsWith "SIG" then String.ofList (name.toList.drop 3) else name)

/-- Run a program for some time only. What it would do later on is not done. -/
def timeout : Tool := fun invocation => do
  let options : Options :=
    { flags := "vfp", valued := "sk", mixed := false, status := 125,
      long := [("signal", 's'), ("kill-after", 'k'), ("preserve-status", 'p'), ("foreground", 'f'),
        ("verbose", 'v')] }
  let given ← options.take invocation
  match given.2 with
  | [] | [_] => do
    Complaint.misused invocation 125
      (given.2.head?.elim "missing operand" fun text => s!"missing operand after {cited text}")
  | text :: command =>
    let signal ← match value? given 's' with
      | none => pure Signal.terminate
      | some name =>
        match signalNamed? name with
        | some signal => pure signal
        | none => Complaint.misused invocation 125 s!"{name}: invalid signal"
    match duration? text with
    | none => Complaint.misused invocation 125 s!"invalid time interval {cited text}"
    | some limit =>
      let startedAt ← Act.now
      let finish? ← try
          let finish ← spawn (passOn invocation command "failed to run command ")
          pure (some finish)
        catch interrupt =>
          if interrupt = .endless && (← get).steps = 0 then throw .endless
          else if interrupt = .endless then pure none
          else throw interrupt
      let clock ← Act.now
      let isLate := finish?.isNone || startedAt + limit < clock
      match finish? with
      | some finish =>
        if !isLate || limit = 0 then
          match finish with
          | .exited status => return status
          | .killed signal => throw (.killed signal)
      | none => pure ()
      modify fun world =>
        { world with
          clock := startedAt + limit
          written := world.written.filter fun writing => writing.time ≤ startedAt + limit }
      if signal = Signal.kill then throw (.killed signal)
      return if has given 'p' then signal.status else 124

/-! ## Repetition -/

def yes : Tool := fun invocation => do
  let words := if invocation.arguments.head? = some "--" then invocation.arguments.tail
    else invocation.arguments
  let line := (if words.isEmpty then "y" else " ".intercalate words) ++ "\n"
  let copies := String.join (List.replicate (max 1 (4096 / line.length)) line)
  let error ← printForever copies copyBound
  Complaint.fatal invocation 1 s!"standard output: {error.description}"
where
  copyBound : Nat := 1000000000

namespace Items

/-- The items of a text, parted by blanks; quotes and backslashes keep blanks. The error is the quote that
is not closed. -/
def ofText : (bound : Nat) → (item : Option (List Char)) → List Char → Except Char (List Octets)
  | 0, item, _ | _ + 1, item, [] => .ok ((item.map String.ofList).toList)
  | bound + 1, item, c :: rest =>
    if c = ' ' || ('\t' ≤ c && c ≤ '\x0d') then do
      return (item.map String.ofList).toList ++ (← ofText bound none rest)
    else if c = '\'' || c = '"' then
      let inner := rest.takeWhile fun d => d ≠ c && d ≠ '\n'
      match rest.drop inner.length with
      | d :: rest => if d = c then ofText bound (some (item.getD [] ++ inner)) rest else .error c
      | [] => .error c
    else if c = '\\' then
      match rest with
      | d :: rest => ofText bound (some (item.getD [] ++ [d])) rest
      | [] => .ok ((item.map String.ofList).toList)
    else ofText bound (some (item.getD [] ++ [c])) rest

/-- Items in portions of a size. -/
def portions (size : Nat) : (bound : Nat) → List Octets → List (List Octets)
  | 0, _ | _, [] => []
  | bound + 1, items => items.take size :: portions size bound (items.drop size)

end Items

def xargs : Tool := fun invocation => do
  let options : Options :=
    { flags := "0rtxo", valued := "nILdPsE", mixed := false,
      long := [("null", '0'), ("no-run-if-empty", 'r'), ("max-args", 'n'), ("replace", 'I'),
        ("delimiter", 'd'), ("verbose", 't'), ("max-procs", 'P')] }
  let given ← options.take invocation
  let command := if given.2.isEmpty then ["echo"] else given.2
  match ← Act.readAll 0 with
  | .error error => Complaint.fatal invocation 1 s!"read error: {error.description}"
  | .ok data =>
    let text := Octets.ofData data
    let separator? := if has given '0' then some '\x00' else (value? given 'd').bind fun text =>
      if text = "\\n" then some '\n' else text.toList.head?
    let items ← match separator? with
      | some separator =>
        let parts := Octets.split separator text
        pure (if parts.getLast? = some "" then parts.dropLast else parts)
      | none =>
        if has given 'I' then
          pure ((Octets.lines text).filterMap fun line =>
            let line := String.ofList (line.toList.dropWhile fun c => c = ' ' || c = '\t')
            if line = "" then none else some line)
        else match Items.ofText (text.length + 1) none text.toList with
          | .ok items => pure items
          | .error quote =>
            let kind := if quote = '"' then "double" else "single"
            Complaint.fatal invocation 1
              s!"unmatched {kind} quote; by default quotes are special to xargs unless you use the -0 option"
    let commands := match value? given 'I' with
      | some mark => items.map fun item => command.map fun (word : String) => word.replace mark item
      | none =>
        let size := ((value? given 'n').or (value? given 'L')).bind number?
        let portions := Items.portions (max 1 (size.getD 5000)) (items.length + 1) items
        let portions := if portions.isEmpty && !has given 'r' then [[]] else portions
        portions.map (command ++ ·)
    let mut status := 0
    for words in commands do
      if has given 't' then Act.print 2 (" ".intercalate words ++ "\n")
      let finish ← spawn do
        match ← becomeNamed invocation words invocation.environment with
        | .ok status => return status
        | .error error =>
          Complaint.say invocation (words.headD "" ++ ": " ++ error.description)
          return refusalStatus error
      match finish with
      | .exited 0 => pure ()
      | .exited 255 =>
        Complaint.say invocation (words.headD "" ++ ": exited with status 255; aborting")
        return 124
      | .exited code => if code = 127 || code = 126 then return code else status := 123
      | .killed signal =>
        Complaint.say invocation (words.headD "" ++ s!": terminated by signal {signal}")
        return 125
    return status

end Tool

end TestDaemon
