import TestDaemon.Tool.Basic

/-! # Tools on lines

Showing, cutting, counting, sorting and rearranging the lines of files.
-/

namespace TestDaemon

namespace Tool

/-- The files that operands name; without operands the standard input. -/
def filesOf (operands : List Octets) : List Octets := if operands.isEmpty then ["-"] else operands

/-- What is said of a file that cannot be read. -/
def reading (path : Octets) (error : OsError) : Octets := s!"{quotedIfNeeded path}: {error.description}"

/-- Do something with the contents of each of some files. What cannot be read is complained about. -/
def eachFile (invocation : Invocation) (operands : List Octets) (act : Octets → Octets → Act Unit) :
    Act Nat := do
  let mut status := 0
  for path in filesOf operands do
    match ← readFile path with
    | .error error =>
      Complaint.say invocation (reading path error)
      status := 1
    | .ok data => act path (Octets.ofData data)
  return status

/-- The contents of files one behind another, and the status. -/
def joined (invocation : Invocation) (operands : List Octets) : Act (Octets × Nat) := do
  let mut text := ""
  let mut status := 0
  for path in filesOf operands do
    match ← readFile path with
    | .error error =>
      Complaint.say invocation (reading path error)
      status := 1
    | .ok data => text := text ++ Octets.ofData data
  return (text, status)

/-- Lines with their ends. -/
def withEnds (lines : List Octets) : Octets := String.join (lines.map (· ++ "\n"))

/-! ## Copying -/

/-- Copy octets from one descriptor to another, at most as many as are left. -/
def copy (source target : Nat) : (bound : Nat) → (left : Option Nat) → Act (Except (Bool × OsError) Unit)
  | 0, _ => throw .endless
  | bound + 1, left => do
    Act.step
    let count := (left.map fun left => min left 65536).getD 65536
    if count = 0 then return .ok ()
    match ← Act.read source count with
    | .error error => return .error (true, error)
    | .ok piece =>
      if piece.isEmpty then return .ok ()
      match ← Act.write target piece with
      | .error error => return .error (false, error)
      | .ok () => copy source target bound (left.map (· - piece.size))

def copyBound : Nat := 1000000

/-- Do something with the descriptor of a file. -/
def withFile {α : Type} (path : Octets) (act : Nat → Act α) : Act (Except OsError α) := do
  if path = "-" then return .ok (← act 0)
  match ← openToRead path with
  | .error error => return .error error
  | .ok descriptor =>
    let value ← act descriptor
    Act.close descriptor
    return .ok value

/-- Lines with numbers, blanks made visible, or runs of empty lines shortened. -/
def catLines (given : Given) : (number : Nat) → (afterEmpty : Bool) → List Octets → List Octets
  | _, _, [] => []
  | number, afterEmpty, line :: rest =>
    if has given 's' && afterEmpty && line = "" then catLines given number true rest
    else
      let counts := (has given 'n' && !has given 'b') || (has given 'b' && line ≠ "")
      let label := toString number
      let head := if counts then String.ofList (List.replicate (6 - label.length) ' ') ++ label ++ "\t" else ""
      let shown := if has given 'T' then String.ofList (line.toList.flatMap fun c => if c = '\t' then ['^', 'I'] else [c]) else line
      let tail := if has given 'E' then "$" else ""
      (head ++ shown ++ tail) :: catLines given (if counts then number + 1 else number) (line = "") rest

/-- Whether octets that are copied from one descriptor to another would come back to be copied again. -/
def feedsItself (source target : Nat) : Act Bool := do
  match ← Act.openFile? source, ← Act.openFile? target with
  | some (_, input), some (_, output) =>
    match input.channel, output.channel with
    | .node a, .node b =>
      let size := ((← Act.disk).node b).data.size
      return a == b && input.offset < (if output.appends then size else output.offset)
    | _, _ => return false
  | _, _ => return false

def cat : Tool := fun invocation => do
  let options : Options :=
    { flags := "AbeEnstTuv", long := [("number", 'n'), ("number-nonblank", 'b'), ("show-ends", 'E'),
        ("show-tabs", 'T'), ("squeeze-blank", 's'), ("show-all", 'A')] }
  let given ← options.take invocation
  let given : Given := (given.1.flatMap fun (c, value) =>
    if c = 'A' then [('E', value), ('T', value)] else if c = 'e' then [('E', value)]
    else if c = 't' then [('T', value)] else [(c, value)], given.2)
  if given.1.all (·.1 == 'u') then
    let mut status := 0
    for path in filesOf given.2 do
      match ← withFile path fun descriptor => do
        if ← feedsItself descriptor 1 then
          Complaint.say invocation s!"{quotedIfNeeded path}: input file is output file"
          return .ok true
        return (← copy descriptor 1 copyBound none).map fun () => false with
      | .ok (.ok isRefused) => if isRefused then status := 1
      | .error error | .ok (.error (true, error)) =>
        Complaint.say invocation (reading path error)
        if path = "-" && error = .badDescriptor then
          Complaint.say invocation s!"closing standard input: {error.description}"
        status := 1
      | .ok (.error (false, error)) =>
        Complaint.fatal invocation 1 s!"write error: {error.description}"
    return status
  let (text, status) ← joined invocation given.2
  let ends := text.endsWith "\n" || text = ""
  let output := withEnds (catLines given 1 false (Octets.lines text))
  finish invocation (if ends then output else String.ofList output.toList.dropLast) status

/-! ## Ends of files -/

/-- The number of a count, with its sign. -/
def count? (text : Octets) : Option (Char × Nat) :=
  match text.toList with
  | '-' :: rest => (size? (String.ofList rest)).map ('-', ·)
  | '+' :: rest => (size? (String.ofList rest)).map ('+', ·)
  | rest => (size? (String.ofList rest)).map (' ', ·)

/-- A count in the place of an option, as a number behind a dash. -/
def plainCounts (arguments : List Octets) : List Octets :=
  match arguments with
  | first :: rest =>
    match first.toList with
    | '-' :: c :: digits =>
      if (c :: digits).all Char.isDigit then "-n" :: String.ofList (c :: digits) :: rest else arguments
    | _ => arguments
  | [] => []

/-- Up to a number of lines from the front. -/
def takeLines : (count : Nat) → List Char → List Char
  | 0, _ => []
  | count + 1, text =>
    let line := text.takeWhile (· ≠ '\n')
    match text.drop line.length with
    | [] => line
    | _ :: rest => line ++ '\n' :: takeLines count rest

/-- Read lines in pieces until there are enough of them. -/
def readLines (descriptor : Nat) : (bound : Nat) → (left : Nat) → (read : ByteArray) →
    Act (Except OsError ByteArray)
  | 0, _, _ => throw .endless
  | bound + 1, left, read => do
    Act.step
    if left = 0 then return .ok read
    match ← Act.read descriptor 1024 with
    | .error error => return .error error
    | .ok piece =>
      if piece.isEmpty then return .ok read
      let ends := piece.toList.countP (· = 0x0A)
      readLines descriptor bound (left - ends) (read ++ piece)

/-- Show the start of what a descriptor leads to. -/
def showStart (isOctets : Bool) (sign : Char) (count descriptor : Nat) : Act (Except OsError Unit) := do
  if sign = '-' then
    match ← Act.readAll descriptor with
    | .error error => return .error error
    | .ok data =>
      if isOctets then Act.write 1 (data.extract 0 (data.size - count))
      else
        let lines := Octets.lines (Octets.ofData data)
        print (withEnds (lines.take (lines.length - count)))
  else if isOctets then
    match ← copy descriptor 1 copyBound (some count) with
    | .ok () => return .ok ()
    | .error (_, error) => return .error error
  else
    match ← readLines descriptor copyBound count .empty with
    | .error error => return .error error
    | .ok data => print (String.ofList (takeLines count (Octets.ofData data).toList))

/-- Show the end of what a descriptor leads to. -/
def showEnd (isOctets : Bool) (sign : Char) (count descriptor : Nat) : Act (Except OsError Unit) := do
  match ← Act.readAll descriptor with
  | .error error => return .error error
  | .ok data =>
    if isOctets then
      let start := if sign = '+' then count - 1 else data.size - count
      Act.write 1 (data.extract start data.size)
    else
      let text := Octets.ofData data
      let lines := Octets.lines text
      let start := if sign = '+' then count - 1 else lines.length - count
      let output := withEnds (lines.drop start)
      print (if text.endsWith "\n" || output = "" then output else String.ofList output.toList.dropLast)

/-- Show one end of each of some files. -/
def showEnds (isStart : Bool) : Tool := fun invocation => do
  let options : Options :=
    { flags := "qvzfF", valued := "nc", long := [("lines", 'n'), ("bytes", 'c'), ("quiet", 'q'),
        ("silent", 'q'), ("verbose", 'v'), ("follow", 'f')] }
  let given ← options.take { invocation with arguments := plainCounts invocation.arguments }
  let mut isOctets := false
  let mut sign := ' '
  let mut count := 10
  for (letter, value) in given.1 do
    if letter = 'n' || letter = 'c' then
      match count? value with
      | none =>
        let unit := if letter = 'c' then "bytes" else "lines"
        Complaint.fatal invocation 1 s!"invalid number of {unit}: {quoted value}"
      | some (s, n) =>
        isOctets := letter = 'c'
        sign := s
        count := n
  let files := filesOf given.2
  let shows := has given 'v' || (1 < files.length && !has given 'q')
  let mut status := 0
  let mut isFirst := true
  for path in files do
    match ← withFile path fun descriptor => do
      if shows then
        let name := if path = "-" then "standard input" else path
        let gap := if isFirst then "" else "\n"
        let _ ← print s!"{gap}==> {name} <==\n"
      if isStart then showStart isOctets sign count descriptor
      else showEnd isOctets sign count descriptor with
    | .error error =>
      Complaint.say invocation s!"cannot open {quoted path} for reading: {error.description}"
      status := 1
    | .ok (.error error) =>
      Complaint.say invocation s!"error reading {quoted path}: {error.description}"
      status := 1
    | .ok (.ok ()) => isFirst := false
  return status

/-! ## Counting -/

/-- The lines, words and octets of a text. -/
def counts (text : Octets) : Nat × Nat × Nat :=
  let chars := text.toList
  let (words, _) := chars.foldl (fun (words, inWord) c =>
    let isGap := c == ' ' || ('\t' ≤ c && c ≤ '\x0d')
    if isGap then (words, false) else if inWord then (words, true) else (words + 1, true)) (0, false)
  (chars.countP (· = '\n'), words, chars.length)

def padLeft (width : Nat) (text : String) : String :=
  String.ofList (List.replicate (width - text.length) ' ') ++ text

def wc : Tool := fun invocation => do
  let options : Options :=
    { flags := "lwcmL", long := [("lines", 'l'), ("words", 'w'), ("bytes", 'c'), ("chars", 'm')] }
  let given ← options.take invocation
  let showsAll := given.1.isEmpty
  let mut status := 0
  let mut rows : List (List Nat × Octets) := []
  let mut sizes := 0
  let mut isStream := given.2.isEmpty
  for path in filesOf given.2 do
    match ← readFile path with
    | .error error =>
      Complaint.say invocation (reading path error)
      status := 1
      if error = .isDirectory then
        rows := rows ++ [([0, 0, 0], path)]
        isStream := true
    | .ok data =>
      if path = "-" then isStream := true
      let (lines, words, octets) := counts (Octets.ofData data)
      sizes := sizes + octets
      rows := rows ++ [([lines, words, octets], if given.2.isEmpty then "" else path)]
  let total := rows.foldl (fun sums row => (sums.zip row.1).map fun (a, b) => a + b) [0, 0, 0]
  let shown := if 1 < given.2.length then rows ++ [(total, "total")] else rows
  let chosen (row : List Nat) : List Nat :=
    (if showsAll || has given 'l' then row.take 1 else []) ++
      (if showsAll || has given 'w' then (row.drop 1).take 1 else []) ++
      (if showsAll || has given 'c' || has given 'm' then row.drop 2 else [])
  let columns := (chosen total).length
  let width :=
    if columns = 1 && given.2.length ≤ 1 then 1
    else if isStream then max 7 (toString sizes).length
    else (toString sizes).length
  let line (row : List Nat × Octets) : Octets :=
    let numbers := " ".intercalate ((chosen row.1).map fun n => padLeft width (toString n))
    if row.2 = "" then numbers else numbers ++ " " ++ row.2
  finish invocation (withEnds (shown.map line)) status

/-! ## Sorting -/

/-- The number at the front of a line, in tenths of no fixed place: its sign, digits in front of the point
and digits behind it. -/
def leadingNumber (line : List Char) : Bool × Nat × List Char :=
  let text := line.dropWhile fun c => c == ' ' || c == '\t'
  let (isNegative, text) := match text with
    | '-' :: rest => (true, rest)
    | rest => (false, rest)
  let whole := text.takeWhile Char.isDigit
  let places := match text.drop whole.length with
    | '.' :: rest => rest.takeWhile Char.isDigit
    | _ => []
  let places := (places.reverse.dropWhile (· = '0')).reverse
  let value := whole.foldl (fun n c => 10 * n + (c.toNat - 48)) 0
  (isNegative && !(value = 0 && places.isEmpty), value, places)

/-- How two lines compare as numbers. -/
def compareNumbers (a b : List Char) : Ordering :=
  let (isNegativeA, wholeA, placesA) := leadingNumber a
  let (isNegativeB, wholeB, placesB) := leadingNumber b
  let size : Ordering :=
    if wholeA < wholeB then .lt
    else if wholeB < wholeA then .gt
    else if placesA = placesB then .eq
    else if placesA.lex placesB then .lt
    else .gt
  match isNegativeA, isNegativeB with
  | false, true => .gt
  | true, false => .lt
  | true, true => size.swap
  | false, false => size

def compareTexts (a b : List Char) : Ordering :=
  if a = b then .eq else if a.lex b then .lt else .gt

/-- A part of a line to sort by: the fields from one on up to another one, and its own options. -/
structure SortKey where
  start : Nat
  startChar : Nat := 1
  stop : Option (Nat × Nat) := none
  letters : List Char := []

/-- The fields of a line, each with the blanks in front of it, or parted by a character. -/
def sortFields (separator : Option Char) (line : List Char) : List (List Char) :=
  match separator with
  | some c => Octets.splitList c line
  | none => go (line.length + 1) line
where
  /-- Fields with leading blanks. -/
  go : (bound : Nat) → List Char → List (List Char)
    | 0, _ => []
    | _ + 1, [] => []
    | bound + 1, text =>
      let blanks := text.takeWhile fun c => c == ' ' || c == '\t'
      let word := (text.drop blanks.length).takeWhile fun c => !(c == ' ' || c == '\t')
      (blanks ++ word) :: go bound (text.drop (blanks.length + word.length))

/-- The part of a line that a key tells. -/
def keyPart (separator : Option Char) (key : SortKey) (line : List Char) : List Char :=
  let fields := sortFields separator line
  let glue : List Char := separator.toList
  let join (fields : List (List Char)) : List Char := glue.intercalate fields
  let skipBlanks (text : List Char) : List Char :=
    if key.letters.contains 'b' then text.dropWhile fun c => c == ' ' || c == '\t' else text
  match key.stop with
  | none => (skipBlanks (join (fields.drop (key.start - 1)))).drop (key.startChar - 1)
  | some (field, char) =>
    let whole := (fields.take field).drop (key.start - 1)
    let whole := if char = 0 then whole
      else whole.mapIdx fun index text => if index + 1 = whole.length then text.take char else text
    (skipBlanks (join whole)).drop (key.startChar - 1)

/-- A key of the form `2n`, `1,3` or `1.2,1.5r`. -/
def sortKey? (text : Octets) : Option SortKey := do
  let (first, second?) := match Octets.cut? ',' text with
    | some (first, second) => (first, some second)
    | none => (text, none)
  let read (part : Octets) : Option (Nat × Nat × List Char) := do
    let chars := part.toList
    let digits := chars.takeWhile Char.isDigit
    let field ← number? (String.ofList digits)
    match chars.drop digits.length with
    | '.' :: rest =>
      let more := rest.takeWhile Char.isDigit
      return (field, (← number? (String.ofList more)), rest.drop more.length)
    | rest => return (field, 0, rest)
  let (field, char, letters) ← read first
  if field = 0 then none
  match second? with
  | none => return ⟨field, max char 1, none, letters⟩
  | some second =>
    let (stop, stopChar, more) ← read second
    return ⟨field, max char 1, some (stop, stopChar), letters ++ more⟩

/-- How two parts compare under options. -/
def compareBy (letters : List Char) (a b : List Char) : Ordering :=
  let order :=
    if letters.contains 'n' || letters.contains 'g' then compareNumbers a b
    else
      let fold (text : List Char) : List Char :=
        let text := if letters.contains 'f' then text.map Char.toUpper else text
        if letters.contains 'd' then text.filter fun c => c.isAlphanum || c == ' ' || c == '\t' else text
      compareTexts (fold a) (fold b)
  if letters.contains 'r' then order.swap else order

def sort : Tool := fun invocation => do
  let options : Options :=
    { flags := "bdfgiMhnRrVcCmsuz", valued := "kotST", status := 2,
      long := [("numeric-sort", 'n'), ("reverse", 'r'), ("unique", 'u'), ("key", 'k'), ("output", 'o'),
        ("field-separator", 't'), ("ignore-case", 'f'), ("stable", 's'), ("check", 'c')] }
  let given ← options.take invocation
  let global := (given.1.map (·.1)).filter fun c => "bdfgnr".contains c
  let keys ← (given.1.filter (·.1 == 'k')).mapM fun (_, value) => do
    match sortKey? value with
    | some key => return if key.letters.isEmpty then { key with letters := global } else key
    | none => Complaint.fatal invocation 2 s!"invalid number at field start: invalid count at start of {quoted value}"
  let separator := (value? given 't').bind (·.toList.head?)
  let mut text := ""
  for path in filesOf given.2 do
    match ← readFile path with
    | .error error =>
      let verb := if error = .isDirectory then "read failed: " else "cannot read: "
      Complaint.fatal invocation 2 (verb ++ reading path error)
    | .ok data =>
      let part := Octets.ofData data
      text := text ++ (if part = "" || part.endsWith "\n" then part else part ++ "\n")
  let lines := (Octets.lines text).map String.toList
  let byKeys (a b : List Char) : Ordering :=
    if keys.isEmpty then compareBy global a b
    else keys.foldl (fun order key =>
      order.then (compareBy key.letters (keyPart separator key a) (keyPart separator key b))) .eq
  let plain (a b : List Char) : Ordering :=
    if has given 'u' || has given 's' then .eq
    else if global.contains 'r' then (compareTexts a b).swap else compareTexts a b
  let order (a b : List Char) : Ordering := (byKeys a b).then (plain a b)
  if has given 'c' || has given 'C' then
    let pairs := lines.zip lines.tail
    let bad := pairs.findIdx? fun (a, b) =>
      order a b == .gt || (has given 'u' && byKeys a b == .eq)
    match bad with
    | none => return 0
    | some index =>
      if has given 'c' then
        let name := given.2.headD "-"
        let line := String.ofList (lines[index + 1]?.getD [])
        Complaint.say invocation s!"{name}:{index + 2}: disorder: {line}"
      return 1
  let sorted := lines.mergeSort fun a b => order a b != .gt
  let sorted := if has given 'u' then unique sorted byKeys else sorted
  let output := withEnds (sorted.map String.ofList)
  match value? given 'o' with
  | none => finish invocation output 0
  | some path =>
    match ← writeFile path false (Octets.toData output) with
    | .ok () => return 0
    | .error error => Complaint.fatal invocation 2 s!"open failed: {path}: {error.description}"
where
  /-- The first of each run of equal lines. -/
  unique (lines : List (List Char)) (compare : List Char → List Char → Ordering) : List (List Char) :=
    (lines.foldl (fun kept line =>
      match kept with
      | last :: _ => if compare last line == .eq then kept else line :: kept
      | [] => [line]) []).reverse

/-- Runs of equal lines, with their lengths. -/
def runsOf (key : Octets → Octets) (lines : List Octets) : List (Nat × Octets) :=
  (lines.foldl (fun runs line =>
    match runs with
    | (count, first) :: rest => if key first = key line then (count + 1, first) :: rest else (1, line) :: runs
    | [] => [(1, line)]) []).reverse

def uniq : Tool := fun invocation => do
  let options : Options :=
    { flags := "cdDuiz", valued := "fsw", long := [("count", 'c'), ("repeated", 'd'), ("unique", 'u'),
        ("ignore-case", 'i'), ("skip-fields", 'f'), ("skip-chars", 's')] }
  let given ← options.take invocation
  let path := given.2.headD "-"
  match ← readFile path with
  | .error error => Complaint.fatal invocation 1 (reading path error)
  | .ok data =>
    let fields := ((value? given 'f').bind number?).getD 0
    let skipped := ((value? given 's').bind number?).getD 0
    let limit := (value? given 'w').bind number?
    let key (line : Octets) : Octets :=
      let parts := sortFields none line.toList
      let text := (if fields = 0 then line.toList else (parts.drop fields).flatten).drop skipped
      let text := (limit.map fun limit => text.take limit).getD text
      String.ofList (if has given 'i' then text.map Char.toLower else text)
    let runs := (runsOf key (Octets.lines (Octets.ofData data))).filter fun (count, _) =>
      (!has given 'd' || 1 < count) && (!has given 'u' || count = 1)
    let line (run : Nat × Octets) : Octets :=
      if has given 'c' then padLeft 7 (toString run.1) ++ " " ++ run.2 else run.2
    let output := withEnds (runs.map line)
    match given.2 with
    | _ :: target :: _ =>
      let _ ← writeFile target false (Octets.toData output)
      return 0
    | _ => finish invocation output 0

/-! ## Columns -/

/-- The ranges of a list such as `1,3-5,7-`; the second end of an open one is missing. -/
def ranges? (text : Octets) : Option (List (Nat × Option Nat)) :=
  (Octets.split ',' text).mapM fun part =>
    match Octets.cut? '-' part with
    | none => do
      let n ← number? part
      if n = 0 then none else some (n, some n)
    | some (low, high) => do
      if low = "" && high = "" then none
      let low ← if low = "" then some 1 else number? low
      if high = "" then return (low, none)
      let high ← number? high
      if low = 0 || high < low then none else some (low, some high)

def inRanges (ranges : List (Nat × Option Nat)) (position : Nat) : Bool :=
  ranges.any fun (low, high?) => low ≤ position && high?.all fun high => position ≤ high

def cut : Tool := fun invocation => do
  let options : Options :=
    { flags := "nsz", valued := "bcdf", long := [("bytes", 'b'), ("characters", 'c'), ("delimiter", 'd'),
        ("fields", 'f'), ("only-delimited", 's'), ("complement", 'C'), ("output-delimiter", 'O')] }
  let options := { options with flags := options.flags ++ "C", valued := options.valued ++ "O" }
  let given ← options.take invocation
  let lists := given.1.filter fun (c, _) => c == 'b' || c == 'c' || c == 'f'
  match lists with
  | [] => Complaint.misused invocation 1 "you must specify a list of bytes, characters, or fields"
  | (letter, list) :: more =>
    if !more.isEmpty then Complaint.misused invocation 1 "only one list may be specified"
    let delimiter ← match value? given 'd' with
      | none => pure '\t'
      | some text =>
        match text.toList with
        | [c] => pure c
        | [] => pure '\x00'
        | _ => Complaint.misused invocation 1 "the delimiter must be a single character"
    if letter ≠ 'f' && has given 'd' then
      Complaint.misused invocation 1 "an input delimiter may be specified only when operating on fields"
    match ranges? list with
    | none =>
      let kind := if letter = 'f' then "field" else "byte/character position"
      Complaint.misused invocation 1 s!"invalid {kind} {quoted list}"
    | some ranges =>
      let glue := (value? given 'O').getD (if letter = 'f' then delimiter.toString else "")
      let chosen (position : Nat) : Bool := inRanges ranges position != has given 'C'
      let line (line : Octets) : Option Octets :=
        if letter = 'f' then
          let fields := Octets.split delimiter line
          if fields.length = 1 then (if has given 's' then none else some line)
          else some (glue.intercalate
            ((fields.zipIdx.filter fun (_, index) => chosen (index + 1)).map (·.1)))
        else some (String.ofList
          ((line.toList.zipIdx.filter fun (_, index) => chosen (index + 1)).map (·.1)))
      let (text, status) ← joined invocation given.2
      finish invocation (withEnds ((Octets.lines text).filterMap line)) status

def paste : Tool := fun invocation => do
  let options : Options := { flags := "sz", valued := "d", long := [("serial", 's'), ("delimiters", 'd')] }
  let given ← options.take invocation
  let delimiters := ((value? given 'd').getD "\t").toList
  let glue (index : Nat) : Octets :=
    if delimiters.isEmpty then "" else (delimiters[index % delimiters.length]?.getD '\t').toString
  let mut columns : List (List Octets) := []
  for path in filesOf given.2 do
    match ← readFile path with
    | .error error => Complaint.fatal invocation 1 (reading path error)
    | .ok data => columns := columns ++ [Octets.lines (Octets.ofData data)]
  let row (cells : List Octets) : Octets :=
    String.join (cells.mapIdx fun index cell => if index = 0 then cell else glue (index - 1) ++ cell)
  if has given 's' then finish invocation (withEnds (columns.map row)) 0
  else
    let height := columns.foldl (fun height column => max height column.length) 0
    let rows := (List.range height).map fun index => row (columns.map fun column => column[index]?.getD "")
    finish invocation (withEnds rows) 0

def nl : Tool := fun invocation => do
  let options : Options :=
    { flags := "p", valued := "bdfhilnsvw", long := [("body-numbering", 'b'), ("number-width", 'w'),
        ("number-separator", 's'), ("starting-line-number", 'v')] }
  let given ← options.take invocation
  let (text, status) ← joined invocation given.2
  let style := (value? given 'b').getD "t"
  let width := ((value? given 'w').bind number?).getD 6
  let separator := (value? given 's').getD "\t"
  let start := ((value? given 'v').bind number?).getD 1
  let (lines, _) := (Octets.lines text).foldl (fun (lines, number) line =>
    let counts := style = "a" || (style = "t" && line ≠ "")
    if counts then (lines ++ [padLeft width (toString number) ++ separator ++ line], number + 1)
    else
      let blanks := List.replicate (width + separator.length) ' '
      (lines ++ [String.ofList blanks ++ line], number)) (([] : List Octets), start)
  finish invocation (withEnds lines) status

/-- Turn round the characters of each line. -/
def rev : Tool := fun invocation => do
  let (text, status) ← joined invocation invocation.arguments
  let ends := text.endsWith "\n" || text = ""
  let output := withEnds ((Octets.lines text).map fun line => String.ofList line.toList.reverse)
  finish invocation (if ends then output else String.ofList output.toList.dropLast) status

/-- Show lines from the last one to the first one. -/
def tac : Tool := fun invocation => do
  let (text, status) ← joined invocation invocation.arguments
  let lines := (Octets.lines text).reverse
  let output := if text.endsWith "\n" || text = "" then withEnds lines
    else lines.headD "" ++ withEnds lines.tail
  finish invocation output status

def fold : Tool := fun invocation => do
  let options : Options := { flags := "bs", valued := "w", long := [("width", 'w'), ("spaces", 's'), ("bytes", 'b')] }
  let given ← options.take invocation
  let width := max 1 (((value? given 'w').bind number?).getD 80)
  let (text, status) ← joined invocation given.2
  let lines := (Octets.lines text).flatMap fun line => pieces width (line.length + 1) line.toList
  let ends := text.endsWith "\n" || text = ""
  let output := withEnds lines
  finish invocation (if ends then output else String.ofList output.toList.dropLast) status
where
  /-- The pieces of a line. -/
  pieces (width : Nat) : (bound : Nat) → List Char → List Octets
    | 0, _ => []
    | bound + 1, text =>
      if text.length ≤ width then [String.ofList text]
      else String.ofList (text.take width) :: pieces width bound (text.drop width)

/-- The lines of two sorted files side by side: those of the first alone, of the second alone, of both. -/
def comm : Tool := fun invocation => do
  let options : Options := { flags := "123z" }
  let given ← options.take invocation
  match given.2 with
  | [first, second] =>
    match ← readFile first, ← readFile second with
    | .ok a, .ok b =>
      let shows (column : Char) : Bool := !has given column
      let tab2 := if shows '1' then "\t" else ""
      let tab3 := tab2 ++ (if shows '2' then "\t" else "")
      let lines := merge (Octets.lines (Octets.ofData a)) (Octets.lines (Octets.ofData b))
      let output := lines.filterMap fun (column, line) =>
        if !shows column then none
        else some ((if column = '1' then "" else if column = '2' then tab2 else tab3) ++ line)
      finish invocation (withEnds output) 0
    | .error error, _ => Complaint.fatal invocation 1 (reading first error)
    | _, .error error => Complaint.fatal invocation 1 (reading second error)
  | [] => Complaint.misused invocation 1 "missing operand"
  | [one] => Complaint.misused invocation 1 s!"missing operand after {quoted one}"
  | _ :: _ :: extra :: _ => Complaint.misused invocation 1 s!"extra operand {quoted extra}"
where
  /-- The lines in order, each with its column. -/
  merge (a b : List Octets) : List (Char × Octets) := go (a.length + b.length + 1) a b
  /-- Merge the lines that are left. -/
  go : (bound : Nat) → List Octets → List Octets → List (Char × Octets)
    | 0, _, _ => []
    | _ + 1, [], b => b.map ('2', ·)
    | _ + 1, a, [] => a.map ('1', ·)
    | bound + 1, x :: a, y :: b =>
      if x = y then ('3', x) :: go bound a b
      else if Octets.le x y then ('1', x) :: go bound a (y :: b)
      else ('2', y) :: go bound (x :: a) b

/-! ## Characters -/

/-- The characters of a set such as `a-z`, `\n` or `[:upper:]`. -/
def setChars : (bound : Nat) → List Char → List Char
  | 0, _ => []
  | _ + 1, [] => []
  | bound + 1, '[' :: ':' :: rest =>
    let name := String.ofList (rest.takeWhile (· ≠ ':'))
    match rest.drop name.length with
    | ':' :: ']' :: rest =>
      let all := (List.range 256).map Char.ofNat
      let test : Char → Bool := match name with
        | "alnum" => Char.isAlphanum
        | "alpha" => Char.isAlpha
        | "digit" => Char.isDigit
        | "lower" => Char.isLower
        | "upper" => Char.isUpper
        | "space" => fun c => c == ' ' || ('\t' ≤ c && c ≤ '\x0d')
        | "blank" => fun c => c == ' ' || c == '\t'
        | "punct" => fun c => ' ' < c && c < '\x7f' && !c.isAlphanum
        | "cntrl" => fun c => c < ' ' || c == '\x7f'
        | "print" => fun c => ' ' ≤ c && c < '\x7f'
        | "graph" => fun c => ' ' < c && c < '\x7f'
        | "xdigit" => fun c => c.isDigit || ('a' ≤ c && c ≤ 'f') || ('A' ≤ c && c ≤ 'F')
        | _ => fun _ => false
      all.filter test ++ setChars bound rest
    | _ => '[' :: setChars bound (':' :: rest)
  | bound + 1, text =>
    let (first, rest) := single text
    match rest with
    | '-' :: next :: more =>
      let (last, rest) := single (next :: more)
      ((List.range (last.toNat + 1 - first.toNat)).map fun offset => Char.ofNat (first.toNat + offset)) ++
        setChars bound rest
    | rest => first :: setChars bound rest
where
  /-- One character, which may be an escape. -/
  single : List Char → Char × List Char
    | '\\' :: c :: rest =>
      match c with
      | 'n' => ('\n', rest)
      | 't' => ('\t', rest)
      | 'r' => ('\r', rest)
      | 'a' => ('\x07', rest)
      | 'b' => ('\x08', rest)
      | 'f' => ('\x0c', rest)
      | 'v' => ('\x0b', rest)
      | '\\' => ('\\', rest)
      | c =>
        if '0' ≤ c && c ≤ '7' then
          let digits := (c :: rest).take 3 |>.takeWhile fun c => '0' ≤ c && c ≤ '7'
          (Char.ofNat (digits.foldl (fun n c => 8 * n + (c.toNat - 48)) 0 % 256), (c :: rest).drop digits.length)
        else (c, rest)
    | c :: rest => (c, rest)
    | [] => ('\x00', [])

/-- Shorten runs of the same character of a set. -/
def squeeze (set : List Char) : List Char → List Char
  | a :: b :: rest => if a = b && set.contains a then squeeze set (b :: rest) else a :: squeeze set (b :: rest)
  | text => text

def tr : Tool := fun invocation => do
  let options : Options :=
    { flags := "cCdst", mixed := false, long := [("delete", 'd'), ("squeeze-repeats", 's'),
        ("complement", 'c'), ("truncate-set1", 't')] }
  let given ← options.take invocation
  let complements := has given 'c' || has given 'C'
  let sets := given.2.map fun text => setChars (text.length + 1) text.toList
  let needed := if has given 'd' != has given 's' then 1 else 2
  match given.2 with
  | [] => Complaint.misused invocation 1 "missing operand"
  | [one] =>
    if needed = 2 then
      let what := if has given 'd' then "Two strings must be given when both deleting and squeezing repeats."
        else "Two strings must be given when translating."
      Complaint.say invocation s!"missing operand after {quoted one}"
      Act.print 2 (what ++ "\n")
      Complaint.pointAtHelp invocation
      throw (.exit 1)
  | _ :: _ :: extra :: _ => Complaint.misused invocation 1 s!"extra operand {quoted extra}"
  | _ :: extra :: _ =>
    if has given 'd' && !has given 's' then
      Complaint.say invocation s!"extra operand {quoted extra}"
      Act.print 2 "Only one string may be given when deleting without squeezing repeats.\n"
      Complaint.pointAtHelp invocation
      throw (.exit 1)
  let first := sets.headD []
  let first := if complements then ((List.range 256).map Char.ofNat).filter fun c => !first.contains c else first
  match ← Act.readAll 0 with
  | .error error => Complaint.fatal invocation 1 s!"read error: {error.description}"
  | .ok data =>
    let text := (Octets.ofData data).toList
    let second := (sets[1]?).getD []
    let deleted := if has given 'd' then text.filter fun c => !first.contains c else text
    let translated :=
      if has given 'd' || sets.length < 2 then deleted
      else
        let last := second.getLast?.getD '\x00'
        deleted.map fun c =>
          match first.idxOf? c with
          | some index => (second[index]?).getD last
          | none => c
    let output := if has given 's' then squeeze (if sets.length < 2 then first else second) translated else translated
    finish invocation (String.ofList output) 0

def tee : Tool := fun invocation => do
  let options : Options := { flags := "aip", long := [("append", 'a'), ("ignore-interrupts", 'i')] }
  let given ← options.take invocation
  match ← Act.readAll 0 with
  | .error error => Complaint.fatal invocation 1 s!"read error: {error.description}"
  | .ok data =>
    let mut status := 0
    for path in given.2 do
      match ← writeFile path (has given 'a') data with
      | .ok () => pure ()
      | .error error =>
        Complaint.say invocation (reading path error)
        status := 1
    let _ ← Act.write 1 data
    return status

end Tool

end TestDaemon
