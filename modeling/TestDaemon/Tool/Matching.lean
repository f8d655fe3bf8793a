import TestDaemon.Text.Regex
import TestDaemon.Tool.Files

/-! # Tools that look for patterns -/

namespace TestDaemon

namespace Tool

namespace Matching

/-- What lines are looked for: expressions or plain texts. -/
inductive Pattern where
  | regex (regex : Regex)
  | plain (text : List Char)

/-- The first place of a plain text: what stands before it, the text, and what stands behind it. -/
def findPlain (ignoresCase : Bool) (wanted : List Char) : (before : List Char) → List Char →
    Option (List Char × List Char × List Char)
  | before, text =>
    let fold (text : List Char) : List Char := if ignoresCase then text.map Char.toLower else text
    if (fold wanted).isPrefixOf (fold text) then
      some (before.reverse, text.take wanted.length, text.drop wanted.length)
    else match text with
      | [] => none
      | c :: rest => findPlain ignoresCase wanted (c :: before) rest

/-- The first match of a pattern behind a text. -/
def find (ignoresCase : Bool) (before text : List Char) : Pattern → Option (List Char × List Char × List Char)
  | .regex regex =>
    (Regex.findFrom regex ⟨ignoresCase, false⟩ before text).map fun found =>
      (found.before, found.matched, found.after)
  | .plain wanted => findPlain ignoresCase wanted before text

def isWhole (ignoresCase : Bool) (text : List Char) : Pattern → Bool
  | .regex regex => regex.matchesWhole ignoresCase text
  | .plain wanted =>
    if ignoresCase then wanted.map Char.toLower == text.map Char.toLower else wanted == text

/-- Whether no letter, digit or underscore touches a match. -/
def standsAlone (found : List Char × List Char × List Char) : Bool :=
  !(found.1.getLast?.any Regex.isWord) && !(found.2.2.head?.any Regex.isWord)

/-- The first match as a word of its own, where matches that are none are passed over. -/
def findWord (ignoresCase : Bool) (pattern : Pattern) : (bound : Nat) → (before text : List Char) →
    Option (List Char × List Char × List Char)
  | 0, _, _ => none
  | bound + 1, before, text =>
    match find ignoresCase before text pattern with
    | none => none
    | some found =>
      if standsAlone found then some found
      else
        let behind := found.2.1 ++ found.2.2
        match behind with
        | [] => none
        | c :: rest => findWord ignoresCase pattern bound (c :: found.1.reverse) rest

/-- The first match of any of some patterns, the longest of those that start first. -/
def first (given : Given) (patterns : List Pattern) (before text : List Char) :
    Option (List Char × List Char × List Char) :=
  let ignoresCase := has given 'i' || has given 'y'
  let found := patterns.filterMap fun pattern =>
    if has given 'x' then
      if before.isEmpty && isWhole ignoresCase text pattern then some ([], text, []) else none
    else if has given 'w' then findWord ignoresCase pattern (text.length + 1) before text
    else find ignoresCase before text pattern
  found.foldl (fun best? found =>
    match best? with
    | none => some found
    | some best =>
      if found.1.length < best.1.length ||
          (found.1.length = best.1.length && best.2.1.length < found.2.1.length) then some found
      else some best) none

/-- All matches in a line that are not empty. -/
def allIn (given : Given) (patterns : List Pattern) : (bound : Nat) → (before text : List Char) → List Octets
  | 0, _, _ => []
  | bound + 1, before, text =>
    match first given patterns before text with
    | none => []
    | some (head, matched, rest) =>
      if matched.isEmpty then
        match rest with
        | [] => []
        | c :: rest => allIn given patterns bound (c :: head.reverse) rest
      else String.ofList matched :: allIn given patterns bound (matched.reverse ++ head.reverse) rest

/-- What is asked for: the options, the patterns and how many lines are enough. -/
structure Request where
  given : Given
  patterns : List Pattern
  limit : Option Nat

/-- The chosen lines of a text, with their numbers. -/
def chosen (request : Request) (text : Octets) : List (Nat × Octets) :=
  let lines := (Octets.lines text).mapIdx fun index line => (index + 1, line)
  let isChosen (line : Octets) : Bool :=
    (first request.given request.patterns [] line.toList).isSome != has request.given 'v'
  let found := lines.filter fun (_, line) => isChosen line
  (request.limit.map fun limit => found.take limit).getD found

/-- The output for a text. -/
def output (request : Request) (label : Octets) (text : Octets) : Octets :=
  let found := chosen request text
  let given := request.given
  let mark := if label = "" then "" else label ++ ":"
  if has given 'q' then ""
  else if has given 'l' then (if found.isEmpty then "" else label ++ "\n")
  else if has given 'L' then (if found.isEmpty then label ++ "\n" else "")
  else if has given 'c' then s!"{mark}{found.length}\n"
  else
    let head (number : Nat) : Octets := mark ++ if has given 'n' then s!"{number}:" else ""
    withEnds (found.flatMap fun (number, line) =>
      if has given 'o' then
        (allIn given request.patterns (line.length + 1) [] line.toList).map (head number ++ ·)
      else [head number ++ line])

end Matching

/-- The files below a path. -/
def filesBelow : (bound : Nat) → Octets → Act (List Octets)
  | 0, _ => return []
  | bound + 1, path => do
    match ← entriesOf path with
    | .error _ => return [path]
    | .ok names =>
      names.foldlM (fun files name => do
        return files ++ (← filesBelow bound (within path name))) []

/-- Look for lines; `kind` is how patterns are understood unless an option tells otherwise. -/
def grep (kind : Char) : Tool := fun invocation => do
  let options : Options :=
    { flags := "EFGPivwxycnlLqsohHrRabIzT0123456789", valued := "efmABCdD", status := 2,
      long := [("extended-regexp", 'E'), ("fixed-strings", 'F'), ("basic-regexp", 'G'), ("ignore-case", 'i'),
        ("invert-match", 'v'), ("word-regexp", 'w'), ("line-regexp", 'x'), ("count", 'c'),
        ("line-number", 'n'), ("files-with-matches", 'l'), ("files-without-match", 'L'), ("quiet", 'q'),
        ("silent", 'q'), ("no-messages", 's'), ("only-matching", 'o'), ("no-filename", 'h'),
        ("with-filename", 'H'), ("recursive", 'r'), ("regexp", 'e'), ("file", 'f'), ("max-count", 'm')] }
  let given ← options.take invocation
  let own := given.1.filter fun (c, _) => c == 'e' || c == 'f'
  let (texts, operands) ← match own, given.2 with
    | [], [] =>
      Act.print 2 s!"Usage: {invocation.name} [OPTION]... PATTERNS [FILE]...\n"
      Complaint.pointAtHelp invocation
      throw (.exit 2)
    | [], text :: rest => pure ([text], rest)
    | own, operands =>
      let texts ← own.mapM fun (c, value) => do
        if c = 'e' then return value
        match ← readFile value with
        | .ok data => return "\n".intercalate (Octets.lines (Octets.ofData data))
        | .error error => Complaint.fatal invocation 2 (reading value error)
      pure (texts, operands)
  let kind := ((given.1.map (·.1)).filter fun c => "EFGP".contains c).getLast?.getD kind
  let patterns ← (texts.flatMap fun text => Octets.split '\n' text).mapM fun text => do
    if kind = 'F' then return Matching.Pattern.plain text.toList
    match Regex.parse (kind ≠ 'G') text with
    | .ok (regex, _) => return .regex regex
    | .error fault => Complaint.fatal invocation 2 fault.message
  let request : Matching.Request := ⟨given, patterns, (value? given 'm').bind number?⟩
  let isRecursive := has given 'r' || has given 'R'
  let files ← do
    if isRecursive then
      (if operands.isEmpty then ["."] else operands).foldlM (fun files path => do
        return files ++ (← filesBelow 200 path)) []
    else pure (filesOf operands)
  let labels := has given 'H' || ((1 < files.length || isRecursive) && !has given 'h')
  let mut hasFound := false
  let mut hasFailed := false
  for path in files do
    match ← readFile path with
    | .error error =>
      if !has given 's' then Complaint.say invocation s!"{path}: {error.description}"
      hasFailed := true
    | .ok data =>
      let text := Octets.ofData data
      let name := if path = "-" then "(standard input)" else path
      let label := if labels || has given 'l' || has given 'L' then name else ""
      if !(Matching.chosen request text).isEmpty != has given 'L' then hasFound := true
      let _ ← print (Matching.output request label text)
      if has given 'q' && hasFound then return 0
  return if hasFailed then 2 else if hasFound then 0 else 1

end Tool

end TestDaemon
