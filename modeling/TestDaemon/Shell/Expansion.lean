import TestDaemon.Machine.Layout
import TestDaemon.Shell.Arithmetic
import TestDaemon.Shell.Pattern

/-! # Expansion

The parts of a word are replaced by their values; what is not quoted in the result is split into fields,
and fields that are patterns are replaced by the paths that they match. Values are gathered in cells that
remember what was quoted.
-/

namespace TestDaemon

namespace Shell

/-- An octet of an expanded word, or a quotation mark, which keeps an empty field. An escaped octet stands
for itself in a pattern. -/
inductive Cell where
  | octet (c : Char) (isEscaped : Bool)
  | mark
  deriving DecidableEq, Repr

/-- A part of an expanded word that is split at separators, or only where parameters end. -/
structure Region where
  start : Nat
  stop : Nat
  onlyEnds : Bool

structure Buffer where
  cells : Array Cell := #[]
  regions : Array Region := #[]

/-- How a word is expanded: inside quotes, to fields, to a pattern, as the word of an edit; and where a tilde counts: at the start, and behind the equality sign and colons. -/
structure Manner where
  isQuoted : Bool := false
  isFull : Bool := false
  isPattern : Bool := false
  isWord : Bool := false
  startTilde : Bool := false
  innerTilde : Bool := false
  isBehindName : Bool := false

namespace Manner

/-- Whether quotes still count in the result. -/
def keepsQuotes (manner : Manner) : Bool := manner.isFull || manner.isPattern

/-- To the fields of a command. -/
def fields : Manner := { isFull := true, startTilde := true }

/-- To the value of a variable. -/
def assigned : Manner := { innerTilde := true }

/-- To one text. -/
def text : Manner := { startTilde := true }

def pattern : Manner := { isPattern := true, startTilde := true }

/-- To a text in quotes. -/
def document : Manner := { isQuoted := true }

end Manner

/-- How commands in a word are carried out: their output and status. -/
abbrev Substitute := Command → Run Octets

abbrev Expanding := StateT Buffer Run

namespace Expanding

def size : Expanding Nat := return (← get).cells.size

def pushCell (cell : Cell) : Expanding Unit :=
  modify fun buffer => { buffer with cells := buffer.cells.push cell }

/-- Add a value. -/
def addText (manner : Manner) (text : Octets) : Expanding Unit :=
  modify fun buffer =>
    let isEscaped := manner.keepsQuotes && manner.isQuoted
    { buffer with cells := text.foldl (fun cells c => cells.push (.octet c isEscaped)) buffer.cells }

def record (start : Nat) (onlyEnds : Bool) : Expanding Unit :=
  modify fun buffer =>
    { buffer with regions := buffer.regions.push ⟨start, buffer.cells.size, onlyEnds⟩ }

/-- Take back all that was added from a size on. -/
def cutTo (size : Nat) : Expanding Unit :=
  modify fun buffer =>
    { cells := buffer.cells.extract 0 size
      regions := (buffer.regions.filter (·.start < size)).map fun region =>
        { region with stop := min region.stop size } }

end Expanding

namespace Cell

/-- The text of cells, without quotation marks. -/
def plainText (cells : List Cell) : Octets :=
  String.ofList (cells.filterMap fun cell => match cell with
    | .octet c _ => some c
    | .mark => none)

/-- The text of cells as a pattern: escaped octets stand behind backslashes. A backslash that is not
escaped itself takes the meaning away from what follows. -/
def patternChars : (afterBackslash : Bool) → List Cell → List Char
  | _, [] => []
  | afterBackslash, .mark :: rest => patternChars afterBackslash rest
  | afterBackslash, .octet c isEscaped :: rest =>
    if isEscaped then
      if afterBackslash then c :: patternChars false rest else '\\' :: c :: patternChars false rest
    else c :: patternChars (c == '\\' && !afterBackslash) rest

def patternText (cells : List Cell) : Octets := String.ofList (patternChars false cells)

end Cell

namespace Expansion

/-- Separators of fields, and those of them that count only once in a row. -/
def isSeparator (separators : Octets) (c : Char) : Bool := c == '\x00' || separators.toList.contains c

def isWhite (c : Char) : Bool := c == '\x00' || c == ' ' || c == '\t' || c == '\n'

/-! ## Parameters -/

/-- The name of a parameter and whether all parameters are meant. -/
def isAll (name : Octets) : Bool := name = "@" || name = "*"

/-- The value of a parameter other than all; `none` where there is none. -/
def parameterValue? (name : Octets) : Run (Option Octets) := do
  let shell ← Run.shell
  match name with
  | "$" => return some (toString shell.root)
  | "?" => return some (toString shell.status)
  | "#" => return some (toString shell.arguments.length)
  | "!" => return shell.lastBackground.map toString
  | "-" =>
    let letters := (optionNames.map (·.1)).reverse.filter shell.hasOption
    return some (String.ofList letters)
  | _ =>
    match name.toNat? with
    | some 0 => return some shell.name
    | some number => return shell.arguments[number - 1]?
    | none => return shell.value? name

/-- Add the value of a parameter, and give its length; `none` where it has none. -/
def addValue (manner : Manner) (name : Octets) : Expanding (Option Nat) := do
  let start ← Expanding.size
  if !isAll name then
    match ← parameterValue? name with
    | none => return none
    | some value => Expanding.addText manner value
  else
    let shell ← Run.shell
    let separator : Option Char :=
      if manner.isFull && manner.isQuoted && name = "@" then some '\x00'
      else match shell.value? "IFS" with
        | none => some ' '
        | some separators =>
          if manner.isFull && !manner.isQuoted then some '\x00' else separators.toList.head?
    for (argument, index) in shell.arguments.zipIdx do
      if index ≠ 0 then
        match separator with
        | none => pure ()
        | some c =>
          Expanding.pushCell (.octet c (c ≠ '\x00' && manner.keepsQuotes && manner.isQuoted))
      Expanding.addText manner argument
  return some ((← Expanding.size) - start)

/-- Record the value of a parameter as something to be split. -/
def recordValue (manner : Manner) (name : Octets) (start : Nat) : Expanding Unit := do
  if !manner.isQuoted then Expanding.record start false
  else if name = "@" && !(← Run.shell).arguments.isEmpty then Expanding.record start true

/-- Refuse a parameter that is not set. -/
def refuseUnset {α : Type} (name : Octets) (message : Octets) : Run α := Run.fail s!"{name}: {message}"

/-- A text up to the place where a parameter ends. -/
def untilEnd (text : List Char) : List Char := text.takeWhile (· ≠ '\x00')

/-- Where a text is cut to take away the shortest or longest match at an end. The text may hold several
parameters. Matches end where a parameter ends, and a search from the front stops there. -/
def trimPoint? (atEnd longest : Bool) (pattern : Octets) (text : List Char) : Option Nat :=
  let points :=
    if atEnd = longest then List.range ((untilEnd text).length + 1)
    else (List.range (text.length + 1)).reverse
  points.find? fun point =>
    Pattern.isMatch pattern (String.ofList (untilEnd (if atEnd then text.drop point else text.take point)))

/-! ## Tildes -/

/-- The home of a user, or of the owner of the shell. -/
def homeOf? (user : Octets) : Run (Option Octets) := do
  if user = "" then return (← Run.shell).value? "HOME"
  return (Layout.users.lookup user).map fun (_, _, home, _) => home

/-- The characters of the user behind a tilde, and the rest; `none` where no tilde is meant. -/
def tildeUser? (inner : Bool) : Word → Option (List Char × Word)
  | [] => some ([], [])
  | .char c :: rest =>
    if c = '/' || (inner && c = ':') then some ([], .char c :: rest)
    else (tildeUser? inner rest).map fun (user, rest) => (c :: user, rest)
  | _ => none

/-- Replace a tilde at the front. -/
def addTilde (manner : Manner) (word : Word) : Expanding Word := do
  match word with
  | .char '~' :: rest =>
    match tildeUser? manner.innerTilde rest with
    | none => return word
    | some (user, rest) =>
      match ← homeOf? (String.ofList user) with
      | none => return word
      | some home =>
        Expanding.addText { manner with isQuoted := true } home
        return rest
  | _ => return word

/-! ## Words -/

/-- Whether a word is exactly all parameters in quotes. -/
def isAllQuoted : Word → Bool
  | .parameter "@" .plain false [] :: .mark :: _ => true
  | _ => false

/-- How the word of an edit is expanded. -/
abbrev Within := Manner → Word → Expanding Unit

/-- Expand a word on its own. -/
def expandAlone (inner : Within) (manner : Manner) (word : Word) : Expanding (List Cell) := do
  let outside ← get
  set ({} : Buffer)
  inner manner word
  let cells := (← get).cells.toList
  set outside
  return cells

/-- Expand a parameter. -/
def addParameter (inner : Within) (manner : Manner) (name : Octets) (edit : Edit) (orEmpty : Bool)
    (word : Word) : Expanding Unit := do
  let start ← Expanding.size
  if edit = .malformed then Run.fail "Bad substitution"
  let length? ← addValue manner name
  let length? := if orEmpty && length? = some 0 then none else length?
  let asWord : Manner := { manner with startTilde := true, isWord := true }
  match edit with
  | .replacement =>
    Expanding.cutTo start
    if length?.isSome then inner asWord word
  | .fallback =>
    if length?.isSome then recordValue manner name start
    else
      Expanding.cutTo start
      inner asWord word
  | .assignment | .complaint =>
    if length?.isNone then
      Expanding.cutTo start
      let text := Cell.plainText (← expandAlone inner .text word)
      if edit = .complaint then
        if !word.isEmpty then refuseUnset name text
        refuseUnset name (if orEmpty then "parameter not set or null" else "parameter not set")
      if !isName name then Run.fail (name ++ ": bad variable name")
      Run.setVariable name text false
      let _ ← addValue manner name
    recordValue manner name start
  | _ =>
    if length?.isNone && (← Run.shell).hasOption 'u' then refuseUnset name "parameter not set"
    match edit with
    | .length =>
      Expanding.cutTo start
      Expanding.addText manner (toString (length?.getD 0))
      recordValue manner name start
    | .trim atEnd longest =>
      if length?.isNone then return
      let value := (← get).cells.toList.drop start
      Expanding.cutTo start
      let pattern := Cell.patternText (← expandAlone inner .pattern word)
      let value := match trimPoint? atEnd longest pattern (Cell.plainText value).toList with
        | none => value
        | some point => if atEnd then value.take point else value.drop point
      value.forM Expanding.pushCell
      recordValue manner name start
    | _ => if length?.isSome then recordValue manner name start

/-- The characters at the front of a word, up to one behind which a tilde counts. -/
def charRun (manner : Manner) : Word → List Char
  | .char c :: rest =>
    if manner.innerTilde && (c = ':' || (c = '=' && !manner.isBehindName)) then [c]
    else c :: charRun manner rest
  | _ => []

/-- Expand the parts of a word, where quotes may be open. -/
def addParts (substitute : Substitute) (inner : Within) :
    (length : Nat) → Manner → (inQuotes : Bool) → Word → Expanding Unit
  | 0, _, _, _ => throw .endless
  | _ + 1, _, _, [] => return
  | length + 1, manner, inQuotes, part :: rest => do
    let inside : Manner := { manner with isQuoted := manner.isQuoted || inQuotes }
    let start ← Expanding.size
    match part with
    | .char c =>
      let run := charRun manner (part :: rest)
      Expanding.addText { manner with isQuoted := false } (String.ofList run)
      if manner.isWord && !inside.isQuoted then Expanding.record start false
      let rest := rest.drop (run.length - 1)
      let last := run.getLast?.getD c
      let isName := manner.innerTilde && last = '=' && !manner.isBehindName
      let rest ← if isName || (manner.innerTilde && last = ':') then addTilde manner rest else pure rest
      let manner := { manner with isBehindName := manner.isBehindName || isName }
      addParts substitute inner length manner inQuotes rest
    | .quoted c =>
      Expanding.pushCell (.octet c manner.keepsQuotes)
      addParts substitute inner length manner inQuotes rest
    | .mark =>
      if !inQuotes && isAllQuoted rest then
        addParameter inner { manner with isQuoted := true } "@" .plain false []
        addParts substitute inner length manner inQuotes (rest.drop 2)
      else
        if manner.keepsQuotes then Expanding.pushCell .mark
        addParts substitute inner length manner (!inQuotes) rest
    | .parameter name edit orEmpty word =>
      addParameter inner inside name edit orEmpty word
      addParts substitute inner length manner inQuotes rest
    | .substitution body =>
      Expanding.addText inside (← substitute body)
      if !inside.isQuoted then Expanding.record start false
      addParts substitute inner length manner inQuotes rest
    | .arithmetic expression =>
      let text := Cell.plainText (← expandAlone inner {} expression)
      Expanding.addText inside (toString (← Arithmetic.evaluate text))
      if !inside.isQuoted then Expanding.record start false
      addParts substitute inner length manner inQuotes rest

/-- Expand a word, in which others may be nested up to a depth. -/
def addWord (substitute : Substitute) : (depth : Nat) → Manner → Word → Expanding Unit
  | 0, _, _ => throw .endless
  | depth + 1, manner, word => do
    let word ← if manner.startTilde then addTilde manner word else pure word
    let manner := { manner with startTilde := false }
    addParts substitute (addWord substitute depth) (word.length + 1) manner false word

/-- The cells and regions of an expanded word. -/
def expand (substitute : Substitute) (manner : Manner) (word : Word) : Run Buffer := do
  return (← (addWord substitute (Reading.depthLimit + 1) manner word).run {}).2

/-! ## Fields -/

/-- The state of splitting: the fields so far, the last one first, where the next one starts, whether
white separators are passed over, how many more fields may end, if that is limited, and where the last
field is cut off, if it ends in separators that do not count. -/
structure Splitting where
  fields : List (Nat × Nat) := []
  start : Nat := 0
  passesWhite : Bool := false
  left : Option Nat := none
  cut : Option Nat := none

namespace Splitting

/-- Meet a character of the last field, of which only the separators at its end are of interest. -/
def meetLast (splitting : Splitting) (position : Nat) (isSeparator isWhite : Bool) : Splitting :=
  if isWhite then { splitting with cut := splitting.cut.or (some position) }
  else
    { splitting with
      cut := if isSeparator && splitting.passesWhite then splitting.cut else none
      passesWhite := false }

/-- End a field at a separator; if it may not end there, it is the last one. -/
def endField (splitting : Splitting) (position : Nat) : Splitting :=
  match splitting.left with
  | some 1 => { splitting with left := some 0, cut := some position }
  | left =>
    { splitting with
      fields := (splitting.start, position) :: splitting.fields
      start := position + 1
      left := left.map (· - 1) }

/-- Meet a character. Where only ends of parameters separate, white space does not run together. -/
def meet (splitting : Splitting) (position : Nat) (isSeparator isWhite onlyEnds : Bool) : Splitting :=
  if splitting.left = some 0 then splitting.meetLast position isSeparator isWhite
  else if splitting.passesWhite && isSeparator then
    { splitting with start := position + 1, passesWhite := isWhite }
  else
    let splitting :=
      if splitting.passesWhite then { splitting with start := position, passesWhite := false } else splitting
    if !isSeparator then splitting
    else
      let passesWhite := isWhite && !onlyEnds
      if position = splitting.start && passesWhite then { splitting with start := position + 1 }
      else { splitting with passesWhite }.endField position

end Splitting

/-- Split at the cells of one region, from a position on. -/
def splitRegion (separators : Octets) (cells : Array Cell) (onlyEnds afterEnds : Bool) :
    (count position : Nat) → Splitting → Splitting
  | 0, _, splitting => splitting
  | count + 1, position, splitting =>
    let c := match cells[position]? with
      | some (.octet c _) => c
      | _ => '\x01'
    let isSeparator := if onlyEnds then c == '\x00' else isSeparator separators c
    splitRegion separators cells onlyEnds afterEnds count (position + 1)
      (splitting.meet position isSeparator (isSeparator && isWhite c) (onlyEnds || afterEnds))

/-- The fields of an expanded word, as ranges of its cells; at most `limit` of them, if that is given. -/
def fieldRanges (separators : Octets) (limit : Option Nat) (buffer : Buffer) : List (Nat × Nat) :=
  let (splitting, endsWithAll) := buffer.regions.toList.foldl (fun (splitting, afterEnds) region =>
    (splitRegion separators buffer.cells region.onlyEnds afterEnds (region.stop - region.start)
      region.start { splitting with passesWhite := false }, region.onlyEnds))
    (({ left := limit } : Splitting), false)
  let stop := splitting.cut.getD buffer.cells.size
  if endsWithAll || splitting.start < stop then ((splitting.start, stop) :: splitting.fields).reverse
  else splitting.fields.reverse

/-! ## Paths -/

/-- The components of a pattern in front of the first one that has to be matched, that one, and the text
behind its slash; `none` if no component has to be matched. -/
def wildComponent? : (bound : Nat) → (before component : List Char) → List Char →
    Option (List Char × List Char × Option (List Char))
  | 0, _, _, _ => none
  | _ + 1, before, component, [] =>
    if Pattern.isWild component.reverse then some (before.reverse, component.reverse, none) else none
  | bound + 1, before, component, '\\' :: '/' :: rest => wildComponent? bound before component ('/' :: rest)
  | bound + 1, before, component, '\\' :: c :: rest =>
    wildComponent? bound before (c :: '\\' :: component) rest
  | bound + 1, before, component, c :: rest =>
    if c = '/' then
      if Pattern.isWild component.reverse then some (before.reverse, component.reverse, some rest)
      else wildComponent? bound ('/' :: component ++ before) [] rest
    else wildComponent? bound before (c :: component) rest

/-- The names in a directory, with those of itself and the one above. -/
def namesIn (path : Octets) : Act (List Octets) := do
  match ← Act.node? (if path = "" then "." else path) true with
  | .error _ => return []
  | .ok node =>
    match node.content with
    | .directory entries _ => return if node.permits 4 then "." :: ".." :: entries.map (·.1) else []
    | _ => return []

/-- The paths that a pattern matches behind the path of a directory. -/
def pathsOf : (bound : Nat) → (directory : Octets) → List Char → Act (List Octets)
  | 0, _, _ => throw .endless
  | bound + 1, directory, pattern => do
    match wildComponent? (pattern.length + 1) [] [] pattern with
    | none =>
      if directory = "" then return []
      let path := directory ++ String.ofList (Pattern.unescape pattern)
      return if (← Act.node? path false) matches .ok _ then [path] else []
    | some (before, component, rest?) =>
      let directory := directory ++ String.ofList (Pattern.unescape before)
      let isHidden := match component with
        | '.' :: _ | '\\' :: '.' :: _ => true
        | _ => false
      let names := (← namesIn directory).filter fun name =>
        (isHidden || !name.startsWith ".") && Pattern.isMatch (String.ofList component) name
      match rest? with
      | none => return names.map (directory ++ ·)
      | some rest =>
        return (← names.mapM fun name => pathsOf bound (directory ++ name ++ "/") rest).flatten

/-- The paths that a field matches, or its text. -/
def fieldPaths (cells : List Cell) : Run (List Octets) := do
  let text := Cell.plainText cells
  if (← Run.shell).hasOption 'f' || !Pattern.hasWild text then return [text]
  let pattern := Cell.patternText cells
  match ← pathsOf (pattern.length + 1) "" pattern.toList with
  | [] => return [text]
  | paths => return Octets.sort paths

/-- The fields of a word. -/
def fields (substitute : Substitute) (word : Word) : Run (List Octets) := do
  let buffer ← expand substitute .fields word
  let ranges := fieldRanges (← Run.shell).separators none buffer
  let fields ← ranges.mapM fun (start, stop) => fieldPaths (buffer.cells.extract start stop).toList
  return fields.flatten

/-- A word as one text. -/
def text (substitute : Substitute) (manner : Manner) (word : Word) : Run Octets := do
  return Cell.plainText (← expand substitute manner word).cells.toList

/-- A word as a pattern. -/
def pattern (substitute : Substitute) (word : Word) : Run Octets := do
  return Cell.patternText (← expand substitute .pattern word).cells.toList

end Expansion

end Shell

end TestDaemon
