import TestDaemon.Shell.Source

/-! # Reading words

A word is read character by character. What a character means depends on the quotes and expansions that
are open around it; each pair of double parentheses, and each pattern in quotes, opens a level of its own.
The texts that a script announces are read in the same way, as if they stood in quotes.
-/

namespace TestDaemon

namespace Shell

/-- How the text at the front is understood. -/
inductive Quoting where
  | base
  | double
  | single
  | arithmetic
  deriving DecidableEq, Repr

/-- A level of quotes and expansions: how its text is understood, whether that is inside double quotes,
whether double quotes inside an edit are open, how many edits are open and how many of them inside double
quotes, whether it was opened by an edit, and how many parentheses are open. -/
structure Level where
  quoting : Quoting
  isDouble : Bool := false
  isInner : Bool := false
  edits : Nat := 0
  doubleEdits : Nat := 0
  byEdit : Bool := false
  parentheses : Nat := 0

/-- What a character means where it stands. -/
inductive Meaning where
  | plain
  | guarded
  | lineEnd
  | backslash
  | single
  | double
  | unquote
  | dollar
  | closing
  | open
  | close
  | substitution
  | separator
  deriving DecidableEq, Repr

/-- Characters that mean something in patterns and assignments, and not in quotes. -/
def isGuarded (c : Char) : Bool := "!*?[=~:/-]".contains c

def Quoting.meaning (quoting : Quoting) (c : Char) : Meaning :=
  if c = '\n' then .lineEnd
  else match quoting with
    | .base =>
      match c with
      | '\\' => .backslash
      | '\'' => .single
      | '"' => .double
      | '`' => .substitution
      | '$' => .dollar
      | '\x7d' => .closing
      | '<' | '>' | '(' | ')' | ';' | '&' | '|' | ' ' | '\t' => .separator
      | _ => .plain
    | .double =>
      match c with
      | '\\' => .backslash
      | '"' => .unquote
      | '`' => .substitution
      | '$' => .dollar
      | '\x7d' => .closing
      | c => if isGuarded c then .guarded else .plain
    | .single =>
      match c with
      | '\'' => .unquote
      | '\\' => .guarded
      | c => if isGuarded c then .guarded else .plain
    | .arithmetic =>
      match c with
      | '\\' => .backslash
      | '`' => .substitution
      | '$' => .dollar
      | '\x7d' => .closing
      | '(' => .open
      | ')' => .close
      | _ => .plain

/-- An expansion that is open. -/
inductive OpenPart where
  | edit (name : Octets) (edit : Edit) (orEmpty : Bool)
  | arithmetic

/-- A word under reading: its innermost parts, the last one first, with the open expansions around them,
and the levels. -/
structure Draft where
  parts : List Part := []
  outer : List (OpenPart × List Part) := []
  level : Level
  below : List Level := []
  hasQuotes : Bool := false

namespace Draft

def push (draft : Draft) (part : Part) : Draft := { draft with parts := part :: draft.parts }

def pushChar (draft : Draft) (c : Char) : Draft := draft.push (.char c)

def openPart (draft : Draft) (part : OpenPart) : Draft :=
  { draft with parts := [], outer := (part, draft.parts) :: draft.outer }

def closePart (draft : Draft) : Draft :=
  match draft.outer with
  | [] => draft
  | (.edit name edit orEmpty, parts) :: outer =>
    { draft with parts := .parameter name edit orEmpty draft.parts.reverse :: parts, outer }
  | (.arithmetic, parts) :: outer =>
    { draft with parts := .arithmetic draft.parts.reverse :: parts, outer }

def pushLevel (draft : Draft) (level : Level) : Draft :=
  { draft with level, below := draft.level :: draft.below }

def popLevel (draft : Draft) : Draft :=
  match draft.below with
  | [] => draft
  | level :: below => { draft with level, below }

def word (draft : Draft) : Word := draft.parts.reverse

end Draft

/-- The kinds of lists of commands: one line of a script, the body of a compound command, and what may
be empty. -/
inductive ListKind where
  | line
  | body
  | optional
  deriving DecidableEq, Repr

/-- How nested lists and commands are read. -/
structure Inner where
  list : ListKind → Reading Command
  command : Reading Command

namespace Reading

/-- More steps than the reading of any script takes. -/
def bound : Nat := 1000000000

/-- The characters from the front on that pass a test. -/
def takeWhile (test : Char → Bool) : (bound : Nat) → List Char → Reading (List Char)
  | 0, _ => tooDeep
  | bound + 1, taken => do
    match ← peek with
    | some c =>
      if test c then
        let _ ← next
        takeWhile test bound (c :: taken)
      else return taken.reverse
    | none => return taken.reverse

/-! ## Parameters -/

/-- The head of a parameter: its name and, where something is done with its value, what. -/
structure ParameterHead where
  name : Octets
  edit : Edit
  orEmpty : Bool := false

/-- The edit behind a name in braces, with whether it also applies to an empty value. -/
def readEdit : Reading (Edit × Bool) := do
  let first ← next
  let orEmpty := first == some ':'
  let c ← if orEmpty then next else pure first
  match c with
  | some '\x7d' => return (if orEmpty then .malformed else .plain, orEmpty)
  | some '-' => return (.fallback, orEmpty)
  | some '+' => return (.replacement, orEmpty)
  | some '?' => return (.complaint, orEmpty)
  | some '=' => return (.assignment, orEmpty)
  | some '%' => if orEmpty then return (.malformed, true) else return (.trim true (← accept '%'), false)
  | some '#' => if orEmpty then return (.malformed, true) else return (.trim false (← accept '#'), false)
  | _ => return (.malformed, orEmpty)

/-- The rest of a parameter in braces behind a name, where its length may have been asked for. -/
def readEditOf (name : Octets) (isLength : Bool) : Reading ParameterHead := do
  if isLength then return ⟨name, if (← peek) == some '\x7d' then .length else .malformed, false⟩
  let (edit, orEmpty) ← readEdit
  return ⟨name, edit, orEmpty⟩

/-- A parameter in braces, from its name on. -/
def readBraced (isLength : Bool) : (bound : Nat) → Reading ParameterHead
  | 0 => tooDeep
  | bound + 1 => do
    match ← next with
    | none => return ⟨"", .malformed, false⟩
    | some c =>
      if isNameStart c then
        readEditOf (String.ofList (c :: (← takeWhile isNameChar Reading.bound []))) isLength
      else if c.isDigit then
        readEditOf (String.ofList (c :: (← takeWhile Char.isDigit Reading.bound []))) isLength
      else if c = '\x7d' then
        unread (some c)
        return ⟨"", .malformed, false⟩
      else if c = '#' && !isLength then
        match ← next with
        | none => return ⟨"#", .malformed, false⟩
        | some second =>
          if isNameChar second then
            unread (some second)
            readBraced true bound
          else
            let third ← next
            unread third
            if second = '\x7d' || third != some '\x7d' then
              unread (some second)
              readEditOf "#" false
            else if isSpecialName second then return ⟨second.toString, .length, false⟩
            else return ⟨"", .malformed, false⟩
      else if isSpecialName c then readEditOf c.toString isLength
      else return ⟨"", .malformed, false⟩

/-- The head of what a dollar sign introduces, if it introduces a parameter. -/
def readParameter? : Reading (Option ParameterHead) := do
  if (← get).expectation.plain then return none
  match ← peek with
  | some '\x7b' =>
    let _ ← next
    return some (← readBraced false 2)
  | some c =>
    if isNameStart c then return some ⟨String.ofList (← takeWhile isNameChar Reading.bound []), .plain, false⟩
    else if isSpecialName c then
      let _ ← next
      return some ⟨c.toString, .plain, false⟩
    else return none
  | none => return none

/-- Put the head of a parameter into a word. Patterns have a level of their own inside quotes, and so
have all edits in an arithmetic expression and in the quotes of another edit. -/
def addParameter (draft : Draft) (head : ParameterHead) : Draft :=
  if head.edit = .plain then draft.push (.parameter head.name .plain false [])
  else
    let quoting := match head.edit with
      | .trim .. => .base
      | _ => if draft.level.quoting = .arithmetic then .double else draft.level.quoting
    let draft :=
      if quoting = draft.level.quoting && !draft.level.isInner then draft
      else draft.pushLevel { quoting, isDouble := quoting ≠ .base, byEdit := true }
    let draft := draft.openPart (.edit head.name head.edit head.orEmpty)
    let level := draft.level
    { draft with
      level := { level with
        edits := level.edits + 1
        doubleEdits := if level.isDouble then level.doubleEdits + 1 else level.doubleEdits } }

/-- Close the innermost edit. -/
def closeEdit (draft : Draft) : Draft :=
  let level := { draft.level with edits := draft.level.edits - 1 }
  let draft := draft.closePart
  if level.edits = 0 && level.byEdit then { draft with level }.popLevel
  else { draft with level := { level with doubleEdits := level.doubleEdits - 1 } }

/-! ## Announced texts -/

/-- Whether the line at the front ends an announced text; then it is passed over. Tabs in front of it are
dropped, if they do not count. -/
def endsDocument (document : Announced) : Reading Bool := do
  if document.stripsTabs then
    modify fun source => { source with rest := source.rest.dropWhile (· = '\t') }
  if document.expands then
    modify fun source =>
      let (line, rest) := joinLines source.line source.rest
      { source with line, rest }
  let source ← get
  let delimiter := document.delimiter.toList
  if !delimiter.isPrefixOf source.rest then return false
  match source.rest.drop delimiter.length with
  | [] =>
    set { source with rest := [] }
    return true
  | '\n' :: rest =>
    set { source with rest, line := source.line + 1 }
    return true
  | _ => return false

/-! ## Words -/

/-- The text of an old substitution, up to its end. Where backslashes still count is told by `isDouble`. -/
def readOldText (isDouble : Bool) : (bound : Nat) → List Char → Reading (List Char)
  | 0, _ => tooDeep
  | bound + 1, taken => do
    match ← next with
    | none => refuse "EOF in backquote substitution"
    | some '`' => return taken.reverse
    | some '\\' =>
      match ← nextRaw with
      | none => readOldText isDouble bound ('\\' :: taken)
      | some c =>
        if c = '\\' || c = '`' || c = '$' || (isDouble && c = '"') then
          readOldText isDouble bound (c :: taken)
        else readOldText isDouble bound (c :: '\\' :: taken)
    | some c =>
      if c = '\n' then newLine
      readOldText isDouble bound (c :: taken)

/-- The end of a word: what is still open is refused. -/
def finishWord (document : Option Announced) (draft : Draft) : Reading Draft := do
  if draft.level.quoting = .arithmetic then refuse "Missing '))'"
  if draft.level.quoting ≠ .base && document.isNone then refuse "Unterminated quoted string"
  if draft.level.edits ≠ 0 then refuse "Missing '\x7d'"
  return draft

/-- The backslash in front of a character stands for itself in double quotes, unless the character means
something there. -/
def keepsBackslash (document : Option Announced) (level : Level) (c : Char) : Bool :=
  level.isDouble && c ≠ '\\' && c ≠ '`' && c ≠ '$' &&
    (c ≠ '"' || (document.isSome && level.edits = 0)) && (c ≠ '\x7d' || level.edits = 0)

/-- A quotation mark; none is kept of those in announced texts. -/
def addMark (document : Option Announced) (draft : Draft) : Draft :=
  if document.isNone then draft.push .mark else draft

/-- Double quotes in an edit. -/
def toggleInner (draft : Draft) : Draft :=
  if draft.level.edits ≠ 0 then { draft with level := { draft.level with isInner := !draft.level.isInner } }
  else draft

/-- Read an old substitution. Its text is taken out of its place and read on its own. -/
def readOld (inner : Inner) (draft : Draft) : Reading Draft := do
  let text ← readOldText draft.level.isDouble bound []
  let outside ← get
  set { outside with rest := text, line := 1, pushedBack := false, announced := [] }
  let body ← inner.list .optional
  modify fun source =>
    { source with
      rest := outside.rest, line := outside.line, pushedBack := false, announced := outside.announced }
  return draft.push (.substitution body)

/-- Read a new substitution, of which the dollar sign and the parenthesis have been read. -/
def readNew (inner : Inner) (draft : Draft) : Reading Draft := do
  let outside ← get
  set { outside with announced := [], pushedBack := false }
  let body ← inner.list .optional
  if (← get).token ≠ .closing then unexpected (some .closing)
  modify fun source => { source with announced := outside.announced, pushedBack := false }
  return draft.push (.substitution body)

/-- The next character, where lines are joined unless single quotes are open. -/
def nextIn (level : Level) : Reading (Option Char) :=
  if level.quoting = .single then nextRaw else next

mutual

/-- Read a word from a level on, or an announced text, with the character that ended it. -/
def readParts (inner : Inner) (document : Option Announced) :
    (bound : Nat) → Draft → Reading (Option Char × Draft)
  | 0, _ => tooDeep
  | bound + 1, draft => do
    match ← nextIn draft.level with
    | none => return (none, ← finishWord document draft)
    | some c =>
      match draft.level.quoting.meaning c with
      | .lineEnd =>
        if draft.level.quoting = .base && draft.level.edits = 0 then
          return (some c, ← finishWord document draft)
        newLine
        startLine inner document bound (draft.pushChar c)
      | .plain => readParts inner document bound (draft.pushChar c)
      | .guarded => readParts inner document bound (draft.push (.quoted c))
      | .backslash =>
        match ← nextRaw with
        | none => readParts inner document bound (draft.push (.quoted '\\'))
        | some c =>
          let draft :=
            if keepsBackslash document draft.level c then draft.push (.quoted '\\') else draft
          readParts inner document bound { draft.push (.quoted c) with hasQuotes := true }
      | .single =>
        let draft := { draft with level := { draft.level with quoting := .single } }
        readParts inner document bound (addMark document draft)
      | .double =>
        let draft := { draft with level := { draft.level with quoting := .double, isDouble := true } }
        readParts inner document bound (addMark document (toggleInner draft))
      | .unquote =>
        if document.isSome && draft.level.edits = 0 then
          readParts inner document bound (draft.pushChar c)
        else
          let draft :=
            if draft.level.doubleEdits = 0 then
              { draft with level := { draft.level with quoting := .base, isDouble := false } }
            else draft
          let draft := if c = '"' then toggleInner draft else draft
          readParts inner document bound { addMark document draft with hasQuotes := true }
      | .dollar =>
        if (← peek) == some '(' && !(← get).expectation.plain then
          let _ ← next
          if ← accept '(' then
            let draft := (draft.openPart .arithmetic).pushLevel { quoting := .arithmetic, isDouble := true }
            readParts inner document bound draft
          else readParts inner document bound (← readNew inner draft)
        else match ← readParameter? with
          | none => readParts inner document bound (draft.pushChar c)
          | some head => readParts inner document bound (addParameter draft head)
      | .closing =>
        if draft.level.edits ≠ 0 && !draft.level.isInner then
          readParts inner document bound (closeEdit draft)
        else readParts inner document bound (draft.pushChar c)
      | .open =>
        let level := { draft.level with parentheses := draft.level.parentheses + 1 }
        readParts inner document bound { draft.pushChar c with level }
      | .close =>
        if draft.level.parentheses ≠ 0 then
          let level := { draft.level with parentheses := draft.level.parentheses - 1 }
          readParts inner document bound { draft.pushChar c with level }
        else if ← accept ')' then
          readParts inner document bound draft.closePart.popLevel
        else readParts inner document bound (draft.pushChar c)
      | .substitution =>
        if (← get).expectation.plain then
          readParts inner document bound (draft.pushChar c)
        else readParts inner document bound (← readOld inner draft)
      | .separator =>
        if draft.level.edits = 0 then return (some c, ← finishWord document draft)
        else readParts inner document bound (draft.pushChar c)

/-- Read on at the start of a line, where an announced text may end. -/
def startLine (inner : Inner) (document : Option Announced) :
    (bound : Nat) → Draft → Reading (Option Char × Draft)
  | 0, _ => tooDeep
  | bound + 1, draft => do
    match document with
    | none => readParts inner document bound draft
    | some announced =>
      if ← endsDocument announced then return (none, ← finishWord document draft)
      else readParts inner document bound draft

end

/-- Read the texts that have been announced. -/
def readDocuments (inner : Inner) : Reading Unit := do
  let announced := (← get).announced
  modify fun source => { source with announced := [] }
  for document in announced do
    let level : Level :=
      if document.expands then { quoting := .double, isDouble := true } else { quoting := .single }
    let (_, draft) ← startLine inner (some document) bound { level }
    modify fun source =>
      { source with documents := source.documents.setIfInBounds document.number (document.expands, draft.word) }

/-- Read a redirection behind its descriptor. -/
def readRedirection (c : Char) (descriptor : Option Nat) : Reading Token := do
  let kind ← do
    if c = '>' then
      if ← accept '>' then pure (.file .append)
      else if ← accept '|' then pure (.file .clobber)
      else if ← accept '&' then pure .duplicate
      else pure (.file .write)
    else if ← accept '<' then
      if ← acceptExtended '<' then pure .text
      else pure (.document (← accept '-'))
    else if ← accept '&' then pure .duplicate
    else if ← accept '>' then pure (.file .readWrite)
    else pure (.file .read)
  modify fun source =>
    { source with kind, descriptor := descriptor.getD (if c = '>' then 1 else 0), token := .redirection }
  return .redirection

/-- The descriptor in front of a redirection: nothing or one digit. -/
def descriptorOf? (draft : Draft) : Option (Option Nat) :=
  if draft.hasQuotes then none
  else match draft.parts with
    | [] => some none
    | [.char c] => if c.isDigit then some (some (c.toNat - '0'.toNat)) else none
    | _ => none

/-- Read a word or a redirection. -/
def readWord (inner : Inner) : Reading Token := do
  let (c, draft) ← readParts inner none bound { level := { quoting := .base } }
  match c, descriptorOf? draft with
  | some '>', some descriptor => readRedirection '>' descriptor
  | some '<', some descriptor => readRedirection '<' descriptor
  | _, _ =>
    unread c
    modify fun source =>
      { source with token := .word, word := draft.word, hasQuotes := draft.hasQuotes }
    return .word

/-- Pass over the rest of a line. -/
def skipComment : Reading Unit :=
  modify fun source => { source with rest := source.rest.dropWhile (· ≠ '\n') }

/-- Read the next token as it stands. -/
def readBare (inner : Inner) : (bound : Nat) → Reading Token
  | 0 => tooDeep
  | bound + 1 => do
    if (← get).pushedBack then
      modify fun source => { source with pushedBack := false }
      return (← get).token
    match ← peek with
    | none => found .ending
    | some c =>
      match c with
      | ' ' | '\t' =>
        let _ ← next
        readBare inner bound
      | '#' =>
        skipComment
        readBare inner bound
      | '\n' =>
        let _ ← next
        newLine
        found .newline
      | '&' =>
        let _ ← next
        if ← accept '&' then found .and
        else if ← acceptExtended '>' then
          let append ← accept '>'
          modify fun source => { source with kind := .both append, descriptor := 1 }
          found .redirection
        else found .ampersand
      | '|' =>
        let _ ← next
        if ← accept '|' then found .or else found .pipe
      | ';' =>
        let _ ← next
        if ← accept ';' then found .branchEnd else found .semicolon
      | '(' =>
        let _ ← next
        found .opening
      | ')' =>
        let _ ← next
        found .closing
      | _ => readWord inner
where
  found (token : Token) : Reading Token := do
    modify fun source => { source with token }
    return token

/-- Whether the text of an alias that ends in a blank ends at the front. -/
def followsAlias : Reading Bool := do
  let source ← get
  return source.aliasesInUse.any fun (name, length) =>
    length == source.rest.length &&
      ((source.aliases.lookup name).any fun value => value.endsWith " " || value.endsWith "\t")

/-- Put the text of an alias in the place of its name. -/
def useAlias (name value : Octets) : Reading Unit :=
  modify fun source =>
    { source with
      rest := value.toList ++ source.rest
      aliasesInUse := (name, source.rest.length) :: source.aliasesInUse }

/-- The text of an alias for a name that is not in use. -/
def alias? (name : Octets) : Reading (Option Octets) := do
  let source ← get
  let inUse := source.aliasesInUse.filter (·.2 ≤ source.rest.length)
  set { source with aliasesInUse := inUse }
  return if (inUse.lookup name).isSome then none else source.aliases.lookup name

/-- Read the next token in the way that is expected. -/
def readExpected (inner : Inner) (expectation : Expectation) :
    (bound : Nat) → Reading Token
  | 0 => tooDeep
  | bound + 1 => do
    let expectation :=
      if ← followsAlias then { expectation with aliases := true } else expectation
    let token ← readBare inner Reading.bound
    let further := (← get).expectation
    modify fun source => { source with expectation := {} }
    if expectation.passesLines && token = .newline then
      readDocuments inner
      readExpected inner expectation bound
    else
      let expectation := expectation.union further
      let source ← get
      if token ≠ .word || source.hasQuotes then return token
      match Word.bareText? source.word with
      | none => return token
      | some text =>
        if expectation.reserved && Token.isReserved source.extended text then
          set { source with token := .reserved text }
          return .reserved text
        if expectation.aliases then
          match ← alias? text with
          | some value =>
            useAlias text value
            readExpected inner expectation bound
          | none => return token
        else return token

/-- Read the next token. -/
def readToken (inner : Inner) : Reading Token := do
  readExpected inner (← get).expectation bound

end Reading

end Shell

end TestDaemon
