import TestDaemon.Shell.Words

/-! # Reading commands

A script is read command by command, each together with the texts that it announces. Commands inside
others are read at a lower depth, which bounds how deeply a script may be nested.
-/

namespace TestDaemon

namespace Shell

/-- The commands that cannot be defined as functions, and whose failure ends a shell. -/
def specialNames : List String :=
  [".", ":", "break", "continue", "eval", "exec", "exit", "export", "local", "readonly", "return", "set",
    "shift", "times", "trap", "unset"]

namespace Expectation

/-- Where a command may start, at the end of a line or later. -/
def command : Expectation := { passesLines := true, reserved := true, aliases := true }

/-- Where a command may start on the same line. -/
def sameLine : Expectation := { reserved := true, aliases := true }

/-- Where a reserved word may stand, but no command. -/
def reservedWord : Expectation := { passesLines := true, reserved := true }

end Expectation

namespace Reading

/-- Read the next token after looking for something in it. -/
def readNext (inner : Inner) (expectation : Expectation) : Reading Token := do
  expect expectation
  readToken inner

/-- Read a token that has to follow. -/
def require (inner : Inner) (token : Token) : Reading Unit := do
  if (← readToken inner) ≠ token then unexpected (some token)

/-! ## Redirections -/

/-- The line that ends an announced text: its word without quotes. -/
def delimiterOf (word : Word) : Octets :=
  String.join (word.map fun part => match part with
    | Part.char c => c.toString
    | .quoted c => c.toString
    | _ => "")

/-- Read the word of a redirection, behind the redirection itself. -/
def readTarget (inner : Inner) : Reading Redirection := do
  let source ← get
  let descriptor := source.descriptor
  let token ← match source.kind with
    | .document _ => readNext inner { source.expectation with plain := true }
    | _ => readToken inner
  if token ≠ .word then unexpected none
  let word := (← get).word
  match source.kind with
  | .file use => return .file descriptor use word
  | .duplicate => return .duplicate descriptor word
  | .text => return .text descriptor word
  | .both append => return .both append word
  | .document stripsTabs =>
    modifyGet fun source =>
      let number := source.documents.size
      let expands := !source.hasQuotes
      (.document descriptor number,
        { source with
          documents := source.documents.push (expands, [])
          announced := source.announced ++ [⟨number, delimiterOf word, stripsTabs, expands⟩] })

/-- Read the redirections that follow. -/
def readRedirections (inner : Inner) : (bound : Nat) → Reading (List Redirection)
  | 0 => tooDeep
  | bound + 1 => do
    if (← readToken inner) = .redirection then
      let first ← readTarget inner
      return first :: (← readRedirections inner bound)
    pushBack
    return []

/-! ## Simple commands -/

/-- A simple command under reading, its words in reverse. -/
structure Simple where
  assignments : List Word := []
  words : List Word := []
  redirections : List Redirection := []

/-- Read the rest of the definition of a function. -/
def readFunction (inner : Inner) (name : Word) : Reading Command := do
  require inner .closing
  match Word.bareText? name with
  | none => refuse "Bad function name"
  | some text =>
    let isGood := if (← get).extended then text ≠ "" else isName text && !specialNames.contains text
    if !isGood then refuse "Bad function name"
    expect .command
    let line := (← get).line
    return .function line text (← inner.command)

/-- Read a simple command that starts on a line, or the definition of a function. -/
def readSimple (inner : Inner) (line : Nat) : (bound : Nat) → Simple → Reading Command
  | 0, _ => tooDeep
  | bound + 1, simple => do
    match ← readNext inner { aliases := simple.words.isEmpty } with
    | .word =>
      let word := (← get).word
      if simple.words.isEmpty && (Word.assignment? word).isSome then
        readSimple inner line bound { simple with assignments := word :: simple.assignments }
      else readSimple inner line bound { simple with words := word :: simple.words }
    | .redirection =>
      let redirection ← readTarget inner
      readSimple inner line bound { simple with redirections := redirection :: simple.redirections }
    | .opening =>
      match simple with
      | ⟨[], [name], []⟩ => readFunction inner name
      | _ => finish simple
    | _ => finish simple
where
  finish (simple : Simple) : Reading Command := do
    pushBack
    return .simple line simple.assignments.reverse simple.words.reverse simple.redirections.reverse

/-! ## Compound commands -/

/-- Read the rest of a conditional command, behind its first or a further condition. -/
def readConditional (inner : Inner) : (bound : Nat) → Reading Command
  | 0 => tooDeep
  | bound + 1 => do
    let test ← inner.list .body
    require inner (.reserved "then")
    let yes ← inner.list .body
    match ← readToken inner with
    | .reserved "elif" => return .conditional test yes (← readConditional inner bound)
    | .reserved "else" => return .conditional test yes (← inner.list .body)
    | _ =>
      pushBack
      return .conditional test yes .nothing

/-- Read words up to something else. -/
def readWords (inner : Inner) : (bound : Nat) → Reading (List Word)
  | 0 => tooDeep
  | bound + 1 => do
    if (← readToken inner) = .word then
      let word := (← get).word
      return word :: (← readWords inner bound)
    return []

/-- All parameters, each as a word. -/
def allParameters : Word := [.mark, .parameter "@" .plain false [], .mark]

/-- Read the rest of a loop over words. -/
def readEach (inner : Inner) (line : Nat) : Reading Command := do
  let token ← readToken inner
  let source ← get
  let name := (Word.bareText? source.word).getD ""
  if token ≠ .word || source.hasQuotes || !isName name then refuse "Bad for loop variable"
  let words ← do
    if (← readNext inner .command) = .reserved "in" then
      let words ← readWords inner bound
      let token := (← get).token
      if token ≠ .newline && token ≠ .semicolon then unexpected none
      pure words
    else
      if (← get).token ≠ .semicolon then pushBack
      pure [allParameters]
  expect .command
  require inner (.reserved "do")
  return .each line name words (← inner.list .body)

/-- Read the patterns of a branch, from the word of the first one on. -/
def readPatterns (inner : Inner) : (bound : Nat) → Reading (List Word)
  | 0 => tooDeep
  | bound + 1 => do
    let word := (← get).word
    if (← readToken inner) = .pipe then
      let _ ← readToken inner
      return word :: (← readPatterns inner bound)
    if (← get).token ≠ .closing then unexpected (some .closing)
    return [word]

/-- Read the branches of a choice, and the word that ends it. -/
def readBranches (inner : Inner) : (bound : Nat) → Reading (List Branch)
  | 0 => tooDeep
  | bound + 1 => do
    if (← readNext inner .reservedWord) = .reserved "esac" then return []
    if (← get).token = .opening then
      let _ ← readToken inner
    let patterns ← readPatterns inner Reading.bound
    let body ← inner.list .optional
    let branch := Branch.branch patterns body
    match ← readNext inner .reservedWord with
    | .reserved "esac" => return [branch]
    | .branchEnd => return branch :: (← readBranches inner bound)
    | _ => unexpected (some .branchEnd)

/-- Read the rest of a choice. -/
def readChoice (inner : Inner) (line : Nat) : Reading Command := do
  require inner .word
  let subject := (← get).word
  expect .command
  require inner (.reserved "in")
  return .choice line subject (← readBranches inner bound)

/-- Read the rest of a condition in double brackets. -/
def readCondition (inner : Inner) : (bound : Nat) → Reading (List ConditionItem)
  | 0 => tooDeep
  | bound + 1 => do
    let item ← do
      match ← readNext inner { passesLines := true } with
      | .word =>
        let source ← get
        match Word.bareText? source.word with
        | some "]]" => return []
        | some "!" => pure (.joint .negation)
        | _ => pure (.word source.word)
      | .and => pure (.joint .both)
      | .or => pure (.joint .either)
      | .opening => pure (.joint .opening)
      | .closing => pure (.joint .closing)
      | .redirection =>
        match (← get).kind with
        | .file .read => pure (.word [.char '<'])
        | .file .write => pure (.word [.char '>'])
        | _ => unexpected none
      | _ => unexpected none
    return item :: (← readCondition inner bound)

/-- Read a computation in double parentheses, of which the first has been read. -/
def readComputation (inner : Inner) (line : Nat) : Reading Command := do
  let _ ← next
  let draft : Draft := { level := { quoting := .base } }
  let draft := (draft.openPart .arithmetic).pushLevel { quoting := .arithmetic, isDouble := true }
  let (c, draft) ← readParts inner none bound draft
  unread c
  match draft.word with
  | .arithmetic expression :: _ => return .computation line expression
  | _ => refuse "Missing '))'"

/-- Read the redirections behind a compound command that starts on a line. -/
def withRedirections (inner : Inner) (line : Nat) (body : Command) : Reading Command := do
  expect .sameLine
  match ← readRedirections inner bound with
  | [] => return body
  | redirections =>
    match body with
    | .subshell line body _ => return .subshell line body redirections
    | body => return .redirected line body redirections

/-- Read a command that starts on a line, behind its first token. -/
def readCompound (inner : Inner) (line : Nat) (token : Token) : Reading Command := do
  match token with
  | .reserved "if" =>
    let body ← readConditional inner bound
    require inner (.reserved "fi")
    withRedirections inner line body
  | .reserved "while" => loop false
  | .reserved "until" => loop true
  | .reserved "for" =>
    let body ← readEach inner line
    require inner (.reserved "done")
    withRedirections inner line body
  | .reserved "case" =>
    let body ← readChoice inner line
    withRedirections inner line body
  | .reserved "[[" =>
    let items ← readCondition inner bound
    withRedirections inner line (.condition line items)
  | .reserved "function" =>
    require inner .word
    let name := (← get).word
    if (← readToken inner) = .opening then readFunction inner name
    else
      pushBack
      expect .command
      return .function line ((Word.bareText? name).getD "") (← inner.command)
  | .opening =>
    if (← get).extended && (← peek) == some '(' then
      let body ← readComputation inner line
      withRedirections inner line body
    else
      let body ← inner.list .body
      require inner .closing
      withRedirections inner line (.subshell line body [])
  | .reserved "\x7b" =>
    let body ← inner.list .body
    require inner (.reserved "\x7d")
    withRedirections inner line body
  | .word | .redirection =>
    pushBack
    readSimple inner line bound {}
  | _ => unexpected none
where
  loop (untilTrue : Bool) : Reading Command := do
    let test ← inner.list .body
    require inner (.reserved "do")
    let body ← inner.list .body
    require inner (.reserved "done")
    withRedirections inner line (.loop untilTrue test body)

/-- Read a command. -/
def readCommand (inner : Inner) : Reading Command := do
  let line := (← get).line
  readCompound inner line (← readToken inner)

/-! ## Lists -/

/-- Read the rest of a pipeline, behind its first command. -/
def readStages (inner : Inner) : (bound : Nat) → Reading (List Command)
  | 0 => tooDeep
  | bound + 1 => do
    if (← readToken inner) = .pipe then
      expect .command
      let stage ← readCommand inner
      return stage :: (← readStages inner bound)
    pushBack
    return []

/-- Read a pipeline, which may be negated. -/
def readPipeline (inner : Inner) : Reading Command := do
  let isNegated ← do
    if (← readToken inner) = .reserved "!" then
      expect .sameLine
      pure true
    else
      pushBack
      pure false
  let first ← readCommand inner
  let stages ← readStages inner bound
  let body := if stages.isEmpty then first else .pipeline false (first :: stages)
  return if isNegated then .negation body else body

/-- Read the rest of pipelines that are joined by conditions. -/
def readJoined (inner : Inner) : (bound : Nat) → Command → Reading Command
  | 0, _ => tooDeep
  | bound + 1, first => do
    match ← readToken inner with
    | .and =>
      expect .command
      let second ← readPipeline inner
      readJoined inner bound (.both first second)
    | .or =>
      expect .command
      let second ← readPipeline inner
      readJoined inner bound (.either first second)
    | _ =>
      pushBack
      return first

/-- A command that the shell does not wait for. -/
def inBackground : Command → Command
  | .pipeline _ stages => .pipeline true stages
  | .redirected line body redirections => .background line body redirections
  | body => .background 0 body []

/-- One command or several in a row, given in reverse. -/
def sequenceOf : List Command → Command
  | [] => .nothing
  | [command] => command
  | commands => .sequence commands.reverse

/-- Read the rest of a list behind some commands, which are given in reverse. -/
def readItems (inner : Inner) (kind : ListKind) : (bound : Nat) → List Command → Reading Command
  | 0, _ => tooDeep
  | bound + 1, commands => do
    let expectation : Expectation := if kind = .line then .sameLine else .command
    match ← readNext inner expectation with
    | .newline =>
      readDocuments inner
      return sequenceOf commands
    | .ending => finish commands
    | token =>
      pushBack
      if kind ≠ .line && token.endsList && (kind = .optional || !commands.isEmpty) then
        return sequenceOf commands
      let item ← readJoined inner bound (← readPipeline inner)
      let end' ← readToken inner
      let commands := (if end' = .ampersand then inBackground item else item) :: commands
      match end' with
      | .ending => finish commands
      | .newline =>
        pushBack
        readItems inner kind bound commands
      | .ampersand | .semicolon => readItems inner kind bound commands
      | _ =>
        if kind = .line then unexpected none
        pushBack
        return sequenceOf commands
where
  finish (commands : List Command) : Reading Command := do
    readDocuments inner
    modify fun source => { source with token := .ending, pushedBack := true }
    return sequenceOf commands

/-- Lists and commands up to a depth. -/
def innerAt : (depth : Nat) → Inner
  | 0 => ⟨fun _ => tooDeep, tooDeep⟩
  | depth + 1 =>
    ⟨fun kind => do readItems (innerAt depth) kind bound [], do readCommand (innerAt depth)⟩

/-- How deeply a script may be nested. -/
def depthLimit : Nat := 1000

/-- Read the next line of commands; `none` at the end of the script. -/
def readLine : Reading (Option Command) := do
  modify fun source => { source with pushedBack := false, expectation := {}, announced := [] }
  let command ← readItems (innerAt depthLimit) .line bound []
  let source ← get
  if source.token = .ending && source.pushedBack && command matches .nothing then return none
  return some command

/-- Read a text that stands in no script as if it stood in double quotes. -/
def readQuoted : Reading Word := do
  let document : Announced := ⟨0, "\x00", false, true⟩
  let (_, draft) ← readParts (innerAt depthLimit) (some document) bound
    { level := { quoting := .double, isDouble := true } }
  return draft.word

end Reading

end Shell

end TestDaemon
