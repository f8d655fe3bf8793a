import TestDaemon.Shell.Script

/-! # The text of a script under reading

What is left of the text, the line that it is on, the token that was read last, and the texts that the
script announced and that follow at the end of the line. A backslash at the end of a line joins it to
the next one.
-/

namespace TestDaemon

namespace Shell

/-- The tokens of the language. A word is kept beside the token. -/
inductive Token where
  | ending
  | newline
  | semicolon
  | ampersand
  | and
  | or
  | pipe
  | opening
  | closing
  | branchEnd
  | redirection
  | word
  | reserved (name : String)
  deriving DecidableEq, Repr

namespace Token

/-- The words that are reserved where a command may start. -/
def reservedWords : List String :=
  ["!", "case", "do", "done", "elif", "else", "esac", "fi", "for", "if", "in", "then", "until", "while",
    "\x7b", "\x7d"]

/-- Whether a word is reserved; the extended language has a few more. -/
def isReserved (extended : Bool) (text : String) : Bool :=
  reservedWords.contains text || (extended && ["[[", "function"].contains text)

/-- How a token is called in a complaint. -/
def title : Token → String
  | ending => "end of file"
  | newline => "newline"
  | semicolon => "\";\""
  | ampersand => "\"&\""
  | and => "\"&&\""
  | or => "\"||\""
  | pipe => "\"|\""
  | opening => "\"(\""
  | closing => "\")\""
  | branchEnd => "\";;\""
  | redirection => "redirection"
  | word => "word"
  | reserved name => "\"" ++ name ++ "\""

/-- Whether a list of commands ends at a token. -/
def endsList : Token → Bool
  | ending | closing | branchEnd => true
  | reserved name => ["do", "done", "elif", "else", "esac", "fi", "then", "\x7d"].contains name
  | _ => false

end Token

/-- What is wrong with a script, and the line where that shows. -/
structure SyntaxFault where
  line : Nat
  text : String
  deriving DecidableEq, Repr

/-- A text that the script announced: its number, the line that ends it, whether tabs in front of its
lines are dropped, and whether it is expanded. -/
structure Announced where
  number : Nat
  delimiter : Octets
  stripsTabs : Bool
  expands : Bool

/-- The kinds of redirections, before their words are read. -/
inductive RedirectionKind where
  | file (use : FileUse)
  | duplicate
  | document (stripsTabs : Bool)
  | text
  | both (append : Bool)
  deriving DecidableEq, Repr

/-- What is looked for in the next token: line ends are passed over, reserved words are recognised,
aliases are replaced, or the word only ends an announced text. -/
structure Expectation where
  passesLines : Bool := false
  reserved : Bool := false
  aliases : Bool := false
  plain : Bool := false

def Expectation.union (a b : Expectation) : Expectation :=
  ⟨a.passesLines || b.passesLines, a.reserved || b.reserved, a.aliases || b.aliases, a.plain || b.plain⟩

/-- The text of a script under reading: the rest of it, the last token with what belongs to it, what is
looked for in the next one, the announced texts that are still to come, and all that have been read. An
alias is in use as long as the rest is not shorter than it was behind its name. -/
structure Source where
  rest : List Char
  line : Nat := 1
  pushedBack : Bool := false
  token : Token := .newline
  word : Word := []
  hasQuotes : Bool := false
  kind : RedirectionKind := .duplicate
  descriptor : Nat := 0
  expectation : Expectation := {}
  announced : List Announced := []
  documents : Array (Bool × Word) := #[]
  aliases : List (Octets × Octets) := []
  aliasesInUse : List (Octets × Nat) := []
  extended : Bool := false
  /-- Whether what is read may be shown as it stands. -/
  isFile : Bool := false

/-- A step of reading. -/
abbrev Reading := EStateM SyntaxFault Source

namespace Reading

/-- Refuse the script. -/
def refuse {α : Type} (text : String) : Reading α := do
  throw ⟨(← get).line, "Syntax error: " ++ text⟩

/-- Refuse the last token, where another one may have been expected. -/
def unexpected {α : Type} (expected : Option Token) : Reading α := do
  let title := (← get).token.title
  match expected with
  | none => refuse (title ++ " unexpected")
  | some token => refuse s!"{title} unexpected (expecting {token.title})"

/-- Refuse a script that is nested too deeply. -/
def tooDeep {α : Type} : Reading α := refuse "nested too deeply"

def newLine : Reading Unit := modify fun source => { source with line := source.line + 1 }

/-- The next character. -/
def nextRaw : Reading (Option Char) :=
  modifyGet fun source =>
    match source.rest with
    | [] => (none, source)
    | c :: rest => (some c, { source with rest })

/-- The text and the line behind joined lines. -/
def joinLines : (line : Nat) → List Char → Nat × List Char
  | line, '\\' :: '\n' :: rest => joinLines (line + 1) rest
  | line, text => (line, text)

/-- The next character behind joined lines. -/
def next : Reading (Option Char) :=
  modifyGet fun source =>
    let (line, text) := joinLines source.line source.rest
    match text with
    | [] => (none, { source with line, rest := [] })
    | c :: rest => (some c, { source with line, rest })

/-- The character that comes next. -/
def peek : Reading (Option Char) :=
  modifyGet fun source =>
    let (line, text) := joinLines source.line source.rest
    (text.head?, { source with line, rest := text })

def unread (c : Option Char) : Reading Unit :=
  match c with
  | none => pure ()
  | some c => modify fun source => { source with rest := c :: source.rest }

/-- Read the next character, if it is the given one. -/
def accept (c : Char) : Reading Bool := do
  if (← peek) == some c then
    let _ ← next
    return true
  return false

/-- Read the next character, if it is the given one and the language is the extended one. -/
def acceptExtended (c : Char) : Reading Bool := do
  if (← get).extended then accept c else return false

/-- Look for something in the next token. -/
def expect (expectation : Expectation) : Reading Unit := modify fun source => { source with expectation }

def pushBack : Reading Unit := modify fun source => { source with pushedBack := true }

end Reading

end Shell

end TestDaemon
