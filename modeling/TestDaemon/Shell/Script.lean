import TestDaemon.Machine.Octets

/-! # Shell scripts

Commands of the shell language. Words are kept as their parts, so that a script can be carried out
without being read again.
-/

namespace TestDaemon

namespace Shell

/-- What is done with the value of a parameter: nothing, its length is taken, a match of a pattern is
cut off, or another text is used where it is missing or where it is not. Of a malformed edit it is only
known that it cannot be carried out. -/
inductive Edit where
  | plain
  | length
  | fallback
  | replacement
  | assignment
  | complaint
  | trim (atEnd longest : Bool)
  | malformed
  deriving DecidableEq, Repr

/-- How a file is opened for a descriptor. -/
inductive FileUse where
  | read
  | write
  | clobber
  | append
  | readWrite
  deriving DecidableEq, Repr

/-- The operators of a condition between double brackets, and those that join conditions. -/
inductive Joint where
  | both
  | either
  | negation
  | opening
  | closing
  deriving DecidableEq, Repr

mutual

/-- A part of a word: an octet that may have a meaning, one that has none, a quotation mark in front of
or behind what is quoted, or something that is replaced by its value. -/
inductive Part where
  | char (c : Char)
  | quoted (c : Char)
  | mark
  | parameter (name : Octets) (edit : Edit) (orEmpty : Bool) (word : List Part)
  | substitution (body : Command)
  | arithmetic (expression : List Part)

/-- A redirection of a descriptor: to a file, to where another descriptor leads, or from a text in the
script, known by its number. -/
inductive Redirection where
  | file (descriptor : Nat) (use : FileUse) (name : List Part)
  | duplicate (descriptor : Nat) (target : List Part)
  | document (descriptor number : Nat)
  | text (descriptor : Nat) (word : List Part)
  | both (append : Bool) (name : List Part)

/-- A pattern list of a choice, with its commands. -/
inductive Branch where
  | branch (patterns : List (List Part)) (body : Command)

/-- A word or an operator of a condition between double brackets. -/
inductive ConditionItem where
  | word (word : List Part)
  | joint (joint : Joint)

/-- Commands, with the lines on which they start. -/
inductive Command where
  | nothing
  | simple (line : Nat) (assignments words : List (List Part)) (redirections : List Redirection)
  | pipeline (inBackground : Bool) (commands : List Command)
  | redirected (line : Nat) (body : Command) (redirections : List Redirection)
  | background (line : Nat) (body : Command) (redirections : List Redirection)
  | subshell (line : Nat) (body : Command) (redirections : List Redirection)
  | sequence (commands : List Command)
  | both (first second : Command)
  | either (first second : Command)
  | negation (body : Command)
  | conditional (test yes no : Command)
  | loop (untilTrue : Bool) (test body : Command)
  | each (line : Nat) (name : Octets) (words : List (List Part)) (body : Command)
  | choice (line : Nat) (subject : List Part) (branches : List Branch)
  | function (line : Nat) (name : Octets) (body : Command)
  | condition (line : Nat) (items : List ConditionItem)
  | computation (line : Nat) (expression : List Part)

end

abbrev Word := List Part

instance : Inhabited Command := ⟨.nothing⟩

def isNameStart (c : Char) : Bool := c.isAlpha || c == '_'

def isNameChar (c : Char) : Bool := c.isAlphanum || c == '_'

/-- Parameters that are named by one character. -/
def isSpecialName (c : Char) : Bool := c.isDigit || "#?$!*@-".contains c

def isName (text : Octets) : Bool :=
  match text.toList with
  | [] => false
  | first :: rest => isNameStart first && rest.all isNameChar

/-- The characters in front of the first one that cannot be in a name. -/
def Word.nameLength (word : Word) : Nat :=
  (word.takeWhile fun part => match part with
    | Part.char c => isNameChar c
    | _ => false).length

/-- The text of a word, where nothing in it is quoted or replaced. -/
def Word.bareText? (word : Word) : Option Octets :=
  (word.mapM fun part => match part with
    | Part.char c => some c
    | _ => none).map String.ofList

/-- The name and the value of a word of the form `name=value`. -/
def Word.assignment? (word : Word) : Option (Octets × Word) := do
  let length := Word.nameLength word
  let name ← Word.bareText? (word.take length)
  match word.drop length with
  | .char '=' :: value => if isName name then some (name, value) else none
  | _ => none

end Shell

end TestDaemon
