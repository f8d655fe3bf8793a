/-! # Regular expressions

Basic and extended regular expressions on octets, with groups and references to them. Of the matches that
start at a place, the longest one is found.
-/

namespace TestDaemon

/-- A regular expression. A set holds ranges of characters. -/
inductive Regex where
  | empty
  | set (isNegated : Bool) (ranges : List (Char × Char))
  | start
  | stop
  | wordEdge (atStart atStop : Bool)
  | both (first second : Regex)
  | either (first second : Regex)
  | repeated (inner : Regex) (low : Nat) (high : Option Nat)
  | group (number : Nat) (inner : Regex)
  | back (number : Nat)
  deriving Repr

namespace Regex

/-! ## Reading -/

/-- A sign of an expression. -/
inductive Token where
  | one (regex : Regex)
  | opening
  | closing
  | bar
  | times (low : Nat) (high : Option Nat)
  deriving Repr

/-- What is wrong with an expression. -/
inductive Fault where
  | unmatchedOpening
  | unmatchedClosing
  | unmatchedBracket
  | unmatchedBrace
  | badInterval
  | badReference
  | trailingBackslash
  | badClass
  | badRange
  | badRepetition
  deriving DecidableEq, Repr

namespace Fault

def message : Fault → String
  | unmatchedOpening => "Unmatched ( or \\("
  | unmatchedClosing => "Unmatched ) or \\)"
  | unmatchedBracket => "Unmatched [, [^, [:, [., or [="
  | unmatchedBrace => "Unmatched \x7b or \\\x7b"
  | badInterval => "Invalid content of \\\x7b\\\x7d"
  | badReference => "Invalid back reference"
  | trailingBackslash => "Trailing backslash"
  | badClass => "Invalid character class name"
  | badRange => "Invalid range end"
  | badRepetition => "Invalid preceding regular expression"

end Fault

def literal (c : Char) : Regex := set false [(c, c)]

def any : Regex := set true []

/-- The ranges of a named class. -/
def classRanges? (name : String) : Option (List (Char × Char)) :=
  match name with
  | "alpha" => some [('a', 'z'), ('A', 'Z')]
  | "digit" => some [('0', '9')]
  | "alnum" => some [('a', 'z'), ('A', 'Z'), ('0', '9')]
  | "upper" => some [('A', 'Z')]
  | "lower" => some [('a', 'z')]
  | "space" => some [('\t', '\x0d'), (' ', ' ')]
  | "blank" => some [('\t', '\t'), (' ', ' ')]
  | "punct" => some [('!', '/'), (':', '@'), ('[', '`'), ('\x7b', '~')]
  | "print" => some [(' ', '~')]
  | "graph" => some [('!', '~')]
  | "cntrl" => some [('\x00', '\x1f'), ('\x7f', '\x7f')]
  | "xdigit" => some [('0', '9'), ('a', 'f'), ('A', 'F')]
  | _ => none

def wordRanges : List (Char × Char) := [('a', 'z'), ('A', 'Z'), ('0', '9'), ('_', '_')]

def blankRanges : List (Char × Char) := [('\t', '\x0d'), (' ', ' ')]

/-- Read the members of a set up to its end. -/
def readSet : (bound : Nat) → (isFirst : Bool) → List Char →
    Except Fault (List (Char × Char) × List Char)
  | 0, _, _ | _, _, [] => .error .unmatchedBracket
  | bound + 1, isFirst, c :: rest =>
    if c = ']' && !isFirst then .ok ([], rest)
    else match c, rest with
      | '[', ':' :: more =>
        let name := more.takeWhile (· ≠ ':')
        match more.drop name.length with
        | ':' :: ']' :: rest =>
          match classRanges? (String.ofList name) with
          | none => .error .badClass
          | some ranges => do
            let (others, rest) ← readSet bound false rest
            return (ranges ++ others, rest)
        | _ => .error .unmatchedBracket
      | _, '-' :: last :: more =>
        if last = ']' then do
          let (others, rest) ← readSet bound false rest
          return ((c, c) :: others, rest)
        else if last < c then .error .badRange
        else do
          let (others, rest) ← readSet bound false more
          return ((c, last) :: others, rest)
      | _, _ => do
        let (others, rest) ← readSet bound false rest
        return ((c, c) :: others, rest)

/-- The number of digits. -/
def numberOf (digits : List Char) : Nat := digits.foldl (fun n c => 10 * n + (c.toNat - 48)) 0

/-- Read the numbers of an interval up to its end. -/
def readInterval (isExtended : Bool) (text : List Char) : Except Fault (Token × List Char) :=
  let low := text.takeWhile Char.isDigit
  let (high?, rest) := match text.drop low.length with
    | ',' :: rest =>
      let high := rest.takeWhile Char.isDigit
      (if high.isEmpty then none else some (numberOf high), rest.drop high.length)
    | rest => (some (numberOf low), rest)
  let rest? := match isExtended, rest with
    | true, '\x7d' :: rest => some rest
    | false, '\\' :: '\x7d' :: rest => some rest
    | _, _ => none
  match rest? with
  | none => .error (if rest.isEmpty then .unmatchedBrace else .badInterval)
  | some rest =>
    if high?.any (· < numberOf low) then .error .badInterval else .ok (.times (numberOf low) high?, rest)

/-- The sign behind a backslash that is the same in both kinds. -/
def escaped (c : Char) : Token :=
  match c with
  | 'w' => .one (.set false wordRanges)
  | 'W' => .one (.set true wordRanges)
  | 's' => .one (.set false blankRanges)
  | 'S' => .one (.set true blankRanges)
  | 'b' => .one (.wordEdge true true)
  | '<' => .one (.wordEdge true false)
  | '>' => .one (.wordEdge false true)
  | 'n' => .one (literal '\n')
  | c => .one (if c.isDigit && c ≠ '0' then .back (c.toNat - 48) else literal c)

/-- Read the signs of an expression. `atStart` tells that nothing to repeat stands in front. -/
def readTokens (isExtended : Bool) : (bound : Nat) → (atStart : Bool) → List Char →
    Except Fault (List Token)
  | 0, _, _ | _, _, [] => .ok []
  | bound + 1, atStart, c :: rest =>
    let goOn (token : Token) (rest : List Char) (atStart : Bool) : Except Fault (List Token) := do
      return token :: (← readTokens isExtended bound atStart rest)
    let more (token : Token) (rest : List Char) : Except Fault (List Token) := goOn token rest false
    let sign (c : Char) (rest : List Char) : Except Fault (List Token) :=
      match c with
      | '(' => goOn .opening rest true
      | ')' => more .closing rest
      | '|' => goOn .bar rest true
      | '+' => more (.times 1 none) rest
      | '?' => more (.times 0 (some 1)) rest
      | _ => do
        let (token, rest) ← readInterval isExtended rest
        more token rest
    match c with
    | '\\' =>
      match rest with
      | [] => .error .trailingBackslash
      | next :: rest =>
        if !isExtended && "()|+?\x7b".contains next then sign next rest else more (escaped next) rest
    | '[' =>
      let (isNegated, rest) := match rest with
        | '^' :: rest => (true, rest)
        | rest => (false, rest)
      do
        let (ranges, rest) ← readSet (rest.length + 1) true rest
        more (.one (.set isNegated ranges)) rest
    | '.' => more (.one any) rest
    | '*' => if atStart then more (.one (literal '*')) rest else more (.times 0 none) rest
    | '^' =>
      if isExtended || atStart then goOn (.one .start) rest true else more (.one (literal '^')) rest
    | '$' =>
      let isLast := match rest with
        | [] | '\\' :: ')' :: _ | '\\' :: '|' :: _ => true
        | _ => false
      if isExtended || isLast then more (.one .stop) rest else more (.one (literal '$')) rest
    | c =>
      if isExtended && "()|+?\x7b".contains c then sign c rest else more (.one (literal c)) rest

/-- The repetitions behind something. -/
def repeats : Regex → List Token → Regex × List Token
  | inner, .times low high :: rest => repeats (.repeated inner low high) rest
  | inner, rest => (inner, rest)

mutual

/-- Read the alternatives up to the end of a group, with the number of groups that were opened. -/
def readChoice : (bound : Nat) → (groups : Nat) → List Token → Except Fault (Regex × Nat × List Token)
  | 0, _, _ => .error .badRepetition
  | bound + 1, groups, tokens => do
    let (first, groups, rest) ← readBranch bound groups tokens
    match rest with
    | .bar :: rest =>
      let (second, groups, rest) ← readChoice bound groups rest
      return (.either first second, groups, rest)
    | rest => return (first, groups, rest)

/-- Read what stands one behind another. -/
def readBranch : (bound : Nat) → (groups : Nat) → List Token → Except Fault (Regex × Nat × List Token)
  | 0, _, _ => .error .badRepetition
  | _ + 1, groups, [] => .ok (.empty, groups, [])
  | bound + 1, groups, token :: rest => do
    match token with
    | .closing | .bar => return (.empty, groups, token :: rest)
    | .times .. => throw .badRepetition
    | .one regex =>
      if let .back number := regex then
        if groups < number then throw .badReference
      let (first, rest) := repeats regex rest
      let (second, groups, rest) ← readBranch bound groups rest
      return (.both first second, groups, rest)
    | .opening =>
      let number := groups + 1
      let (inner, groups, rest) ← readChoice bound number rest
      match rest with
      | .closing :: rest =>
        let (first, rest) := repeats (.group number inner) rest
        let (second, groups, rest) ← readBranch bound groups rest
        return (.both first second, groups, rest)
      | _ => throw .unmatchedOpening

end

/-- Read an expression, with the number of its groups. -/
def parse (isExtended : Bool) (text : String) : Except Fault (Regex × Nat) := do
  let chars := text.toList
  let tokens ← readTokens isExtended (chars.length + 1) true chars
  let (regex, groups, rest) ← readChoice (4 * tokens.length + 4) 0 tokens
  if rest.isEmpty then return (regex, groups) else throw .unmatchedClosing

/-! ## Matching -/

def isWord (c : Char) : Bool := c.isAlphanum || c == '_'

def inSet (isNegated : Bool) (ranges : List (Char × Char)) (c : Char) : Bool :=
  ranges.any (fun (low, high) => low ≤ c && c ≤ high) != isNegated

/-- What is left to be matched: an expression, or the end of a group that started with some text left. -/
inductive Goal where
  | meet (regex : Regex)
  | close (number : Nat) (beginning : List Char)
  | moved (left : Nat)

/-- The texts of groups, by their numbers. -/
abbrev Groups := List (Nat × List Char)

/-- Whether letters are told from capitals, and the character in front of the text. -/
structure Manner where
  ignoresCase : Bool
  isWhole : Bool

/-- Match goals in front of a text, where `before` is the character before it: the longest match is the
one that leaves the least. The result is the text that is left and the groups. -/
def run (manner : Manner) : (bound : Nat) → List Goal → (before : Option Char) → (text : List Char) →
    Groups → Option (List Char × Groups)
  | 0, _, _, _, _ => none
  | _ + 1, [], _, text, groups => if manner.isWhole && !text.isEmpty then none else some (text, groups)
  | bound + 1, goal :: goals, before, text, groups =>
    let longer (first second : Unit → Option (List Char × Groups)) : Option (List Char × Groups) :=
      match first () with
      | none => second ()
      | some (left, found) =>
        if left.isEmpty then some (left, found)
        else match second () with
          | none => some (left, found)
          | some (otherLeft, otherFound) =>
            if otherLeft.length < left.length then some (otherLeft, otherFound) else some (left, found)
    match goal with
    | .close number beginning =>
      let content := beginning.take (beginning.length - text.length)
      run manner bound goals before text ((number, content) :: groups.filter (·.1 != number))
    | .moved left => if text.length = left then none else run manner bound goals before text groups
    | .meet regex =>
      match regex with
      | .empty => run manner bound goals before text groups
      | .set isNegated ranges =>
        match text with
        | [] => none
        | c :: rest =>
          let fits := inSet isNegated ranges c ||
            (manner.ignoresCase && (inSet isNegated ranges c.toLower || inSet isNegated ranges c.toUpper))
          if fits then run manner bound goals (some c) rest groups else none
      | .start => if before.isNone then run manner bound goals before text groups else none
      | .stop => if text.isEmpty then run manner bound goals before text groups else none
      | .wordEdge atStart atStop =>
        let inside := before.any isWord
        let ahead := text.head?.any isWord
        if (atStart && !inside && ahead) || (atStop && inside && !ahead) then
          run manner bound goals before text groups
        else none
      | .both first second => run manner bound (.meet first :: .meet second :: goals) before text groups
      | .either first second =>
        longer (fun _ => run manner bound (.meet first :: goals) before text groups)
          (fun _ => run manner bound (.meet second :: goals) before text groups)
      | .repeated inner low high =>
        if high = some 0 then run manner bound goals before text groups
        else if low ≠ 0 then
          let next := Regex.repeated inner (low - 1) (high.map (· - 1))
          run manner bound (.meet inner :: .meet next :: goals) before text groups
        else
          let next := Regex.repeated inner 0 (high.map (· - 1))
          longer
            (fun _ =>
              run manner bound (.meet inner :: .moved text.length :: .meet next :: goals) before text groups)
            (fun _ => run manner bound goals before text groups)
      | .group number inner =>
        run manner bound (.meet inner :: .close number text :: goals) before text groups
      | .back number =>
        match groups.lookup number with
        | none => none
        | some content =>
          if content.isPrefixOf text then
            run manner bound goals (content.getLast?.or before) (text.drop content.length) groups
          else none

/-- A match: the text before it, the matched text, the text behind it, and the groups. -/
structure Found where
  before : List Char
  matched : List Char
  after : List Char
  groups : Groups

/-- How deep the matching of a text may go. -/
def boundFor (text : List Char) : Nat := 200 * (text.length + 100)

/-- The first match in a text, where `before` is what stands in front of the text, the last character
first. -/
def findFrom (regex : Regex) (manner : Manner) : (before : List Char) → List Char → Option Found
  | before, [] => ofRun before [] (run manner (boundFor []) [.meet regex] before.head? [] [])
  | before, c :: rest =>
    let text := c :: rest
    match ofRun before text (run manner (boundFor text) [.meet regex] before.head? text []) with
    | some found => some found
    | none => findFrom regex manner (c :: before) rest
where
  /-- The match that leaves some of a text. -/
  ofRun (before text : List Char) (left? : Option (List Char × Groups)) : Option Found :=
    left?.map fun (left, groups) =>
      ⟨before.reverse, text.take (text.length - left.length), left, groups⟩

/-- The first match in a text. -/
def find? (regex : Regex) (ignoresCase : Bool) (text : List Char) : Option Found :=
  findFrom regex ⟨ignoresCase, false⟩ [] text

/-- Whether the whole of a text matches. -/
def matchesWhole (regex : Regex) (ignoresCase : Bool) (text : List Char) : Bool :=
  (run ⟨ignoresCase, true⟩ (boundFor text) [.meet regex] none text []).isSome

end Regex

end TestDaemon
