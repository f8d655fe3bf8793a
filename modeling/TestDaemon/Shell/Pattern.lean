import TestDaemon.Machine.Octets

/-! # Patterns

A pattern is matched against a whole text. `*` stands for any text, `?` for any character, brackets for
one character of a set or of none of it; a backslash takes the meaning away from what follows.
-/

namespace TestDaemon

namespace Shell

namespace Pattern

/-- The classes of characters that sets may name. -/
def classes : List (String × (Char → Bool)) :=
  [("alnum", Char.isAlphanum), ("alpha", Char.isAlpha), ("blank", fun c => c == ' ' || c == '\t'),
    ("cntrl", fun c => c < ' ' || c == '\x7f'), ("digit", Char.isDigit),
    ("graph", fun c => ' ' < c && c < '\x7f'), ("lower", Char.isLower),
    ("print", fun c => ' ' ≤ c && c < '\x7f'),
    ("punct", fun c => ' ' < c && c < '\x7f' && !c.isAlphanum),
    ("space", fun c => c == ' ' || ('\t' ≤ c && c ≤ '\x0d')), ("upper", Char.isUpper),
    ("xdigit", fun c => c.isDigit || ('a' ≤ c && c ≤ 'f') || ('A' ≤ c && c ≤ 'F'))]

/-- The class that is named at the front, behind its opening bracket, with the rest behind its end. -/
def class? (text : List Char) : Option ((Char → Bool) × List Char) :=
  match text with
  | ':' :: rest =>
    let name := rest.takeWhile (· ≠ ':')
    match rest.drop name.length with
    | ':' :: ']' :: rest => (classes.lookup (String.ofList name)).map (·, rest)
    | _ => none
  | _ => none

/-- Whether one of the first items of a set holds for a character, with the rest behind the set; `none`
if the set has no end. -/
def set? (c : Char) : (bound : Nat) → List Char → (isFirst found : Bool) → Option (Bool × List Char)
  | 0, _, _, _ => none
  | _ + 1, [], _, _ => none
  | bound + 1, first :: rest, isFirst, found =>
    if first = ']' && !isFirst then some (found, rest)
    else match if first = '[' then class? rest else none with
      | some (test, rest) => set? c bound rest false (found || test c)
      | none =>
        match if first = '\\' then rest else first :: rest with
        | [] => none
        | low :: '-' :: high :: rest =>
          if high = ']' then set? c bound ('-' :: high :: rest) false (found || c == low)
          else match if high = '\\' then rest else high :: rest with
            | [] => none
            | high :: rest => set? c bound rest false (found || (low ≤ c && c ≤ high))
        | low :: rest => set? c bound rest false (found || c == low)

/-- Whether a pattern matches a whole text. -/
def matchesList : (bound : Nat) → List Char → List Char → Bool
  | 0, _, _ => false
  | _ + 1, [], text => text.isEmpty
  | bound + 1, p :: pattern, text =>
    let exactly (p : Char) (pattern : List Char) : Bool :=
      match text with
      | [] => false
      | c :: text => p == c && matchesList bound pattern text
    match p with
    | '\\' =>
      match pattern with
      | [] => exactly '\\' []
      | p :: pattern => exactly p pattern
    | '?' =>
      match text with
      | [] => false
      | _ :: text => matchesList bound pattern text
    | '*' =>
      match pattern with
      | [] => true
      | _ => (List.range (text.length + 1)).any fun count => matchesList bound pattern (text.drop count)
    | '[' =>
      match text with
      | [] => false
      | c :: text' =>
        let (isInverted, items) := match pattern with
          | '!' :: items => (true, items)
          | items => (false, items)
        match set? c (items.length + 1) items true false with
        | none => exactly '[' pattern
        | some (found, rest) => found != isInverted && matchesList bound rest text'
    | p => exactly p pattern

/-- Whether a pattern matches a whole text. -/
def isMatch (pattern text : Octets) : Bool :=
  matchesList (pattern.length + 1) pattern.toList text.toList

/-- Whether a text has a character that may make a pattern of it. -/
def hasWild (text : Octets) : Bool := text.toList.any fun c => c == '*' || c == '?' || c == '['

/-- Whether a part of a path has to be matched: it has a star, a question mark or a set with an end. -/
def isWild : List Char → Bool
  | [] => false
  | '*' :: _ | '?' :: _ => true
  | '\\' :: _ :: rest => isWild rest
  | '[' :: rest => hasEnd (match rest with | '!' :: rest => rest | rest => rest) || isWild rest
  | _ :: rest => isWild rest
where
  /-- Whether a bracket follows after at least one character. -/
  hasEnd : List Char → Bool
    | '\\' :: _ :: rest => rest.contains ']'
    | _ :: rest => rest.contains ']'
    | [] => false

/-- A text whose characters all stand for themselves in a pattern. -/
def literal (text : Octets) : Octets :=
  String.ofList (text.toList.flatMap fun c => ['\\', c])

/-- The text of a pattern without the backslashes that take meaning away. -/
def unescape : List Char → List Char
  | [] => []
  | ['\\'] => ['\\']
  | '\\' :: c :: rest => c :: unescape rest
  | c :: rest => c :: unescape rest

end Pattern

end Shell

end TestDaemon
