/-! # White space

The characters with the Unicode property White_Space, and the trimming and splitting of text at
them. Every character that core counts as white space is one (`isBlank_of_isWhitespace`).
-/

namespace TestDaemon

/-- The Unicode property White_Space. -/
def isBlank (c : Char) : Bool :=
  let n := c.toNat
  (9 ≤ n && n ≤ 13) || n == 0x20 || n == 0x85 || n == 0xA0 || n == 0x1680 ||
    (0x2000 ≤ n && n ≤ 0x200A) || n == 0x2028 || n == 0x2029 || n == 0x202F || n == 0x205F ||
    n == 0x3000

theorem isBlank_of_isWhitespace {c : Char} (white : c.isWhitespace) : isBlank c := by
  simp only [Char.isWhitespace, Bool.or_eq_true, decide_eq_true_eq] at white
  rcases white with ((rfl | rfl) | rfl) | rfl <;> rfl

namespace Text

/-- Text without the leading characters of a class. -/
def trimStart (text : String) : String := String.ofList (text.toList.dropWhile isBlank)

def trimEndChars (p : Char → Bool) (chars : List Char) : List Char :=
  (chars.reverse.dropWhile p).reverse

def trimChars (chars : List Char) : List Char := trimEndChars isBlank (chars.dropWhile isBlank)

/-- Text without leading and trailing white space. -/
def trim (text : String) : String := String.ofList (trimChars text.toList)

/-- Text without the trailing characters of a class. -/
def trimEnd (p : Char → Bool) (text : String) : String :=
  String.ofList (trimEndChars p text.toList)

/-- The runs of characters that are not white space; `run` holds the present one, reversed. -/
def wordsFrom (run : List Char) : List Char → List (List Char)
  | [] => if run.isEmpty then [] else [run.reverse]
  | c :: rest =>
    if isBlank c then
      if run.isEmpty then wordsFrom [] rest else run.reverse :: wordsFrom [] rest
    else wordsFrom (c :: run) rest

/-- The words of a text, separated by white space. -/
def words (text : String) : List String := (wordsFrom [] text.toList).map String.ofList

/-- What follows `head`, if the characters start with it. -/
def afterChars? : (head chars : List Char) → Option (List Char)
  | [], chars => some chars
  | _ :: _, [] => none
  | h :: head, c :: chars => if h = c then afterChars? head chars else none

/-- What follows `head`, if the text starts with it. -/
def after? (head text : String) : Option String :=
  (afterChars? head.toList text.toList).map String.ofList

theorem afterChars?_eq_some_iff {head chars rest : List Char} :
    afterChars? head chars = some rest ↔ chars = head ++ rest := by
  induction head generalizing chars with
  | nil => simp [afterChars?]
  | cons h head ih =>
    cases chars with
    | nil => simp [afterChars?]
    | cons c chars =>
      by_cases same : h = c
      · simp [afterChars?, same, ih]
      · simp [afterChars?, same, Ne.symm same]

theorem after?_eq_some_iff {head text rest : String} :
    after? head text = some rest ↔ text = head ++ rest := by
  simp only [after?, Option.map_eq_some_iff, afterChars?_eq_some_iff]
  constructor
  · rintro ⟨chars, split, rfl⟩
    apply String.toList_injective
    simp [split]
  · rintro rfl
    exact ⟨rest.toList, by simp, by simp⟩

def startsWith (head text : String) : Bool := (after? head text).isSome

end Text

end TestDaemon
