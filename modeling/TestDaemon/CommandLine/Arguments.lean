/-! # Command-line arguments

A command line holds options with values, positional arguments and, if the shape names any, one command
with arguments of its own. An option is given as `--name value` or `--name=value`, and once at most;
behind `--` all arguments are positional. Words are taken from left to right, and the first that is out
of place decides.
-/

namespace TestDaemon

namespace CommandLine

/-- Why a command line is not carried out: it breaks the rules, or asks for the help text or the
version instead. -/
inductive Dismissal where
  | usage
  | help
  | version
  deriving DecidableEq, Repr

structure OptionShape where
  name : String
  accepts : String → Bool

/-- What a command line may hold: options, the tests for its positional arguments, of which the first
`required` must be there, and the names of its commands. -/
structure Shape where
  options : List OptionShape
  positionals : List (String → Bool)
  required : Nat
  commands : List String
  versioned : Bool

/-- What a command line holds. A command comes with the words behind it. -/
structure Arguments where
  options : List (String × String)
  positionals : List String
  command : Option (String × List String)
  deriving DecidableEq, Repr

namespace Arguments

def empty : Arguments := ⟨[], [], none⟩

/-- The value of an option. -/
def option? (arguments : Arguments) (name : String) : Option String := arguments.options.lookup name

end Arguments

/-- Whether a word is taken for an option rather than for a value. -/
def isDashed (word : String) : Bool :=
  match word.toList with
  | '-' :: _ :: _ => true
  | _ => false

namespace Shape

/-- Take an option with its value. -/
def takeOption (shape : Shape) (arguments : Arguments) (name value : String) :
    Except Dismissal Arguments :=
  match shape.options.find? (·.name = name) with
  | none => .error .usage
  | some option =>
    if (arguments.option? name).isSome ∨ ¬ option.accepts value then .error .usage
    else .ok { arguments with options := arguments.options ++ [(name, value)] }

/-- Take a positional argument. -/
def takePositional (shape : Shape) (arguments : Arguments) (value : String) :
    Except Dismissal Arguments :=
  match shape.positionals[arguments.positionals.length]? with
  | none => .error .usage
  | some accepts =>
    if accepts value then .ok { arguments with positionals := arguments.positionals ++ [value] }
    else .error .usage

/-- What comes of a word that starts with a dash and is no option with a value. -/
def flag (shape : Shape) (word : String) : Dismissal :=
  match word.toList with
  | '-' :: 'h' :: _ => .help
  | '-' :: 'V' :: _ => if shape.versioned then .version else .usage
  | _ =>
    if word = "--help" then .help
    else if word = "--version" ∧ shape.versioned then .version
    else .usage

/-- The name and the value of a word of the form `--name=value`. -/
def assignment? (word : String) : Option (String × String) :=
  match word.toList with
  | '-' :: '-' :: rest =>
    if '=' ∈ rest then
      some (String.ofList (rest.takeWhile (· ≠ '=')), String.ofList ((rest.dropWhile (· ≠ '=')).drop 1))
    else none
  | _ => none

/-- The name of an option whose value is the next word. -/
def optionName? (shape : Shape) (word : String) : Option String :=
  (shape.options.find? fun option => "--" ++ option.name = word).map (·.name)

/-- What comes of a request for help on a command. -/
def help (shape : Shape) (words : List String) : Dismissal :=
  match words with
  | [] => .help
  | command :: _ => if command ∈ shape.commands ∨ command = "help" then .help else .usage

/-- Take words from left to right; `pending` is the option that waits for its value. -/
def takeWords (shape : Shape) (pending : Option String) (arguments : Arguments) :
    List String → Except Dismissal Arguments
  | [] => if pending.isSome then .error .usage else .ok arguments
  | word :: words =>
    match pending with
    | some name =>
      if isDashed word then .error .usage
      else (shape.takeOption arguments name word).bind fun arguments =>
        shape.takeWords none arguments words
    | none =>
      if word ∈ shape.commands then .ok { arguments with command := some (word, words) }
      else if word = "help" ∧ shape.commands ≠ [] then .error (shape.help words)
      else if word = "--" then words.foldlM shape.takePositional arguments
      else match assignment? word, shape.optionName? word with
        | some (name, value), _ =>
          (shape.takeOption arguments name value).bind fun arguments =>
            shape.takeWords none arguments words
        | none, some name => shape.takeWords (some name) arguments words
        | none, none =>
          if isDashed word then .error (shape.flag word)
          else (shape.takePositional arguments word).bind fun arguments =>
            shape.takeWords none arguments words

/-- Read a command line. -/
def parse (shape : Shape) (words : List String) : Except Dismissal Arguments := do
  let arguments ← shape.takeWords none .empty words
  if arguments.positionals.length < shape.required then throw .usage
  else if shape.commands ≠ [] ∧ arguments.command.isNone then throw .usage
  else return arguments

end Shape

end CommandLine

end TestDaemon
