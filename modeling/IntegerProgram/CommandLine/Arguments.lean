import IntegerProgram.CommandLine.Path
import IntegerProgram.Number.Numeral
import IntegerProgram.Text.Quoted
import IntegerProgram.Value.Basic

/-!
# Arguments of the command line

The command takes the path of a model file and options. An option may be shortened as long as it
stays unambiguous, and its value follows as the next argument or after an equals sign. Two dashes
end the options; after an equals sign they stand for an empty list. A negative number is an
argument, not an option, and so is what has a space in it.

Arguments are read from the left, and the first one that is wrong is reported. What belongs to
nothing is collected and reported at the end.

## Main definitions

* `Arguments`: what the arguments ask for.
* `UsageError`: what can be wrong with them.
* `Arguments.read`: reads them.
-/
namespace IntegerProgram

/-- The options. -/
inductive Flag where
  | help
  | backend
  | timeLimit
  | workers
  | logSearch
  | output
  | verbose
  deriving DecidableEq, Inhabited, Repr

namespace Flag

/-- Every spelling of an option. -/
def spellings : List (String × Flag) :=
  [("-h", help), ("--help", help), ("--backend", backend), ("--time-limit", timeLimit),
    ("--workers", workers), ("--log-search", logSearch), ("--output", output),
    ("--verbose", verbose)]

/-- The name of an option in a message: all its spellings. -/
def name (f : Flag) : String :=
  "/".intercalate ((spellings.filter fun s => s.2 = f).map (·.1))

/-- Whether a value belongs to the option. -/
def takesValue : Flag → Bool
  | help | logSearch | verbose => false
  | backend | timeLimit | workers | output => true

end Flag

/-- What can be wrong with arguments. -/
inductive UsageError where
  | ambiguous (text : String) (candidates : List String)
  | ignoredValue (flag : Flag) (value : String)
  | missingValue (flag : Flag)
  | invalidNumber (flag : Flag) (type value : String)
  | invalidBackend (value : String)
  | missingModel
  | unrecognized (texts : List String)
  deriving Inhabited, Repr

/-- The wording of a usage error. -/
def UsageError.message : UsageError → String
  | ambiguous text candidates =>
    s!"ambiguous option: {text} could match " ++ ", ".intercalate candidates
  | ignoredValue flag value =>
    s!"argument {flag.name}: ignored explicit argument {Text.quote value}"
  | missingValue flag => s!"argument {flag.name}: expected one argument"
  | invalidNumber flag type value =>
    s!"argument {flag.name}: invalid {type} value: {Text.quote value}"
  | invalidBackend value =>
    s!"argument --backend: invalid choice: {Text.quote value} "
      ++ "(choose from 'cp_sat', 'cbc')"
  | missingModel => "the following arguments are required: model_path"
  | unrecognized texts => "unrecognized arguments: " ++ " ".intercalate texts

/-- How the command is used. -/
def Arguments.usage : List String :=
  ["usage: ipmodel-solve [-h] [--backend \x7bcp_sat,cbc\x7d] [--time-limit TIME_LIMIT]",
    "                     [--workers WORKERS] [--log-search] [--output OUTPUT]",
    "                     [--verbose]",
    "                     model_path"]

/-- What the command does and what its arguments mean. -/
def Arguments.help : List String :=
  Arguments.usage ++ ["", "Solve an integer-programming model described in a JSON file.", "",
    "positional arguments:",
    "  model_path            Path to the JSON model file.", "",
    "options:",
    "  -h, --help            show this help message and exit",
    "  --backend \x7bcp_sat,cbc\x7d",
    "                        Solving engine (default: cp_sat).",
    "  --time-limit TIME_LIMIT",
    "                        Optional time limit in seconds.",
    "  --workers WORKERS     Number of search workers (default: 1, deterministic).",
    "  --log-search          Print the backend's search log.",
    "  --output OUTPUT       Optional path where the solve report is written as",
    "                        JSON.",
    "  --verbose             Log every emitted constraint."]

/-- Why reading ends without arguments: help is asked for, or something is wrong. -/
inductive Halt where
  | help
  | usage (e : UsageError)
  deriving Inhabited, Repr

/-- What an option is given: a value, or two dashes after its equals sign. -/
inductive Given (α : Type) where
  | one (a : α)
  | nothing
  deriving DecidableEq, Inhabited, Repr

/-- What an option is given, as a setting. -/
def Given.toValue {α : Type} (f : α → Value) : Given α → Value
  | one a => f a
  | nothing => .list []

/-- What the arguments ask for. -/
structure Arguments where
  model : Option Path := none
  backend : Given String := .one "cp_sat"
  timeLimit : Option (Given Binary64) := none
  workers : Option (Given Int) := none
  logSearch : Bool := false
  output : Option (Given Path) := none
  verbose : Bool := false
  extras : List String := []
  deriving Inhabited

namespace Arguments

/-- An argument by its form. An option may have a text attached, after an equals sign or, if it is
the one-letter option, directly; an unknown one has no flag. -/
inductive Token where
  | dashes
  | plain (text : String)
  | option (flag : Option Flag) (text : String) (attached : Option String)
  | letters (text attached : String)
  deriving Inhabited, Repr

/-- A text cut at its first equals sign. -/
def cutAtEquals (s : String) : String × Option String :=
  let cs := s.toList
  let before := String.ofList (cs.takeWhile (· ≠ '='))
  match cs.dropWhile (· ≠ '=') with
  | [] => (before, none)
  | _ :: after => (before, some (String.ofList after))

/-- Whether the text is a minus sign and a number, with digits alone or with a point that digits
follow. -/
def isNegativeNumber (s : String) : Bool :=
  let isDigit (c : Char) : Bool := (Text.digitValue? c).isSome
  match s.toList with
  | '-' :: rest =>
    match rest.dropWhile isDigit with
    | [] => !rest.isEmpty
    | ['\n'] => 1 < rest.length
    | '.' :: places =>
      match places.dropWhile isDigit with
      | [] => !places.isEmpty
      | ['\n'] => 1 < places.length
      | _ => false
    | _ => false
  | _ => false

/-- The options that a text with two dashes in front may be short for. -/
def longCandidates (s : String) : List (String × Flag) :=
  Flag.spellings.filter fun f => (cutAtEquals s).1.isPrefixOf f.1

/-- The form of an argument before any that ends the options. -/
def classify (s : String) : Except UsageError Token :=
  let (before, attached) := cutAtEquals s
  if !s.startsWith "-" || s = "-" then pure (.plain s)
  else
    match Flag.spellings.find? (fun f => f.1 = s), Flag.spellings.find? (fun f => f.1 = before) with
    | some f, _ => pure (.option f.2 s none)
    | none, some f =>
      if f.1 = "-h" then pure (.letters s (attached.getD "")) else pure (.option f.2 s attached)
    | none, none =>
      let other : Token :=
        if isNegativeNumber s || s.contains ' ' then .plain s else .option none s none
      if s.startsWith "--" then
        match longCandidates s with
        | [] => pure other
        | [f] => pure (.option f.2 s attached)
        | candidates => throw (.ambiguous s (candidates.map (·.1)))
      else if s.startsWith "-h" then pure (.letters s (s.drop 2).toString)
      else pure other

/-- The forms of all arguments. -/
def tokens : List String → Except UsageError (List Token)
  | [] => pure []
  | s :: rest =>
    if s = "--" then pure (.dashes :: rest.map .plain)
    else do
      let token ← classify s
      return token :: (← tokens rest)

/-- The text of an argument. -/
def Token.text : Token → String
  | dashes => "--"
  | plain s => s
  | option _ s _ | letters s _ => s

/-- Whether the argument is an option. -/
def Token.isOption : Token → Bool
  | option .. | letters .. => true
  | _ => false

/-- Gives an option its value. -/
def assign (a : Arguments) (flag : Flag) (value : String) : Except Halt Arguments :=
  match flag with
  | .backend =>
    if value = "cp_sat" || value = "cbc" then pure { a with backend := .one value }
    else throw (.usage (.invalidBackend value))
  | .timeLimit =>
    match Numeral.real? value with
    | some x => pure { a with timeLimit := some (.one x) }
    | none => throw (.usage (.invalidNumber flag "float" value))
  | .workers =>
    match Numeral.integer? value with
    | some n => pure { a with workers := some (.one n) }
    | none => throw (.usage (.invalidNumber flag "int" value))
  | .output => pure { a with output := some (.one (.ofText value)) }
  | .help | .logSearch | .verbose => throw (.usage (.ignoredValue flag value))

/-- Gives an option what is attached to it, where two dashes are no value. -/
def attach (a : Arguments) (flag : Flag) (attached : String) : Except Halt Arguments :=
  if attached = "--" then
    match flag with
    | .backend => pure { a with backend := .nothing }
    | .timeLimit => pure { a with timeLimit := some .nothing }
    | .workers => pure { a with workers := some .nothing }
    | .output => pure { a with output := some .nothing }
    | .help | .logSearch | .verbose => a.assign flag attached
  else a.assign flag attached

/-- Switches an option on. -/
def switch (a : Arguments) : Flag → Except Halt Arguments
  | .help => throw .help
  | .logSearch => pure { a with logSearch := true }
  | .verbose => pure { a with verbose := true }
  | flag => throw (.usage (.missingValue flag))

/-- What the one-letter option leads to with something attached: help if that is the letter again
and again, and otherwise a fault that tells the rest. -/
def helpLetters (attached : String) : Halt :=
  match attached.toList.dropWhile (· = 'h') with
  | [] => if attached.isEmpty then .usage (.ignoredValue .help attached) else .help
  | rest => .usage (.ignoredValue .help (String.ofList rest))

/-- Takes the model path from the front of the arguments, with two dashes before or after it. -/
def takeModel (a : Arguments) (ts : List Token) : Option (Arguments × List Token) :=
  match a.model, ts with
  | none, .dashes :: .plain s :: rest => some ({ a with model := some (.ofText s) }, rest)
  | none, .plain s :: .dashes :: rest => some ({ a with model := some (.ofText s) }, rest)
  | none, .plain s :: rest => some ({ a with model := some (.ofText s) }, rest)
  | _, _ => none

/-- Sets arguments aside that belong to nothing. -/
def setAside (a : Arguments) (ts : List Token) : Arguments :=
  { a with extras := a.extras ++ ts.map Token.text }

/-- Takes arguments from the front until none is left. Every step takes at least one, so their
number is fuel enough. -/
def consume (a : Arguments) : Nat → List Token → Except Halt Arguments
  | 0, _ => pure a
  | fuel + 1, ts =>
    match ts with
    | [] => pure a
    | .option none s _ :: rest => { a with extras := a.extras ++ [s] }.consume fuel rest
    | .letters _ attached :: _ => throw (helpLetters attached)
    | .option (some flag) _ (some attached) :: rest => do
      (← a.attach flag attached).consume fuel rest
    | .option (some flag) _ none :: rest =>
      if flag.takesValue then
        match rest with
        | .plain value :: rest => do (← a.assign flag value).consume fuel rest
        | _ => throw (.usage (.missingValue flag))
      else do (← a.switch flag).consume fuel rest
    | _ =>
      match a.takeModel ts with
      | some (a, rest) => a.consume fuel rest
      | none =>
        (a.setAside (ts.takeWhile fun t => !t.isOption)).consume fuel
          (ts.dropWhile fun t => !t.isOption)

/-- What the arguments ask for. A model is required, and nothing may be left over. -/
def read (args : List String) : Except Halt Arguments := do
  let ts ← (tokens args).mapError .usage
  let a ← consume {} (ts.length + 1) ts
  if a.model.isNone then throw (.usage .missingModel)
  if !a.extras.isEmpty then throw (.usage (.unrecognized a.extras))
  return a

end Arguments

end IntegerProgram
