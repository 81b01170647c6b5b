import ScriptFront.CommandLine.Integer
import ScriptFront.Text.Quoted

/-!
# The syntax of the command line

Arguments are first told apart, all of them, into options and plain arguments, and then acted on
from left to right. A long option may be cut short as long as it stays unique. The value of an
option is attached to it or is the plain argument after it. A short option that takes no value may
have more short options attached.

The rules are those of `argparse` in early releases of 3.11. Two of them have changed since, and are
different in 3.11.10 and 3.12.3 (`Setting.ofValue`, `expandShort`).
-/

namespace ScriptFront.CommandLine

/-- An option of the command line. -/
inductive Flag where
  | help | version | root | entrypoint | config | leftMargin | tokens | tree | debug
  deriving DecidableEq, Repr

namespace Flag

/-- All options, in order. -/
def all : List Flag :=
  [help, version, root, entrypoint, config, leftMargin, tokens, tree, debug]

/-- The ways to write an option. -/
def spellings : Flag → List String
  | help => ["-h", "--help"]
  | version => ["--version"]
  | root => ["-r", "--root"]
  | entrypoint => ["-e", "--entrypoint"]
  | config => ["--config"]
  | leftMargin => ["--left-margin"]
  | tokens => ["--tokens"]
  | tree => ["--tree"]
  | debug => ["--debug"]

/-- Whether an option takes a value. -/
def takesValue : Flag → Bool
  | root => true
  | entrypoint => true
  | config => true
  | leftMargin => true
  | _ => false

/-- The name of an option in messages. -/
def title (flag : Flag) : String :=
  "/".intercalate flag.spellings

/-- The spellings of all options, in order. -/
def table : List (String × Flag) :=
  all.flatMap fun flag => flag.spellings.map (·, flag)

/-- The option with a given spelling. -/
def ofSpelling? (spelling : String) : Option Flag :=
  table.lookup spelling

end Flag

/-- A mistake on the command line. -/
inductive UsageError where
  /-- A shortened option fits several. -/
  | ambiguous (argument : String) (fits : List String)
  | expectedValue (flag : Flag)
  /-- An option that takes no value has one attached. -/
  | unwantedValue (flag : Flag) (value : String)
  | invalidInteger (flag : Flag) (value : String)
  | unrecognized (arguments : List String)
  deriving DecidableEq, Repr

/-- The wording of a mistake. -/
def UsageError.message : UsageError → String
  | ambiguous argument fits =>
    "ambiguous option: " ++ argument ++ " could match " ++ ", ".intercalate fits
  | expectedValue flag => "argument " ++ flag.title ++ ": expected one argument"
  | unwantedValue flag value =>
    "argument " ++ flag.title ++ ": ignored explicit argument " ++ Text.quoted value
  | invalidInteger flag value =>
    "argument " ++ flag.title ++ ": invalid int value: " ++ Text.quoted value
  | unrecognized arguments => "unrecognized arguments: " ++ " ".intercalate arguments

/-! ## Telling arguments apart -/

/-- What an argument is. -/
inductive Argument where
  | plain (text : String)
  /-- The argument after which all are plain. -/
  | divider
  /-- An option, whether it is written as a short one, and the text attached to it. -/
  | option (flag : Flag) (short : Bool) (attached : Option (List Char))
  /-- Looks like an option and is none. -/
  | unknown (text : String)

/-- Whether a text is digits, or digits with a point before the last of them. -/
def isUnsignedNumber (text : List Char) : Bool :=
  let isRun (digits : List Char) := !digits.isEmpty && digits.all Text.isDecimalDigit
  match text.dropWhile Text.isDecimalDigit with
  | [] => isRun text
  | '.' :: fraction => isRun fraction
  | _ => false

/-- Whether an argument looks like a negative number, also with a newline after it. -/
def isNegativeNumber : List Char → Bool
  | '-' :: rest =>
    isUnsignedNumber rest || (rest.getLast? == some '\n' && isUnsignedNumber rest.dropLast)
  | _ => false

/-- The parts of an argument before and after its first equals sign, if it has one. -/
def splitEquals (text : List Char) : List Char × Option (List Char) :=
  match text.dropWhile (· != '=') with
  | [] => (text, none)
  | _ :: value => (text.takeWhile (· != '='), some value)

/-- The options that an argument may stand for: those that a long one is the beginning of, or the
short one that it starts with. -/
def candidates (text : List Char) : List (String × Argument) :=
  match text with
  | '-' :: '-' :: _ =>
    let (start, value) := splitEquals text
    (Flag.table.filter (start.isPrefixOf ·.1.toList)).map fun entry =>
      (entry.1, .option entry.2 false value)
  | '-' :: c :: value =>
    (Flag.table.filter (·.1.toList == ['-', c])).map fun entry =>
      (entry.1, .option entry.2 true (some value))
  | _ => []

/-- Whether the spelling of an option has one dash only. -/
def isShort (spelling : List Char) : Bool :=
  spelling[1]? != some '-'

/-- The option that an argument spells out, with or without an equals sign and a value. -/
def exactOption? (text : List Char) : Option Argument :=
  match Flag.ofSpelling? (String.ofList text) with
  | some flag => some (.option flag (isShort text) none)
  | none =>
    match splitEquals text with
    | (spelling, some value) =>
      (Flag.ofSpelling? (String.ofList spelling)).map fun flag =>
        .option flag (isShort spelling) (some value)
    | (_, none) => none

/-- Tells what an argument is. -/
def classify (argument : String) : Except UsageError Argument :=
  let text := argument.toList
  match text with
  | '-' :: _ :: _ =>
    match exactOption? text with
    | some option => .ok option
    | none =>
      match candidates text with
      | [(_, option)] => .ok option
      | [] =>
        .ok (if isNegativeNumber text || text.contains ' ' then .plain argument
          else .unknown argument)
      | fits => .error (.ambiguous argument (fits.map (·.1)))
  | _ => .ok (.plain argument)

/-- The argument after which all others are plain. -/
def divider : String :=
  "--"

/-- Tells what each argument is. After the divider all are plain. -/
def classifyAll : List String → Except UsageError (List Argument)
  | [] => .ok []
  | argument :: others =>
    if argument = divider then .ok (.divider :: others.map .plain)
    else
      match classify argument with
      | .error e => .error e
      | .ok first => (classifyAll others).map (first :: ·)

/-! ## Acting on arguments -/

/-- What the command line says about an option that takes a value. -/
inductive Setting (α : Type) where
  | absent
  /-- The option stands there, but its value is lost. -/
  | blank
  | given (value : α)
  deriving DecidableEq, Repr

/-- The setting that a value makes. A value that reads like the divider is dropped as if it were
one; 3.11.10 and 3.12.3 keep it. -/
def Setting.ofValue (value : String) : Setting String :=
  if value = divider then .blank else .given value

/-- What the command line asks for. -/
structure Arguments where
  root : Setting String := .given "."
  entrypoint : Setting String := .absent
  config : Setting String := .absent
  margin : Setting Int := .absent
  tokens : Bool := false
  tree : Bool := false
  debug : Bool := false
  deriving DecidableEq, Repr

/-- Why the command line is not carried out. -/
inductive Exit where
  | help
  | version
  | usage (e : UsageError)
  deriving DecidableEq, Repr

/-- Acts on an option and its value, which is empty for an option that takes none. -/
def Arguments.set (arguments : Arguments) (flag : Flag) (value : String) :
    Except Exit Arguments :=
  match flag with
  | .help => .error .help
  | .version => .error .version
  | .root => .ok { arguments with root := .ofValue value }
  | .entrypoint => .ok { arguments with entrypoint := .ofValue value }
  | .config => .ok { arguments with config := .ofValue value }
  | .leftMargin =>
    if value = divider then .ok { arguments with margin := .blank }
    else
      match integer? value with
      | some n => .ok { arguments with margin := .given n }
      | none => .error (.usage (.invalidInteger flag value))
  | .tokens => .ok { arguments with tokens := true }
  | .tree => .ok { arguments with tree := true }
  | .debug => .ok { arguments with debug := true }

/-- What one option argument comes to: options with their values, and an option that still waits for
its value. -/
structure Expansion where
  settled : List (Flag × String) := []
  waiting : Option Flag := none

/-- An option without attached text. -/
def expandBare (flag : Flag) : Expansion :=
  if flag.takesValue then { waiting := some flag } else { settled := [(flag, "")] }

/-- A short option with text attached: its value, or more short options if it takes none. If one of
these does not exist, nothing is acted on; 3.11.10 and 3.12.3 act on the options in front of it. -/
def expandShort (flag : Flag) : List Char → Except UsageError Expansion
  | [] =>
    if flag.takesValue then .ok { settled := [(flag, "")] } else .error (.unwantedValue flag "")
  | c :: rest =>
    if flag.takesValue then .ok { settled := [(flag, String.ofList (c :: rest))] }
    else
      match Flag.ofSpelling? (String.ofList ['-', c]) with
      | none => .error (.unwantedValue flag (String.ofList (c :: rest)))
      | some next =>
        let more := if rest.isEmpty then .ok (expandBare next) else expandShort next rest
        more.map fun more => { more with settled := (flag, "") :: more.settled }

/-- A long option with a value attached. -/
def expandLong (flag : Flag) (value : List Char) : Except UsageError Expansion :=
  if flag.takesValue then .ok { settled := [(flag, String.ofList value)] }
  else .error (.unwantedValue flag (String.ofList value))

/-- What an option argument comes to. -/
def expand (flag : Flag) (short : Bool) : Option (List Char) → Except UsageError Expansion
  | none => .ok (expandBare flag)
  | some attached => if short then expandShort flag attached else expandLong flag attached

/-- Acts on options in order. -/
def Arguments.setAll (arguments : Arguments) : List (Flag × String) → Except Exit Arguments
  | [] => .ok arguments
  | (flag, value) :: others =>
    match arguments.set flag value with
    | .error e => .error e
    | .ok arguments => arguments.setAll others

/-- Acts on arguments from left to right, and collects those that nobody asked for. -/
def act (arguments : Arguments) (extras : List String) :
    List Argument → Except Exit (Arguments × List String)
  | [] => .ok (arguments, extras)
  | .plain text :: others => act arguments (extras ++ [text]) others
  | .divider :: others => act arguments (extras ++ [divider]) others
  | .unknown text :: others => act arguments (extras ++ [text]) others
  | .option flag short attached :: others =>
    match expand flag short attached with
    | .error e => .error (.usage e)
    | .ok { settled, waiting := none } =>
      match arguments.setAll settled with
      | .error e => .error e
      | .ok arguments => act arguments extras others
    | .ok { settled, waiting := some flag } =>
      -- nothing is acted on before the value is there
      match others with
      | .plain value :: others =>
        match arguments.setAll (settled ++ [(flag, value)]) with
        | .error e => .error e
        | .ok arguments => act arguments extras others
      | _ => .error (.usage (.expectedValue flag))

/-- Reads the command line. -/
def readArguments (argv : List String) : Except Exit Arguments :=
  match classifyAll argv with
  | .error e => .error (.usage e)
  | .ok classified =>
    match act {} [] classified with
    | .error e => .error e
    | .ok (arguments, []) => .ok arguments
    | .ok (_, extras) => .error (.usage (.unrecognized extras))

end ScriptFront.CommandLine
