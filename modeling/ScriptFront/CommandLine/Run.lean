import ScriptFront.Analysis
import ScriptFront.CommandLine.Options
import ScriptFront.Report.Dump

/-!
# Running the command line

A run analyses the entrypoint of a project and prints what was asked for, piece by piece. Its
outcome is how it ended and what it wrote to its two channels until then.
-/

namespace ScriptFront.CommandLine

/-- How a run ended. -/
inductive Ending where
  /-- With an exit code, after the command line was carried out. -/
  | returned (code : Nat)
  /-- With an exit code, since the command line asked for nothing else or was wrong. -/
  | exited (code : Nat)
  /-- It broke off. -/
  | broken (b : Breakdown)
  deriving DecidableEq, Repr

/-- The end of a run and what it wrote. -/
structure Outcome where
  ending : Ending
  stdout : String := ""
  stderr : String := ""
  deriving DecidableEq, Repr

/-- The name of the program. -/
def program : String :=
  "stonescript"

/-- How to call the program. -/
def usageText : String :=
  "usage: stonescript [-h] [--version] [-r ROOT] [-e ENTRYPOINT] [--config FILE]\n" ++
  "                   [--left-margin N] [--tokens] [--tree] [--debug]\n"

/-- The help text. -/
def helpText : String :=
  usageText ++
  "\n" ++
  "StoneScript front end: tokenize and build the statement tree\n" ++
  "\n" ++
  "options:\n" ++
  "  -h, --help            show this help message and exit\n" ++
  "  --version             show program's version number and exit\n" ++
  "  -r ROOT, --root ROOT  Project root (default: .)\n" ++
  "  -e ENTRYPOINT, --entrypoint ENTRYPOINT\n" ++
  "                        Entrypoint file, relative to the root (default: from\n" ++
  "                        config or src/main.ss)\n" ++
  "  --config FILE         Config file (default: <root>/stonescript.toml)\n" ++
  "  --left-margin N       Column number assigned to the first character of each\n" ++
  "                        line (default: 0)\n" ++
  "  --tokens              Print the token list\n" ++
  "  --tree                Print the statement tree\n" ++
  "  --debug               Dump a token table to stderr\n"

/-- The outcome of a command line that is not carried out. -/
def Exit.outcome : Exit → Outcome
  | .help => { ending := .exited 0, stdout := helpText }
  | .version => { ending := .exited 0, stdout := program ++ " " ++ ScriptFront.version ++ "\n" }
  | .usage e =>
    { ending := .exited 2, stderr := usageText ++ program ++ ": error: " ++ e.message ++ "\n" }

/-- The outcome of a run that has no options. -/
def optionsOutcome : OptionsFailure → Outcome
  | .reported (.config e) => { ending := .returned 2, stderr := "error: " ++ e.message ++ "\n" }
  | .reported .negativeMargin =>
    { ending := .returned 2, stderr := "error: --left-margin must be non-negative\n" }
  | .abort b => { ending := .broken b }

/-! ## Writing -/

/-- Where a run writes to. -/
inductive Channel where
  | stdout | stderr
  deriving DecidableEq, Repr

/-- Something to write, as far as it can be written. -/
structure Piece where
  channel : Channel
  text : String
  /-- What breaks the run off after the text. -/
  broken : Option Breakdown := none

/-- A text with a newline after it; nothing at all if there is no text. -/
def Piece.line (channel : Channel) : Except Breakdown String → Piece
  | .ok text => { channel := channel, text := text ++ "\n" }
  | .error b => { channel := channel, text := "", broken := some b }

/-- Puts the text of a piece in front of what was written after it. -/
def Outcome.after (p : Piece) (o : Outcome) : Outcome :=
  match p.channel with
  | .stdout => { o with stdout := p.text ++ o.stdout }
  | .stderr => { o with stderr := p.text ++ o.stderr }

/-- Writes pieces in order until one breaks the run off, which else ends with the given code. -/
def write (code : Nat) : List Piece → Outcome
  | [] => { ending := .returned code }
  | p :: others =>
    match p.broken with
    | some b => Outcome.after p { ending := .broken b }
    | none => (write code others).after p

/-! ## The script -/

/-- The error of an analysis with its source line. -/
def errorText? (filename : String) (a : Analysis) : Option (Except Breakdown String) :=
  match a.lexError, a.parseError with
  | some e, _ => some (e.format filename)
  | none, some e => some (e.format filename)
  | none, none => none

/-- What a run writes about an analysis: the dumps that were asked for as far as the analysis got,
and the error if there is one. -/
def pieces (options : Options) (a : Analysis) : List Piece :=
  let table := a.tokens.elim [] fun tokens =>
    if options.debug then
      [⟨.stderr, Report.tokenTable tokens, Report.tableBreakdown? tokens⟩]
    else []
  let tokens := a.tokens.elim [] fun tokens =>
    if options.showTokens then [Piece.line .stdout (Report.dumpTokens tokens)] else []
  let tree := a.commands.elim [] fun commands =>
    if options.showTree then [Piece.line .stdout (Report.dumpTree commands)] else []
  let error := (errorText? options.entrypoint.text a).elim [] fun text =>
    [Piece.line .stderr text]
  table ++ tokens ++ tree ++ error

/-- The outcome of an analysis. -/
def analysisOutcome (options : Options) : Except Breakdown Analysis → Outcome
  | .ok a => write (if a.ok then 0 else 1) (pieces options a)
  | .error b => { ending := .broken b }

/-- The path of the script to analyse. -/
def Options.scriptPath (options : Options) : Path :=
  options.root.join options.entrypoint

/-- The outcome of a run whose script was read, or not. -/
def scriptOutcome (options : Options) : Except ReadFailure ByteArray → Outcome
  | .ok contents =>
    match Text.ofFile? contents with
    | some source => analysisOutcome options (analyze source options.margin)
    | none => { ending := .broken .undecodable }
  | .error .nullInPath => { ending := .broken .nullInPath }
  | .error (.system e) =>
    { ending := .returned 2
      stderr := "error: [Errno " ++ String.ofList (Text.ofNat e.code) ++ "] " ++ e.message ++
        ": " ++ Text.quoted options.scriptPath.text ++ "\n" }

/-- Carries out a command line. -/
def run {m : Type → Type} [Monad m] (host : Host m) (argv : List String) : m Outcome := do
  match readArguments argv with
  | .error exit => return exit.outcome
  | .ok arguments =>
    match ← arguments.options host with
    | .error failure => return optionsOutcome failure
    | .ok options => return scriptOutcome options (← host.files.read options.scriptPath)

end ScriptFront.CommandLine
