import ScriptFront.CommandLine.Arguments
import ScriptFront.Manifest.Load

/-!
# Options

The options of a run: what the command line says, and where it is silent, what the manifest says.
-/

namespace ScriptFront.CommandLine

/-- What a run does. -/
structure Options where
  root : Path
  entrypoint : Path
  margin : Int
  showTokens : Bool
  showTree : Bool
  debug : Bool
  deriving DecidableEq, Repr

/-- An error in what a run is asked to do. -/
inductive OptionsError where
  | config (e : ConfigError)
  | negativeMargin
  deriving DecidableEq, Repr

/-- Why there are no options. -/
abbrev OptionsFailure : Type :=
  Failure OptionsError Breakdown

/-- The text that an option is set to; an empty one does not count. -/
def Setting.text? : Setting String → Option String
  | given text => if text.isEmpty then none else some text
  | _ => none

namespace Arguments

/-- The root of the project, if it has kept its value. -/
def rootPath? (arguments : Arguments) : Option Path :=
  match arguments.root with
  | .given root => some (.ofString root)
  | _ => none

/-- The configuration file that is named, if any. -/
def configPath (arguments : Arguments) : Option Path :=
  arguments.config.text?.map .ofString

/-- The left margin: that of the command line, which may not be negative, else the manifest's. -/
def resolveMargin (arguments : Arguments) (manifest : Manifest) : Except OptionsFailure Int :=
  match arguments.margin with
  | .absent => .ok manifest.margin
  | .blank => .error (.abort .missingValue)
  | .given margin => if margin < 0 then .error (.reported .negativeMargin) else .ok margin

/-- Combines the command line with the manifest. Neither tokens nor tree asked for means both. -/
def resolve (arguments : Arguments) (root : Path) (manifest : Manifest) :
    Except OptionsFailure Options :=
  (arguments.resolveMargin manifest).map fun margin =>
    { root := root
      entrypoint := .ofString (arguments.entrypoint.text?.getD manifest.entrypoint)
      margin := margin
      showTokens := arguments.tokens || !arguments.tree
      showTree := arguments.tree || !arguments.tokens
      debug := arguments.debug }

/-- Finds the options of a run. A lost root comes first, then a fault in the manifest, then one in
the margin. -/
def options {m : Type → Type} [Monad m] (host : Host m) (arguments : Arguments) :
    m (Except OptionsFailure Options) := do
  match arguments.rootPath? with
  | none => return .error (.abort .missingValue)
  | some root =>
    match ← Manifest.load host root arguments.configPath with
    | .ok manifest => return arguments.resolve root manifest
    | .error failure => return .error (failure.widen .config)

end Arguments

end ScriptFront.CommandLine
