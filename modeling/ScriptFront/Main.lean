import ScriptFront.CommandLine.Run

/-!
# The program

Gives the command line access to the files of the system, and carries out its outcome.
-/

namespace ScriptFront.CommandLine

/-- An error of the system: its number and its wording. -/
def systemError : IO.Error → SystemError
  | .noFileOrDirectory _ code details | .interrupted _ code details
  | .alreadyExists _ code details | .inappropriateType _ code details
  | .invalidArgument _ code details | .noSuchThing _ code details
  | .permissionDenied _ code details | .resourceExhausted _ code details
  | .otherError code details | .resourceBusy code details | .resourceVanished code details
  | .unsupportedOperation code details | .hardwareFault code details
  | .unsatisfiedConstraints code details | .illegalOperation code details
  | .protocolError code details | .timeExpired code details => ⟨code.toNat, details⟩
  | .unexpectedEof => ⟨0, "Unexpected end of file"⟩
  | .userError message => ⟨0, message⟩

/-- Does what a path is needed for, unless it holds the null character or the system refuses. -/
def withPath {α : Type} (path : Path) (act : IO α) : IO (Except ReadFailure α) := do
  if Disk.hasNull path then return .error .nullInPath
  try
    return .ok (← act)
  catch e =>
    return .error (.system (systemError e))

/-- Opens a file of the system. -/
def openFile (path : Path) : IO IO.FS.Handle :=
  IO.FS.Handle.mk path.text .read

/-- Access to the files of the system. -/
def systemFiles : FileAccess IO where
  isFile path := do
    match ← withPath path do (← IO.FS.realPath path.text).metadata with
    | .ok data => return .ok (data.type == .file)
    | .error .nullInPath => return .ok false
    | .error (.system _) =>
      -- why there is nothing to look at is only told to those who open it
      match ← withPath path (openFile path) with
      | .error (.system e) => return if e.isAbsence then .ok false else .error e
      | _ => return .ok true
  read path := withPath path do (← openFile path).readBinToEnd

/-- The words that this program has for a fault. -/
def faultWording : Toml.Fault → String
  | .invalidStatement => "invalid statement"
  | .expectedLineEnd => "expected the end of the line after a statement"
  | .expectedEquals => "expected '=' after a key"
  | .expectedKey => "expected a key"
  | .expectedBracket => "expected ']' at the end of a table header"
  | .declaredTwice => "a table is declared twice"
  | .closedNamespace => "an inline value is extended"
  | .overwrittenValue => "a value is overwritten"
  | .unclosedArray => "unclosed array"
  | .unclosedTable => "unclosed inline table"
  | .unterminatedString => "unterminated string"
  | .illegalCharacter => "illegal character"
  | .invalidEscape => "invalid escape in a string"
  | .invalidDate => "invalid date"
  | .invalidValue => "invalid value"
  | .integerTooLong => "an integer has too many digits"
  | .tooDeep => "values are nested too deeply"

/-- The system that the program runs on. Of a thousand calls inside one another, sixteen have been
made where a value of a configuration is read. -/
def system : Host IO where
  files := systemFiles
  toml := { room := 984, wording := fun fault _ => faultWording fault }

/-- The exit code of a run, and a last word if it broke off. -/
def finish : Ending → IO UInt32
  | .returned code => return code.toUInt32
  | .exited code => return code.toUInt32
  | .broken b => do
    IO.eprintln (program ++ ": " ++ b.message)
    return 1

end ScriptFront.CommandLine

/-- Runs the program. -/
def main (argv : List String) : IO UInt32 := do
  let outcome ← ScriptFront.CommandLine.run ScriptFront.CommandLine.system argv
  IO.print outcome.stdout
  IO.eprint outcome.stderr
  ScriptFront.CommandLine.finish outcome.ending
