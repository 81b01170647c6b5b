/-!
# Failures

A computation that gives no answer has reported an error that someone can act on, or it broke off
for a reason that is nobody's error: a limit of the machine, a refusal of the system, or input that
is no text at all.
-/

namespace ScriptFront

/-! ## The system -/

/-- Why the system refuses what it is asked for: the number of the error and its wording. -/
structure SystemError where
  code : Nat
  message : String
  deriving DecidableEq, Repr

namespace SystemError

def notFound : SystemError :=
  ⟨2, "No such file or directory"⟩

def notDirectory : SystemError :=
  ⟨20, "Not a directory"⟩

def isDirectory : SystemError :=
  ⟨21, "Is a directory"⟩

/-- A name on the path, or the path as a whole, is too long. -/
def nameTooLong : SystemError :=
  ⟨36, "File name too long"⟩

/-- Whether an error that is met while looking for a file only says that there is none: nothing is
there, a name on the way is no directory, what is asked for is not open, or links lead in a
circle. -/
def isAbsence (e : SystemError) : Bool :=
  [2, 9, 20, 40].contains e.code

end SystemError

/-! ## Breaking off -/

/-- What breaks a computation off. -/
inductive Breakdown where
  /-- A file is not UTF-8. -/
  | undecodable
  /-- A path holds the null character. -/
  | nullInPath
  /-- An integer has too many digits to be read or written. -/
  | integerTooLong
  /-- A line would have more characters than can be counted. -/
  | lineTooLong
  /-- A line would have more characters than there is room for. -/
  | outOfMemory
  /-- Values are nested too deeply. -/
  | tooDeep
  /-- An option lacks the value that it is needed for. -/
  | missingValue
  /-- The system refuses to look for a file or to open it. -/
  | refused (e : SystemError)
  deriving DecidableEq, Repr

/-- The wording of a breakdown. -/
def Breakdown.message : Breakdown → String
  | undecodable => "a file is not valid UTF-8"
  | nullInPath => "a path holds the null character"
  | integerTooLong => "an integer has too many digits"
  | lineTooLong => "a line has too many characters"
  | outOfMemory => "a line does not fit into memory"
  | tooDeep => "values are nested too deeply"
  | missingValue => "an option has no value"
  | refused e => e.message

/-- Why a file cannot be read: the system refuses, or its path is none because it holds the null
character. -/
inductive ReadFailure where
  | system (e : SystemError)
  | nullInPath
  deriving DecidableEq, Repr

/-- What breaks a computation off that cannot do without a file. -/
def ReadFailure.breakdown : ReadFailure → Breakdown
  | system e => .refused e
  | nullInPath => .nullInPath

/-- Why a computation gives no answer: it reported an error, or it broke off. -/
inductive Failure (ε χ : Type) where
  | reported (e : ε)
  | abort (reason : χ)
  deriving DecidableEq, Repr

/-- The failure with its error seen as one of a wider kind. -/
def Failure.widen {ε ε' χ : Type} (f : ε → ε') : Failure ε χ → Failure ε' χ
  | reported e => reported (f e)
  | abort reason => abort reason

end ScriptFront
