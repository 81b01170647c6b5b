import ScriptFront.Text.Integer

/-!
# Blanks, comments and strings of TOML

Each reader takes the text in front of it and gives what it read and what is left, or the fault
that it met first.
-/

namespace ScriptFront.Toml

/-- Why a text cannot be read as TOML. -/
inductive Fault where
  | invalidStatement
  | expectedLineEnd
  | expectedEquals
  | expectedKey
  | expectedBracket
  | declaredTwice
  | closedNamespace
  | overwrittenValue
  | unclosedArray
  | unclosedTable
  | unterminatedString
  | illegalCharacter
  | invalidEscape
  | invalidDate
  | invalidValue
  /-- An integer is well-formed but has more digits than are read. -/
  | integerTooLong
  /-- There is no room for a value inside the values around it. -/
  | tooDeep
  deriving DecidableEq, Repr

/-- What a reader gives: a value and the text that is left, or a fault. -/
abbrev Result (α : Type) := Except Fault (α × List Char)

/-- Spaces and tabs. -/
def isBlank (c : Char) : Bool :=
  c == ' ' || c == '\t'

/-- Spaces, tabs and newlines. -/
def isGap (c : Char) : Bool :=
  isBlank c || c == '\n'

/-- The control characters that no comment and no string on one line may hold. -/
def isIllegal (c : Char) : Bool :=
  (c.toNat < 0x20 || c.toNat == 0x7F) && c != '\t'

/-- The control characters that no string may hold. -/
def isIllegalInLines (c : Char) : Bool :=
  isIllegal c && c != '\n'

/-- The text after the blanks in front of it. -/
def skipBlanks (text : List Char) : List Char :=
  text.dropWhile isBlank

/-- The text after a comment, if one is in front of it. -/
def skipComment : List Char → Except Fault (List Char)
  | '#' :: rest =>
    if (rest.takeWhile (· != '\n')).any isIllegal then .error .illegalCharacter
    else .ok (rest.dropWhile (· != '\n'))
  | text => .ok text

/-- The text after blanks, newlines and comments. -/
def skipGaps (text : List Char) : Except Fault (List Char) :=
  match _ht : text.dropWhile isGap with
  | '#' :: rest =>
    if (rest.takeWhile (· != '\n')).any isIllegal then .error .illegalCharacter
    else skipGaps (rest.dropWhile (· != '\n'))
  | rest => .ok rest
termination_by text.length
decreasing_by
  have hl := (List.dropWhile_sublist isGap (l := text)).length_le
  have hr := (List.dropWhile_sublist (· != '\n') (l := rest)).length_le
  simp only [_ht, List.length_cons] at hl
  omega

/-- The value of digits in a base. -/
def ofDigits (base : Nat) (digits : List Nat) : Nat :=
  digits.foldl (fun n digit => base * n + digit) 0

/-- The character whose code is written with exactly `count` hexadecimal digits. -/
def hexChar? (count : Nat) (text : List Char) : Option Char := do
  let digits ← (text.take count).mapM Text.hexDigit?
  let code := ofDigits 16 digits
  if digits.length = count ∧ code.isValidChar then some (Char.ofNat code) else none

/-- The characters that stand for another one after a backslash. -/
def shortEscapes : List (Char × Char) :=
  [('b', '\x08'), ('t', '\t'), ('n', '\n'), ('f', '\x0c'), ('r', '\r'), ('\x22', '\x22'),
   ('\\', '\\')]

/-- Reads what follows a backslash: the characters it stands for, and how many were read. In a
string of several lines a backslash at the end of a line joins it to the next word. -/
def escape (multiline : Bool) (text : List Char) : Except Fault (List Char × Nat) :=
  match text with
  | [] => .error .invalidEscape
  | 'u' :: rest =>
    match hexChar? 4 rest with
    | some c => .ok ([c], 5)
    | none => .error .invalidEscape
  | 'U' :: rest =>
    match hexChar? 8 rest with
    | some c => .ok ([c], 9)
    | none => .error .invalidEscape
  | c :: _ =>
    if multiline && isGap c then
      match text.dropWhile isBlank with
      | [] => .ok ([], text.length)
      | '\n' :: rest => .ok ([], text.length - (rest.dropWhile isGap).length)
      | _ => .error .invalidEscape
    else match shortEscapes.lookup c with
      | some c => .ok ([c], 1)
      | none => .error .invalidEscape

/-- Reads the body of a quoted string up to the quotes that close it. -/
def quotedBody (multiline : Bool) (text : List Char) : Result (List Char) :=
  match text with
  | [] => .error .unterminatedString
  | c :: rest =>
    if c == '\x22' then
      if !multiline then .ok ([], rest)
      else if rest.take 2 == [c, c] then .ok ([], rest.drop 2)
      else (quotedBody multiline rest).map fun body => (c :: body.1, body.2)
    else if c == '\\' then
      match escape multiline rest with
      | .error fault => .error fault
      | .ok (decoded, width) =>
        (quotedBody multiline (rest.drop width)).map fun body => (decoded ++ body.1, body.2)
    else if (if multiline then isIllegalInLines c else isIllegal c) then .error .illegalCharacter
    else (quotedBody multiline rest).map fun body => (c :: body.1, body.2)
termination_by text.length
decreasing_by
  · simp
  · simp only [List.length_drop, List.length_cons]
    omega
  · simp

/-- The text before and after the first three apostrophes. -/
def splitTriple : List Char → Option (List Char × List Char)
  | [] => none
  | '\x27' :: '\x27' :: '\x27' :: rest => some ([], rest)
  | c :: rest => (splitTriple rest).map fun parts => (c :: parts.1, parts.2)

/-- Adds to a string of several lines the one or two quotes that may stand before those that close
it. -/
def closingQuotes (mark : Char) (body rest : List Char) : List Char × List Char :=
  let extra := (rest.take 2).takeWhile (· == mark)
  (body ++ extra, rest.drop extra.length)

/-- The text without a newline in front of it. -/
def skipNewline : List Char → List Char
  | '\n' :: rest => rest
  | text => text

/-- Reads an apostrophe string on one line, after its opening apostrophe. -/
def rawString (text : List Char) : Result (List Char) :=
  let body := text.takeWhile (· != '\x27')
  match text.drop body.length with
  | [] => .error .unterminatedString
  | _ :: rest => if body.any isIllegal then .error .illegalCharacter else .ok (body, rest)

/-- Reads an apostrophe string of several lines, after its opening apostrophes. -/
def rawLines (text : List Char) : Result (List Char) :=
  match splitTriple (skipNewline text) with
  | none => .error .unterminatedString
  | some (body, rest) =>
    if body.any isIllegalInLines then .error .illegalCharacter
    else .ok (closingQuotes '\x27' body rest)

/-- Reads a quoted string of several lines, after its opening quotes. -/
def quotedLines (text : List Char) : Result (List Char) :=
  (quotedBody true (skipNewline text)).map fun body => closingQuotes '\x22' body.1 body.2

/-- Reads a string on one line with either kind of quotes. -/
def lineString : List Char → Result (List Char)
  | '\x22' :: rest => quotedBody false rest
  | '\x27' :: rest => rawString rest
  | _ => .error .expectedKey

/-- Reads a string of any kind. -/
def anyString : List Char → Result (List Char)
  | '\x22' :: '\x22' :: '\x22' :: rest => quotedLines rest
  | '\x27' :: '\x27' :: '\x27' :: rest => rawLines rest
  | text => lineString text

/-- The characters of a key without quotes. -/
def isBareKeyChar (c : Char) : Bool :=
  c.isAlphanum || c == '-' || c == '_'

/-- Reads one part of a key. -/
def keyPart (text : List Char) : Result String :=
  let bare := text.takeWhile isBareKeyChar
  if bare.isEmpty then (lineString text).map fun part => (String.ofList part.1, part.2)
  else .ok (String.ofList bare, text.drop bare.length)

/-- Reads a key of at most `fuel + 1` parts with points between them, and the blanks after it. -/
def keyParts : Nat → List Char → Result (List String)
  | fuel, text =>
    match keyPart text with
    | .error fault => .error fault
    | .ok (part, rest) =>
      match fuel, skipBlanks rest with
      | fuel + 1, '.' :: rest =>
        (keyParts fuel (skipBlanks rest)).map fun more => (part :: more.1, more.2)
      | _, rest => .ok ([part], rest)

/-- Reads a key and the blanks after it. -/
def key (text : List Char) : Result (List String) :=
  keyParts text.length text

end ScriptFront.Toml
