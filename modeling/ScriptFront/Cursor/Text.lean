import ScriptFront.Cursor.Action
import ScriptFront.Diagnostic.Basic
import ScriptFront.Lexeme.Lexing

/-!
# The text cursor

A cursor over the characters of a source that keeps track of offset, row and column. Rows start
at one. Columns start at the left margin and return to it after every newline. Lexemes that are
read here become tokens, and causes become located errors, or a breakdown where the column has grown
too long to be written.
-/

namespace ScriptFront

/-- A place in a text. -/
structure Place where
  offset : Nat
  row : Nat
  column : Int
  deriving DecidableEq, Repr

namespace Place

/-- The place of the first character. -/
def start (margin : Int) : Place :=
  ⟨0, 1, margin⟩

/-- The place after a character. -/
def next (margin : Int) (p : Place) (c : Char) : Place :=
  if c = '\n' then ⟨p.offset + 1, p.row + 1, margin⟩
  else ⟨p.offset + 1, p.row, p.column + 1⟩

end Place

/-- A source, the characters of it that are left, and the place of the first of these. -/
structure TextCursor where
  source : String
  margin : Int
  rest : List Char
  place : Place

namespace TextCursor

variable {α : Type}

/-- The cursor at the start of a source. -/
def start (source : String) (margin : Int) : TextCursor :=
  ⟨source, margin, source.toList, .start margin⟩

/-- Moves over some characters, at most to the end. -/
def move : Nat → TextCursor → TextCursor
  | 0, k => k
  | n + 1, k =>
    match k.rest with
    | [] => k
    | c :: rest => move n { k with rest := rest, place := k.place.next k.margin c }

/-- Moving leaves what the moved-over characters leave. -/
@[simp] theorem rest_move (n : Nat) (k : TextCursor) : (k.move n).rest = k.rest.drop n := by
  induction n generalizing k with
  | zero => rfl
  | succ n ih =>
    unfold move
    split
    · rename_i h
      simp [h]
    · rename_i h
      rw [ih, h, List.drop_succ_cons]

@[simp] theorem source_move (n : Nat) (k : TextCursor) : (k.move n).source = k.source := by
  induction n generalizing k with
  | zero => rfl
  | succ n ih =>
    unfold move
    split
    · rfl
    · rw [ih]

@[simp] theorem margin_move (n : Nat) (k : TextCursor) : (k.move n).margin = k.margin := by
  induction n generalizing k with
  | zero => rfl
  | succ n ih =>
    unfold move
    split
    · rfl
    · rw [ih]

/-- Moving in two steps is moving at once. -/
theorem move_add (a b : Nat) (k : TextCursor) : k.move (a + b) = (k.move a).move b := by
  induction a generalizing k with
  | zero => rw [Nat.zero_add, move]
  | succ a ih =>
    rw [Nat.succ_add, move, move]
    split
    · rename_i h
      cases b with
      | zero => rfl
      | succ b => simp [move, h]
    · exact ih _

/-! ## Reading at the cursor -/

/-- What reading at a cursor gives, unless an error is reported or the reading breaks off. -/
abbrev Result (α : Type) : Type :=
  Except (Failure LexError Breakdown) α

/-- The error for a cause met at the cursor. -/
def error (k : TextCursor) (cause : Cause) : LexError :=
  { text := cause.message, kind := cause.kind, row := k.place.row, column := k.place.column,
    offset := k.place.offset, source := k.source, margin := k.margin }

/-- The token that a lexeme of some width is at the cursor. -/
def token (k : TextCursor) (width : Nat) (lexeme : Lexeme) : Token :=
  ⟨lexeme.kind, lexeme.value, ⟨k.place.row, k.place.column, k.place.offset, width⟩⟩

/-- Moves by what was read, and locates a failure where the reading stopped. -/
def settle (k : TextCursor) : Reading α → Result α × TextCursor
  | .took width answer => (.ok answer, k.move width)
  | .failed width cause => (.error ((k.move width).error cause).failure, k.move width)

/-- Turns the lexeme that was read into a token. -/
def readLexeme (k : TextCursor) : Reading Lexeme → Result Token × TextCursor
  | .took width lexeme => k.settle (.took width (k.token width lexeme))
  | .failed width cause => k.settle (.failed width cause)

/-- The cursor after the blanks that come next. -/
def skipBlanks (k : TextCursor) : TextCursor :=
  k.move (k.rest.takeWhile Text.isBlank).length

/-- Reads the next token; there is none if only blanks are left. -/
def next (k : TextCursor) : Result (Option Token) × TextCursor :=
  let k := k.skipBlanks
  if k.rest.isEmpty then (.ok none, k)
  else
    let (token, after) := k.readLexeme (Lexeme.read k.rest)
    (token.map some, after)

/-- Reads the longest symbol, if there is one. -/
def symbol (k : TextCursor) : Result (Option Token) × TextCursor :=
  match Lexeme.symbol k.rest with
  | .took width lexeme => k.settle (.took width (lexeme.map (k.token width)))
  | .failed width cause => k.settle (.failed width cause)

/-- Moves along a text that has been cut, and gives its lexemes their places. A failure leaves no
tokens. -/
def follow (k : TextCursor) : Lexing → Result (List Token) × TextCursor
  | .finished gap => (.ok [], k.move gap)
  | .stuck gap width cause => (k.move gap).settle (.failed width cause)
  | .lexeme gap width lexeme tail =>
    let start := k.move gap
    let (tokens, last) := (start.move width).follow tail
    (tokens.map (start.token width lexeme :: ·), last)

/-- Reads all tokens up to the end of the source. -/
def tokens (k : TextCursor) : Result (List Token) × TextCursor :=
  k.follow (lex k.rest)

end TextCursor

/-! ## Actions -/

/-- An action on a text cursor. -/
inductive TextAction where
  | base (action : Action Char)
  /-- Asks for the source. -/
  | source
  /-- Fails in the caller's words. -/
  | fail (kind : Option ErrorKind) (message : String)
  /-- Reads a lexeme of any kind. -/
  | next
  | literal
  | word
  | symbol
  | number
  /-- Reads all lexemes that are left. -/
  | tokens

/-- The answer to an action on a text cursor. -/
inductive TextAnswer where
  | base (answer : Answer Char)
  | source (text : String)
  | token (token : Option Token)
  | tokens (tokens : List Token)

namespace TextCursor

/-- Carries out an action. The cursor keeps what it had reached if the action fails. -/
def perform (k : TextCursor) : TextAction → Result TextAnswer × TextCursor
  | .base action => k.settle ((action.read k.source.toList k.rest k.place.offset).map .base)
  | .source => (.ok (.source k.source), k)
  | .fail kind message => k.settle (.failed 0 (.reported kind message))
  | .next => k.next.map (·.map .token) id
  | .literal => (k.readLexeme (Lexeme.literal k.rest)).map (·.map (.token ∘ some)) id
  | .word => (k.readLexeme (Lexeme.word k.rest)).map (·.map (.token ∘ some)) id
  | .symbol => k.symbol.map (·.map .token) id
  | .number => (k.readLexeme (Lexeme.number k.rest)).map (·.map (.token ∘ some)) id
  | .tokens => k.tokens.map (·.map .tokens) id

/-- Carries out actions one after the other, also after failures, and gives each answer with the
place reached. -/
def performAll (k : TextCursor) : List TextAction → List (Result TextAnswer × Place)
  | [] => []
  | action :: others =>
    let (answer, k) := k.perform action
    (answer, k.place) :: k.performAll others

end TextCursor

/-- The tokens of a source whose lines start at a given column, or the first error. -/
def tokenize (source : String) (margin : Int := 0) :
    Except (Failure LexError Breakdown) (List Token) :=
  (TextCursor.start source margin).tokens.1

end ScriptFront
