/-!
# Symbols

The punctuation and operators of a script, each with its name and its spelling of one or two
characters.
-/

namespace ScriptFront

/-- A punctuation mark or an operator. -/
inductive Symbol where
  | add | subtract | multiply | divide | modulo
  | lessThan | greaterThan | assignment | not
  | openScope | closeScope | openGroup | closeGroup | openIndex | closeIndex
  | property | ternary | ternarySplit
  | equals | lessThanEquals | greaterThanEquals | notEquals
  | and | or | nullishCoalescing
  | terminator | separator | lambda
  deriving DecidableEq, Repr

namespace Symbol

/-- All symbols in the order in which they are listed. -/
def all : List Symbol :=
  [add, subtract, multiply, divide, modulo, lessThan, greaterThan, assignment, not,
   openScope, closeScope, openGroup, closeGroup, openIndex, closeIndex,
   property, ternary, ternarySplit, equals, lessThanEquals, greaterThanEquals, notEquals,
   and, or, nullishCoalescing, terminator, separator, lambda]

/-- The characters of a symbol. -/
def spelling : Symbol → List Char
  | add => ['+']
  | subtract => ['-']
  | multiply => ['*']
  | divide => ['/']
  | modulo => ['%']
  | lessThan => ['<']
  | greaterThan => ['>']
  | assignment => ['=']
  | not => ['!']
  | openScope => ['\x7b']
  | closeScope => ['\x7d']
  | openGroup => ['(']
  | closeGroup => [')']
  | openIndex => ['[']
  | closeIndex => [']']
  | property => ['.']
  | ternary => ['?']
  | ternarySplit => [':']
  | equals => ['=', '=']
  | lessThanEquals => ['<', '=']
  | greaterThanEquals => ['>', '=']
  | notEquals => ['!', '=']
  | and => ['&', '&']
  | or => ['|', '|']
  | nullishCoalescing => ['?', '?']
  | terminator => [';']
  | separator => [',']
  | lambda => ['-', '>']

/-- The name under which a symbol is reported. -/
def name : Symbol → String
  | add => "add"
  | subtract => "subtract"
  | multiply => "multiply"
  | divide => "divide"
  | modulo => "modulo"
  | lessThan => "less_than"
  | greaterThan => "greater_than"
  | assignment => "assignment"
  | not => "not"
  | openScope => "open_scope"
  | closeScope => "close_scope"
  | openGroup => "open_group"
  | closeGroup => "close_group"
  | openIndex => "open_index"
  | closeIndex => "close_index"
  | property => "property"
  | ternary => "ternary"
  | ternarySplit => "ternary_split"
  | equals => "equals"
  | lessThanEquals => "less_than_equals"
  | greaterThanEquals => "greater_than_equals"
  | notEquals => "not_equals"
  | and => "and"
  | or => "or"
  | nullishCoalescing => "nullish_coalescing"
  | terminator => "end"
  | separator => "separator"
  | lambda => "lambda"

/-- The symbol with a given spelling. -/
def ofSpelling? (text : List Char) : Option Symbol :=
  all.find? (·.spelling == text)

/-- The length of the longest spelling. -/
def maxLength : Nat :=
  (all.map (·.spelling.length)).foldl max 0

/-- The longest symbol at the start of a text among those of at most a given length. -/
def longestWithin? (text : List Char) : Nat → Option Symbol
  | 0 => none
  | length + 1 => ofSpelling? (text.take (length + 1)) <|> longestWithin? text length

/-- The longest symbol at the start of a text. -/
def longest? (text : List Char) : Option Symbol :=
  longestWithin? text maxLength

/-- Whether a character alone spells a symbol. -/
def isSymbolChar (c : Char) : Bool :=
  (ofSpelling? [c]).isSome

theorem mem_all (s : Symbol) : s ∈ all := by
  cases s <;> decide

theorem spelling_length_pos (s : Symbol) : 0 < s.spelling.length := by
  cases s <;> decide

theorem spelling_of_ofSpelling? {text : List Char} {s : Symbol}
    (h : ofSpelling? text = some s) : s.spelling = text := by
  have := List.find?_some h
  simpa using this

/-- Different symbols are spelled differently. -/
theorem ofSpelling?_spelling (s : Symbol) : ofSpelling? s.spelling = some s := by
  cases s <;> decide

end Symbol

end ScriptFront
