import ScriptFront.Text.Character
import ScriptFront.Token.Symbol

/-!
# Kinds of tokens

What a token is: one of the symbols, a word, a literal, or a number of one of eight types. The
suffix letters of the number types and the escapes of a literal are tables here.
-/

namespace ScriptFront

/-- The coarse category of a kind. -/
inductive Category where
  | token | word | number | string
  deriving DecidableEq, Repr

/-- The name under which a category is reported. -/
def Category.name : Category → String
  | token => "token"
  | word => "word"
  | number => "number"
  | string => "string"

/-- The size of an integer type. -/
inductive IntegerSize where
  | int | short | long
  deriving DecidableEq, Repr

/-- The type of a number. -/
inductive NumberKind where
  | signed (size : IntegerSize)
  | float
  | double
  | unsigned (size : IntegerSize)
  deriving DecidableEq, Repr

/-- The kind of a token. -/
inductive Kind where
  | symbol (s : Symbol)
  | word
  | literal
  | number (n : NumberKind)
  deriving DecidableEq, Repr

namespace IntegerSize

/-- The name of an integer type. -/
def name : IntegerSize → String
  | int => "int"
  | short => "short"
  | long => "long"

/-- The letters that stand for integer types. -/
def suffixes : List (Char × IntegerSize) :=
  [('i', int), ('l', long), ('s', short)]

/-- The integer type of a suffix letter. -/
def ofSuffix? (c : Char) : Option IntegerSize :=
  suffixes.lookup c

end IntegerSize

namespace NumberKind

/-- The name of a number type without its sign. -/
def typeName : NumberKind → String
  | signed size => size.name
  | float => "float"
  | double => "double"
  | unsigned size => size.name

/-- Whether a type admits negative numbers. -/
def isSigned : NumberKind → Bool
  | unsigned _ => false
  | _ => true

/-- The name under which a number type is reported. -/
def name (n : NumberKind) : String :=
  (if n.isSigned then "signed_" else "unsigned_") ++ n.typeName

/-- The letters that stand for the two floating types. -/
def floatSuffixes : List (Char × NumberKind) :=
  [('d', double), ('f', float)]

/-- The type of a suffix letter, in either case, of a number without the mark of unsigned ones. -/
def ofSuffix? (c : Char) : Option NumberKind :=
  (floatSuffixes.lookup c.toLower).or ((IntegerSize.ofSuffix? c.toLower).map signed)

/-- Whether the values of a type have a fraction. -/
def isFloating : NumberKind → Bool
  | float => true
  | double => true
  | signed _ => false
  | unsigned _ => false

end NumberKind

namespace Kind

/-- All kinds in the order in which they are listed. -/
def all : List Kind :=
  Symbol.all.map symbol ++ [word, literal] ++
    [.number (.signed .int), .number (.signed .short), .number (.signed .long), .number .float,
     .number .double, .number (.unsigned .int), .number (.unsigned .short),
     .number (.unsigned .long)]

/-- The category a kind belongs to. -/
def category : Kind → Category
  | symbol _ => .token
  | word => .word
  | literal => .string
  | number _ => .number

/-- The name under which a kind is reported. -/
def name : Kind → String
  | symbol s => s.name
  | word => "generic"
  | literal => "literal"
  | number n => n.name

/-- The name of a kind in capitals, under which it is looked up. -/
def label (k : Kind) : String :=
  Text.capitals k.name

/-- The kind with a given name. -/
def ofName? (name : String) : Option Kind :=
  all.find? (·.name == name)

/-- The number kind with a given sign and a type name in any case. -/
def ofNumberType? (signed : Bool) (type : String) : Option Kind :=
  let label := (if signed then "SIGNED_" else "UNSIGNED_") ++ Text.capitals type
  all.find? (·.label == label)

theorem mem_all (k : Kind) : k ∈ all := by
  cases k with
  | symbol s => exact List.mem_append_left _ (List.mem_append_left _
      (List.mem_map_of_mem (Symbol.mem_all s)))
  | word => decide
  | literal => decide
  | number n => rcases n with s | _ | _ | s <;> (try cases s) <;> decide

end Kind

/-- The letters that stand for another character after a backslash in a literal. -/
def escapes : List (Char × Char) :=
  [('n', '\n'), ('t', '\t')]

end ScriptFront
