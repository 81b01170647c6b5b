import ScriptFront.Text.Quoted
import ScriptFront.Binary64.Layout

/-!
# JSON text

Indented JSON in ASCII. Values are written from the inside out: each writer takes its parts as
text already indented for the next level.
-/

namespace ScriptFront.Json

/-- The escape of a 16-bit unit. -/
def unitEscape (n : Nat) : List Char :=
  '\\' :: 'u' :: Text.hex 4 n

/-- The characters that have a short escape, each with what stands for it after a backslash. -/
def shortEscapes : List (Char × Char) :=
  [('\x22', '\x22'), ('\\', '\\'), ('\n', 'n'), ('\r', 'r'), ('\t', 't'), ('\x08', 'b'),
   ('\x0c', 'f')]

/-- The first of the two units of a character that does not fit into one. -/
def highUnit (c : Char) : Nat :=
  0xD800 + (c.toNat - 0x10000) / 0x400

/-- The second one. -/
def lowUnit (c : Char) : Nat :=
  0xDC00 + (c.toNat - 0x10000) % 0x400

/-- One character inside a JSON string. A control character that has no short escape, and any
character outside ASCII, is written by its one or two 16-bit units. -/
def stringChar (c : Char) : List Char :=
  match shortEscapes.lookup c with
  | some letter => ['\\', letter]
  | none =>
    if 0x20 ≤ c.toNat ∧ c.toNat < 0x7F then [c]
    else if c.toNat < 0x10000 then unitEscape c.toNat
    else unitEscape (highUnit c) ++ unitEscape (lowUnit c)

/-- A JSON string. -/
def string (text : List Char) : List Char :=
  '\x22' :: text.flatMap stringChar ++ ['\x22']

/-- How JSON writes a number that is not an integer. -/
def layout : Binary64.Layout :=
  { least := -4, limit := 16, exponentWidth := 2, infinity := "Infinity", nan := "NaN" }

/-- A line end and the indentation of a level, two spaces each. -/
def newline (level : Nat) : List Char :=
  '\n' :: List.replicate (2 * level) ' '

/-- Items between brackets, each on a line of its own. -/
def bracketed (opener closer : Char) (level : Nat) (items : List (List Char)) : List Char :=
  if items.isEmpty then [opener, closer]
  else
    opener :: newline (level + 1) ++ List.intercalate (',' :: newline (level + 1)) items ++
      newline level ++ [closer]

/-- A JSON array at a level. -/
def array (level : Nat) (items : List (List Char)) : List Char :=
  bracketed '[' ']' level items

/-- A JSON object at a level. -/
def object (level : Nat) (fields : List (String × List Char)) : List Char :=
  bracketed '\x7b' '\x7d' level
    (fields.map fun field => string field.1.toList ++ ':' :: ' ' :: field.2)

end ScriptFront.Json
