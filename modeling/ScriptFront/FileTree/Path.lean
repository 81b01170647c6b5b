/-!
# Paths

A path in normal form: repeated slashes and single points are gone, double points stay.
-/

namespace ScriptFront

/-- The anchor of a path and the names along it. The anchor is the number of slashes in front: none
for a relative path, one or exactly two for an absolute one. -/
structure Path where
  anchor : Nat
  names : List String
  deriving DecidableEq, Repr

namespace Path

/-- The pieces of a text between its slashes; there is one more of them than of these. -/
def pieces : List Char → List (List Char)
  | [] => [[]]
  | c :: rest =>
    if c = '/' then [] :: pieces rest
    else match pieces rest with
      | [] => [[c]]
      | piece :: others => (c :: piece) :: others

/-- Whether a piece of a path leads anywhere. -/
def isName (piece : List Char) : Bool :=
  piece != [] && piece != ['.']

/-- The normal form of a path. Three or more slashes in front are one. -/
def ofString (text : String) : Path :=
  let slashes := (text.toList.takeWhile (· == '/')).length
  { anchor := if slashes ≤ 2 then slashes else 1
    names := ((pieces text.toList).filter isName).map String.ofList }

/-- The text of a path; the empty path is a point. -/
def text (p : Path) : String :=
  if p.anchor = 0 ∧ p.names = [] then "."
  else
    String.ofList (List.replicate p.anchor '/' ++
      List.intercalate ['/'] (p.names.map String.toList))

/-- The path that one path leads to from another. An absolute one leads to itself. -/
def join (base path : Path) : Path :=
  if path.anchor = 0 then { base with names := base.names ++ path.names } else path

end Path

end ScriptFront
