import ScriptFront.Failure
import ScriptFront.FileTree.Path

/-!
# Files

What a program can ask of files, and a tree of files kept in memory that answers the same
questions.
-/

namespace ScriptFront

/-- Access to files from a monad. -/
structure FileAccess (m : Type → Type) where
  /-- Whether a path leads to a file, unless the system refuses to look. -/
  isFile : Path → m (Except SystemError Bool)
  read : Path → m (Except ReadFailure ByteArray)

/-- An entry of a tree of files. -/
inductive Entry where
  | file (contents : ByteArray)
  | directory

/-- A tree of files. A place in it is given by the names that lead there from the top. The
directories on the way to an entry and to the working directory exist, too. -/
structure Disk where
  /-- The entries with their places. A later entry replaces an earlier one. -/
  entries : List (List String × Entry)
  /-- The place that relative paths lead from. -/
  workingDirectory : List String := []

namespace Disk

/-- The entry at a place, if there is one. -/
def entryAt? (disk : Disk) (place : List String) : Option Entry :=
  match disk.entries.reverse.find? (·.1 == place) with
  | some (_, entry) => some entry
  | none =>
    if place.isPrefixOf disk.workingDirectory || disk.entries.any (place.isPrefixOf ·.1) then
      some .directory
    else none

/-- One step along a path. Two points lead to the directory above, and from the top nowhere else. -/
def step (place : List String) (name : String) : List String :=
  if name = ".." then place.dropLast else place ++ [name]

/-- Whether a directory can hold a name: it has at most 255 bytes. -/
def fits (name : String) : Bool :=
  name.utf8ByteSize ≤ 255

/-- Follows names from a place; every place on the way has to be a directory. -/
def walk (disk : Disk) (place : List String) : List String → Except SystemError Entry
  | [] =>
    match disk.entryAt? place with
    | some entry => .ok entry
    | none => .error .notFound
  | name :: names =>
    match disk.entryAt? place with
    | some .directory =>
      if fits name then walk disk (step place name) names else .error .nameTooLong
    | some (.file _) => .error .notDirectory
    | none => .error .notFound

/-- The place that a path leads from: an absolute one leads from the top. -/
def origin (disk : Disk) (path : Path) : List String :=
  if path.anchor = 0 then disk.workingDirectory else []

/-- The entry that a path of less than 4096 bytes leads to; a longer one is not followed. -/
def find (disk : Disk) (path : Path) : Except SystemError Entry :=
  if path.text.utf8ByteSize < 4096 then disk.walk (disk.origin path) path.names
  else .error .nameTooLong

/-- Whether a path holds the null character. -/
def hasNull (path : Path) : Bool :=
  path.names.any (·.toList.contains '\x00')

/-- Whether a path leads to a file. -/
def isFile (disk : Disk) (path : Path) : Except SystemError Bool :=
  if hasNull path then .ok false
  else
    match disk.find path with
    | .ok (.file _) => .ok true
    | .ok .directory => .ok false
    | .error e => if e.isAbsence then .ok false else .error e

/-- The contents of the file that a path leads to. -/
def read (disk : Disk) (path : Path) : Except ReadFailure ByteArray :=
  if hasNull path then .error .nullInPath
  else
    match disk.find path with
    | .ok (.file contents) => .ok contents
    | .ok .directory => .error (.system .isDirectory)
    | .error e => .error (.system e)

/-- Access to the files of a tree in memory. -/
def access (disk : Disk) : FileAccess Id where
  isFile := disk.isFile
  read := disk.read

end Disk

end ScriptFront
