import ScriptFront.FileTree.Disk
import ScriptFront.Manifest.Basic
import ScriptFront.Toml.Document

/-!
# Loading a manifest

The manifest of a project is read from a TOML file in its root or from another one that is named. A
path that leads to no file counts as an empty configuration.
-/

namespace ScriptFront

/-- What a program finds around it: files, and a reader of TOML. -/
structure Host (m : Type → Type) where
  files : FileAccess m
  toml : Toml.Reader

/-- Why a manifest cannot be had. -/
abbrev LoadFailure : Type :=
  Failure ConfigError Breakdown

namespace Manifest

/-- The fields of a configuration file with a given path. -/
def decode (toml : Toml.Reader) (contents : ByteArray) (path : Path) : Except LoadFailure Fields :=
  match String.fromUTF8? contents with
  | none => .error (.abort .undecodable)
  | some text =>
    match toml.read text with
    | .ok fields => .ok fields
    | .error .integerTooLong => .error (.abort .integerTooLong)
    | .error .tooDeep => .error (.abort .tooDeep)
    | .error fault =>
      .error (.reported
        { text := "invalid TOML: " ++ toml.wording fault text, path := some path.text })

/-- The manifest in a configuration file, if there is one, with a given path. -/
def ofContents (toml : Toml.Reader) (contents : Option ByteArray) (path : Path) :
    Except LoadFailure Manifest := do
  let fields ← match contents with
    | none => .ok []
    | some contents => decode toml contents path
  (ofFields fields (some path.text)).mapError .reported

/-- The path of the configuration of a project. -/
def pathIn (root : Path) (config : Option Path) : Path :=
  config.getD (root.join (.ofString filename))

/-- Loads the manifest of a project. Only a path that leads to no file is passed over: a file that
cannot be read breaks the loading off. -/
def load {m : Type → Type} [Monad m] (host : Host m) (root : Path) (config : Option Path) :
    m (Except LoadFailure Manifest) := do
  let path := pathIn root config
  match ← host.files.isFile path with
  | .error e => return .error (.abort (.refused e))
  | .ok false => return ofContents host.toml none path
  | .ok true =>
    match ← host.files.read path with
    | .ok contents => return ofContents host.toml (some contents) path
    | .error failure => return .error (.abort failure.breakdown)

end Manifest

end ScriptFront
