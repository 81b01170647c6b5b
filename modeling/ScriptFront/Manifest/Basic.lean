import ScriptFront.Diagnostic.Basic
import ScriptFront.Manifest.Datum

/-!
# The project manifest

A manifest says what a project is called, what it depends on, where its script starts and at which
column its lines start. It is checked from the configuration data of the project; the first
violation is reported, in the order package, dependencies, build.
-/

namespace ScriptFront

/-- The name and the version of a package. -/
structure Package where
  name : String
  version : String
  deriving DecidableEq, Repr

/-- A checked manifest. -/
structure Manifest where
  package : Option Package
  /-- Names and versions, in order. -/
  dependencies : List (String × String)
  entrypoint : String
  margin : Nat
  deriving DecidableEq, Repr

/-- A violation of the rules for a manifest. -/
inductive ManifestFault where
  | packageNotTable
  | packageWithoutName
  | packageWithoutVersion
  | dependenciesNotTable
  | dependencyWithoutVersion (name : String)
  | dependencyVersionNotText (name : String)
  | buildNotTable
  | entrypointNotText
  | marginNotNatural
  deriving DecidableEq, Repr

/-- The wording of a violation. -/
def ManifestFault.message : ManifestFault → String
  | packageNotTable => "[package] must be a table"
  | packageWithoutName => "[package] requires a string 'name'"
  | packageWithoutVersion => "[package] requires a string 'version'"
  | dependenciesNotTable => "[dependencies] must be a table"
  | dependencyWithoutVersion name => "dependency '" ++ name ++ "': expected version"
  | dependencyVersionNotText name => "dependency '" ++ name ++ "': version is not a string"
  | buildNotTable => "[build] must be a table"
  | entrypointNotText => "[build] 'entrypoint' must be a string"
  | marginNotNatural => "[build] 'left-margin' must be a non-negative integer"

namespace Manifest

/-- The entrypoint of a project that does not name one. -/
def defaultEntrypoint : String :=
  "src/main.ss"

/-- The file that holds the configuration of a project, in its root. -/
def filename : String :=
  "stonescript.toml"

/-- Checks the package section, which may be absent or null. -/
def checkPackage : Option Datum → Except ManifestFault (Option Package)
  | none => .ok none
  | some .null => .ok none
  | some (.table fields) =>
    match fields.lookup "name", fields.lookup "version" with
    | some (.text name), some (.text version) => .ok (some ⟨name, version⟩)
    | some (.text _), _ => .error .packageWithoutVersion
    | _, _ => .error .packageWithoutName
  | some _ => .error .packageNotTable

/-- Checks a dependency, which is a version or a table with one. -/
def checkDependency (name : String) : Datum → Except ManifestFault String
  | .text version => .ok version
  | .table fields =>
    match fields.lookup "version" with
    | none => .error (.dependencyWithoutVersion name)
    | some .null => .error (.dependencyWithoutVersion name)
    | some (.text version) => .ok version
    | some _ => .error (.dependencyVersionNotText name)
  | _ => .error (.dependencyVersionNotText name)

/-- Checks dependencies in order. -/
def checkEach : Fields → Except ManifestFault (List (String × String))
  | [] => .ok []
  | (name, datum) :: others =>
    match checkDependency name datum with
    | .error fault => .error fault
    | .ok version => (checkEach others).map ((name, version) :: ·)

/-- Checks the dependencies section, which may be absent. -/
def checkDependencies : Option Datum → Except ManifestFault (List (String × String))
  | none => .ok []
  | some (.table fields) => checkEach fields
  | some _ => .error .dependenciesNotTable

/-- Checks the entrypoint, which may be absent. -/
def checkEntrypoint : Option Datum → Except ManifestFault String
  | none => .ok defaultEntrypoint
  | some (.text path) => .ok path
  | some _ => .error .entrypointNotText

/-- Checks the left margin, which may be absent. -/
def checkMargin : Option Datum → Except ManifestFault Nat
  | none => .ok 0
  | some (.int n) => if 0 ≤ n then .ok n.toNat else .error .marginNotNatural
  | some _ => .error .marginNotNatural

/-- Checks the build section, which may be absent. -/
def checkBuild : Option Datum → Except ManifestFault (String × Nat)
  | none => .ok (defaultEntrypoint, 0)
  | some (.table fields) => do
    let entrypoint ← checkEntrypoint (fields.lookup "entrypoint")
    let margin ← checkMargin (fields.lookup "left-margin")
    return (entrypoint, margin)
  | some _ => .error .buildNotTable

/-- Checks the configuration data of a project. -/
def check (fields : Fields) : Except ManifestFault Manifest := do
  let package ← checkPackage (fields.lookup "package")
  let dependencies ← checkDependencies (fields.lookup "dependencies")
  let (entrypoint, margin) ← checkBuild (fields.lookup "build")
  return { package, dependencies, entrypoint, margin }

/-- The manifest in the configuration data of a project, which came from a given path. -/
def ofFields (fields : Fields) (path : Option String) : Except ConfigError Manifest :=
  (check fields).mapError fun fault => { text := fault.message, path := path }

end Manifest

end ScriptFront
