import ScriptFront.Manifest.Load

/-!
# Where a manifest comes from

`Manifest.Loads` says what becomes of a manifest, for each answer that the system can give about the
path of a configuration and for each of the things that a file can hold. This covers every host and
every path (`Manifest.exists_loads`), and it is what loading does (`Manifest.Loads.load_eq`).
-/

namespace ScriptFront

/-- Whether a path leads to a file with given contents. -/
def FileAccess.Has (files : FileAccess Id) (path : Path) (contents : ByteArray) : Prop :=
  files.isFile path = .ok true ∧ files.read path = .ok contents

/-- What reading breaks off for, if a fault is a limit that the text goes beyond and not a mistake
in it. -/
def Toml.Fault.limit? : Toml.Fault → Option Breakdown
  | integerTooLong => some .integerTooLong
  | tooDeep => some .tooDeep
  | _ => none

namespace Manifest

/-- What becomes of the manifest of a project whose configuration is at a given path. -/
inductive Loads (host : Host Id) (path : Path) : Except LoadFailure Manifest → Prop where
  /-- There is no file, and all is as by default. -/
  | absent (hfile : host.files.isFile path = .ok false) :
      Loads host path (.ok ⟨none, [], "src/main.ss", 0⟩)
  | valid {contents : ByteArray} {text : String} {fields : Fields} {manifest : Manifest}
      (hfile : host.files.Has path contents) (htext : String.fromUTF8? contents = some text)
      (hread : host.toml.read text = .ok fields)
      (hvalid : ofFields fields (some path.text) = .ok manifest) : Loads host path (.ok manifest)
  /-- The file is well-formed, and its data breaks a rule. -/
  | invalid {contents : ByteArray} {text : String} {fields : Fields} {e : ConfigError}
      (hfile : host.files.Has path contents) (htext : String.fromUTF8? contents = some text)
      (hread : host.toml.read text = .ok fields)
      (hinvalid : ofFields fields (some path.text) = .error e) :
      Loads host path (.error (.reported e))
  /-- The file is not well-formed, and is refused in the words of the reader. -/
  | malformed {contents : ByteArray} {text : String} {fault : Toml.Fault}
      (hfile : host.files.Has path contents) (htext : String.fromUTF8? contents = some text)
      (hread : host.toml.read text = .error fault) (hlimit : fault.limit? = none) :
      Loads host path (.error (.reported
        { text := "invalid TOML: " ++ host.toml.wording fault text, path := some path.text }))
  /-- The file goes beyond a limit. -/
  | beyond {contents : ByteArray} {text : String} {fault : Toml.Fault} {b : Breakdown}
      (hfile : host.files.Has path contents) (htext : String.fromUTF8? contents = some text)
      (hread : host.toml.read text = .error fault) (hlimit : fault.limit? = some b) :
      Loads host path (.error (.abort b))
  | undecodable {contents : ByteArray} (hfile : host.files.Has path contents)
      (htext : String.fromUTF8? contents = none) : Loads host path (.error (.abort .undecodable))
  /-- The system does not look for the file. -/
  | shunned {e : SystemError} (hfile : host.files.isFile path = .error e) :
      Loads host path (.error (.abort (.refused e)))
  /-- There is a file, and the system does not open it. -/
  | unopened {failure : ReadFailure} (hfile : host.files.isFile path = .ok true)
      (hread : host.files.read path = .error failure) :
      Loads host path (.error (.abort failure.breakdown))

section

variable {host : Host Id} {path root : Path} {config : Option Path}

/-- The file at the path is decoded and checked, if there is one. -/
theorem load_of_has {contents : ByteArray} (h : host.files.Has (pathIn root config) contents) :
    load host root config = ofContents host.toml (some contents) (pathIn root config) := by
  unfold load
  simp only [h.1, h.2]
  rfl

theorem decode_of_ok {toml : Toml.Reader} {contents : ByteArray} {text : String} {fields : Fields}
    (htext : String.fromUTF8? contents = some text) (hread : toml.read text = .ok fields)
    (path : Path) : decode toml contents path = .ok fields := by
  rw [decode, htext]
  dsimp only
  rw [hread]

/-- A file that cannot be read is reported, unless it goes beyond a limit. -/
theorem decode_of_error {toml : Toml.Reader} {contents : ByteArray} {text : String}
    {fault : Toml.Fault} (htext : String.fromUTF8? contents = some text)
    (hread : toml.read text = .error fault) (path : Path) :
    decode toml contents path = .error (fault.limit?.elim (.reported
      { text := "invalid TOML: " ++ toml.wording fault text, path := some path.text }) .abort) := by
  rw [decode, htext]
  dsimp only
  rw [hread]
  cases fault <;> rfl

/-- Loading does what the relation says. -/
theorem Loads.load_eq {result : Except LoadFailure Manifest}
    (h : Loads host (pathIn root config) result) : load host root config = result := by
  cases h with
  | absent hfile =>
    unfold load
    simp only [hfile]
    rfl
  | valid hfile htext hread hvalid =>
    rw [load_of_has hfile, ofContents, decode_of_ok htext hread]
    show (ofFields _ _).mapError _ = _
    rw [hvalid]
    rfl
  | invalid hfile htext hread hinvalid =>
    rw [load_of_has hfile, ofContents, decode_of_ok htext hread]
    show (ofFields _ _).mapError _ = _
    rw [hinvalid]
    rfl
  | malformed hfile htext hread hlimit =>
    rw [load_of_has hfile, ofContents, decode_of_error htext hread, hlimit]
    rfl
  | beyond hfile htext hread hlimit =>
    rw [load_of_has hfile, ofContents, decode_of_error htext hread, hlimit]
    rfl
  | undecodable hfile htext =>
    rw [load_of_has hfile, ofContents, decode, htext]
    rfl
  | shunned hfile =>
    unfold load
    simp only [hfile]
    rfl
  | unopened hfile hread =>
    unfold load
    simp only [hfile, hread]
    rfl

/-- Whatever the system says of a file, something becomes of the manifest. -/
theorem exists_loads (host : Host Id) (path : Path) : ∃ result, Loads host path result := by
  cases hfile : host.files.isFile path with
  | error e => exact ⟨_, .shunned hfile⟩
  | ok found =>
    cases found with
    | false => exact ⟨_, .absent hfile⟩
    | true =>
      cases hcontents : host.files.read path with
      | error failure => exact ⟨_, .unopened hfile hcontents⟩
      | ok contents =>
        have hfile : host.files.Has path contents := ⟨hfile, hcontents⟩
        cases htext : String.fromUTF8? contents with
        | none => exact ⟨_, .undecodable hfile htext⟩
        | some text =>
          cases hread : host.toml.read text with
          | error fault =>
            cases hlimit : fault.limit? with
            | none => exact ⟨_, .malformed hfile htext hread hlimit⟩
            | some b => exact ⟨_, .beyond hfile htext hread hlimit⟩
          | ok fields =>
            cases hfields : ofFields fields (some path.text) with
            | ok manifest => exact ⟨_, .valid hfile htext hread hfields⟩
            | error e => exact ⟨_, .invalid hfile htext hread hfields⟩

end

end Manifest

end ScriptFront
