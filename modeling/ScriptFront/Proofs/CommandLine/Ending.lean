import ScriptFront.Proofs.CommandLine.Report

/-!
# How runs end

A command line that is carried out ends with the exit code 0, 1 or 2, unless something is in its way
(`Obstacle`) or the numbers that it has to write are enormous (`Oversized`). With an obstacle in its
way it breaks off, and nothing has been written (`Obstacle.run_eq`).
-/

namespace ScriptFront.CommandLine

/-- What breaks a run off before its script is analysed. -/
inductive Obstacle (host : Host Id) (arguments : Arguments) : Breakdown → Prop where
  /-- The value of the root is lost. -/
  | rootless (hroot : ∀ text, arguments.root ≠ .given text) :
      Obstacle host arguments .missingValue
  /-- The manifest can neither be loaded nor refused. -/
  | manifest {root : Path} {b : Breakdown}
      (hstarts : Starts host arguments root (.error (.abort b))) : Obstacle host arguments b
  /-- The value of the margin is lost. -/
  | marginless {root : Path} {manifest : Manifest}
      (hstarts : Starts host arguments root (.ok manifest))
      (hmargin : arguments.margin = .blank) : Obstacle host arguments .missingValue
  | nullInPath {root entrypoint : Path} {margin : Int}
      (hreaches : Reaches host arguments root entrypoint margin)
      (hread : host.files.read (root.join entrypoint) = .error .nullInPath) :
      Obstacle host arguments .nullInPath
  | undecodable {root entrypoint : Path} {margin : Int} {contents : ByteArray}
      (hreaches : Reaches host arguments root entrypoint margin)
      (hread : host.files.read (root.join entrypoint) = .ok contents)
      (htext : String.fromUTF8? contents = none) : Obstacle host arguments .undecodable

/-- Whether a run turns to a script that is enormous, or to a script with an enormous margin. -/
def Oversized (host : Host Id) (arguments : Arguments) : Prop :=
  ∃ root entrypoint margin source, Reaches host arguments root entrypoint margin ∧
    IsScript host.files (root.join entrypoint) source ∧
    (Text.unwritable ≤ 1 + source.length + margin.natAbs ∨ Snippet.memoryLimit ≤ source.length)

/-- Whether a run ends with an exit code. -/
def Outcome.HasCode (o : Outcome) : Prop :=
  ∃ code, code ≤ 2 ∧ o.ending = .returned code

section

variable {host : Host Id} {argv : List String} {arguments : Arguments}

/-- A run breaks off at an obstacle before it has written anything. -/
theorem Obstacle.run_eq (hargs : readArguments argv = .ok arguments) {b : Breakdown}
    (h : Obstacle host arguments b) : run host argv = { ending := .broken b } := by
  cases h with
  | rootless hroot =>
    rw [run_of_options_error hargs (options_of_rootless hroot)]
    rfl
  | manifest hstarts =>
    rw [run_of_options_error hargs hstarts.options_of_error]
    rfl
  | marginless hstarts hmargin => exact run_of_marginless hargs hstarts hmargin
  | nullInPath hreaches hread =>
    rw [hreaches.run_eq hargs, hread]
    rfl
  | undecodable hreaches hread htext =>
    rw [hreaches.run_eq hargs, hread, scriptOutcome, Text.ofFile?, htext]
    rfl

/-- Pieces are written to the end, or one of them breaks the run off. -/
theorem ending_write (code : Nat) (pieces : List Piece) :
    (write code pieces).ending = .returned code ∨ ∃ b, (write code pieces).ending = .broken b := by
  induction pieces with
  | nil => exact .inl rfl
  | cons p pieces ih =>
    have hafter : ∀ o : Outcome, (o.after p).ending = o.ending := by
      intro o
      rw [Outcome.after]
      split <;> rfl
    rw [write]
    cases p.broken with
    | some b => exact .inr ⟨b, hafter _⟩
    | none =>
      dsimp only
      rw [hafter]
      exact ih

/-- An analysis is reported, or the report breaks off. -/
theorem ending_analysisOutcome (options : Options) (result : Except Breakdown Analysis) :
    (analysisOutcome options result).HasCode ∨
      ∃ b, (analysisOutcome options result).ending = .broken b := by
  cases result with
  | error b => exact .inr ⟨b, rfl⟩
  | ok a =>
    obtain hcode | hbroken := ending_write (if a.ok then 0 else 1) (pieces options a)
    · refine .inl ⟨_, ?_, hcode⟩
      split <;> omega
    · exact .inr hbroken

/-- What follows the reading of a script gives a code, or it breaks off. -/
theorem ending_scriptOutcome (options : Options) (result : Except ReadFailure ByteArray) :
    (scriptOutcome options result).HasCode ∨
      ∃ b, (scriptOutcome options result).ending = .broken b := by
  cases result with
  | ok contents =>
    rw [scriptOutcome]
    cases Text.ofFile? contents with
    | some source => exact ending_analysisOutcome options _
    | none => exact .inr ⟨_, rfl⟩
  | error failure =>
    cases failure with
    | nullInPath => exact .inr ⟨_, rfl⟩
    | system e => exact .inl ⟨2, Nat.le_refl 2, rfl⟩

/-- A command line that is carried out gives a code, or it breaks off. -/
theorem ending_run (hargs : readArguments argv = .ok arguments) (host : Host Id) :
    Outcome.HasCode (run host argv) ∨ ∃ b, (run host argv).ending = .broken b := by
  cases hoptions : arguments.options host with
  | ok options =>
    have hrun : run host argv = scriptOutcome options (host.files.read options.scriptPath) := by
      unfold run
      rw [hargs]
      simp only [hoptions]
      rfl
    rw [hrun]
    exact ending_scriptOutcome options _
  | error failure =>
    rw [run_of_options_error hargs hoptions]
    cases failure with
    | abort b => exact .inr ⟨b, rfl⟩
    | reported e => cases e <;> exact .inl ⟨2, Nat.le_refl 2, rfl⟩

/-! ## Free runs -/

/-- A run that turns to a script ends with a code, unless something is in its way or enormous. -/
theorem Reaches.hasCode (hargs : readArguments argv = .ok arguments) {root entrypoint : Path}
    {margin : Int} (h : Reaches host arguments root entrypoint margin)
    (hfree : ∀ b, ¬ Obstacle host arguments b) (hsize : ¬ Oversized host arguments) :
    Outcome.HasCode (run host argv) := by
  cases hread : host.files.read (root.join entrypoint) with
  | error failure =>
    -- the system says why, unless it is not even asked
    cases failure with
    | nullInPath => exact absurd (.nullInPath h hread) (hfree .nullInPath)
    | system e =>
      rw [h.run_eq hargs, hread]
      exact ⟨2, Nat.le_refl 2, rfl⟩
  | ok contents =>
    cases htext : String.fromUTF8? contents with
    | none => exact absurd (.undecodable h hread htext) (hfree .undecodable)
    | some text =>
      obtain ⟨source, hscript⟩ := exists_isScript hread htext
      have hfits : ¬ (Text.unwritable ≤ 1 + source.length + margin.natAbs ∨
          Snippet.memoryLimit ≤ source.length) :=
        fun hbig => hsize ⟨root, entrypoint, margin, source, h, hscript, hbig⟩
      rw [not_or, Nat.not_le, Nat.not_le] at hfits
      obtain ⟨a, -, hreports⟩ := h.exists_reports hargs hscript hfits.1
      refine ⟨_, ?_, (hreports (.inr hfits.2)).ending⟩
      split <;> omega

/-- A run ends with a code, unless something is in its way or enormous. -/
theorem hasCode_of_free (hargs : readArguments argv = .ok arguments)
    (hfree : ∀ b, ¬ Obstacle host arguments b) (hsize : ¬ Oversized host arguments) :
    Outcome.HasCode (run host argv) := by
  obtain hroot | ⟨root, result, hstarts⟩ := exists_starts host arguments
  · exact absurd (.rootless hroot) (hfree .missingValue)
  cases result with
  | error failure =>
    cases failure with
    | abort b => exact absurd (.manifest hstarts) (hfree b)
    | reported e =>
      rw [hstarts.run_of_reported hargs]
      exact ⟨2, Nat.le_refl 2, rfl⟩
  | ok manifest =>
    obtain ⟨entrypoint, margin, hreaches⟩ | ⟨margin, hmargin, hneg⟩ | hmargin :=
      exists_reaches_or hstarts
    · exact hreaches.hasCode hargs hfree hsize
    · rw [run_of_negative hargs hstarts hmargin hneg]
      exact ⟨2, Nat.le_refl 2, rfl⟩
    · exact absurd (.marginless hstarts hmargin) (hfree .missingValue)

end

/-- A command line that is carried out ends with one of three codes, unless something is in its way
or enormous. With something in its way, it breaks off before it has written anything. -/
theorem run_ends {argv : List String} {arguments : Arguments}
    (hargs : readArguments argv = .ok arguments) (host : Host Id) :
    ((∃ code, code ≤ 2 ∧ (run host argv).ending = .returned code) ∨
      ∃ b, (run host argv).ending = .broken b ∧
        (Obstacle host arguments b ∨ Oversized host arguments)) ∧
    ∀ b, Obstacle host arguments b → run host argv = { ending := .broken b } := by
  refine ⟨?_, fun b hb => hb.run_eq hargs⟩
  by_cases hobstacle : ∃ b, Obstacle host arguments b
  · obtain ⟨b, hb⟩ := hobstacle
    refine .inr ⟨b, ?_, .inl hb⟩
    rw [hb.run_eq hargs]
  · by_cases hsize : Oversized host arguments
    · -- an enormous script may be reported or not, depending on what is asked for
      obtain hcode | ⟨b, hbroken⟩ := ending_run hargs host
      · exact .inl hcode
      · exact .inr ⟨b, hbroken, .inr hsize⟩
    · exact .inl (hasCode_of_free hargs (not_exists.mp hobstacle) hsize)

/-- The null character in the path of a script is in the way. -/
theorem run_ends_at_null :
    readArguments ["-e", "\x00"] = .ok { entrypoint := .given "\x00" } ∧
      run (hostOf { entries := [] }) ["-e", "\x00"] = { ending := .broken .nullInPath } := by
  have hargs : readArguments ["-e", "\x00"] = .ok { entrypoint := .given "\x00" } := by
    decide +kernel
  have hreaches : Reaches (hostOf { entries := [] }) { entrypoint := .given "\x00" } (.ofString ".")
      (.ofString "\x00") 0 :=
    ⟨_, ⟨⟨".", rfl, rfl⟩, _, Setting.chooses_iff.mpr rfl, .absent rfl⟩,
      Setting.chooses_iff.mpr rfl, .inr ⟨rfl, rfl⟩⟩
  exact ⟨hargs, (run_ends hargs (hostOf { entries := [] })).2 _ (.nullInPath hreaches rfl)⟩

/-- A command line that is correct does not give a code if the script is no text. -/
theorem run_breaks_off_for_undecodable_script :
    readArguments [] = .ok {} ∧
      (run (hostOf { entries := [(["src", "main.ss"], .file ⟨#[0xff]⟩)] }) []).ending =
        .broken .undecodable := by
  decide +kernel

end ScriptFront.CommandLine
