import ScriptFront.CommandLine.Run
import ScriptFront.Proofs.Manifest.Loading

/-!
# The course of a run

What a run starts from and how far it gets, said without the steps that it takes: `Starts` gives its
root and what becomes of the manifest, `Reaches` the script and the margin that it then turns to.
Each case has an equation for `run`.
-/

namespace ScriptFront.CommandLine

/-! ## Choices -/

/-- Whether a setting leads to a choice: to what is made of its text, if it has one that is not
empty, and else to the fallback. -/
def Setting.Chooses {α : Type} (setting : Setting String) (make : String → α)
    (fallback chosen : α) : Prop :=
  (∃ text, setting = .given text ∧ text ≠ "" ∧ chosen = make text) ∨
    ((∀ text, setting = .given text → text = "") ∧ chosen = fallback)

theorem Setting.chooses_iff {α : Type} {setting : Setting String} {make : String → α}
    {fallback chosen : α} :
    setting.Chooses make fallback chosen ↔ chosen = (setting.text?.map make).getD fallback := by
  cases setting with
  | absent => simp [Chooses, text?]
  | blank => simp [Chooses, text?]
  | given text => by_cases h : text = "" <;> simp [Chooses, text?, h]

/-- What a run starts from: its root, and what becomes of the manifest of the project there. -/
def Starts (host : Host Id) (arguments : Arguments) (root : Path)
    (result : Except LoadFailure Manifest) : Prop :=
  (∃ text, arguments.root = .given text ∧ root = .ofString text) ∧
    ∃ config, arguments.config.Chooses .ofString (root.join (.ofString "stonescript.toml")) config ∧
      Manifest.Loads host config result

/-- Whether a left margin is that of the command line, which is not negative, or else that of the
manifest. -/
def MarginIs (arguments : Arguments) (manifest : Manifest) (margin : Int) : Prop :=
  (arguments.margin = .given margin ∧ 0 ≤ margin) ∨
    (arguments.margin = .absent ∧ margin = manifest.margin)

/-- Whether a run turns to the script at an entrypoint under its root. -/
def Reaches (host : Host Id) (arguments : Arguments) (root entrypoint : Path) (margin : Int) :
    Prop :=
  ∃ manifest, Starts host arguments root (.ok manifest) ∧
    arguments.entrypoint.Chooses .ofString (.ofString manifest.entrypoint) entrypoint ∧
      MarginIs arguments manifest margin

/-- The options of a run that turns to a script. -/
def Arguments.reached (arguments : Arguments) (root entrypoint : Path) (margin : Int) : Options :=
  { root := root
    entrypoint := entrypoint
    margin := margin
    showTokens := arguments.tokens || !arguments.tree
    showTree := arguments.tree || !arguments.tokens
    debug := arguments.debug }

/-! ## Options -/

section

variable {host : Host Id} {arguments : Arguments} {root : Path}

/-- A run without a root starts from nothing; any other starts from something. -/
theorem exists_starts (host : Host Id) (arguments : Arguments) :
    (∀ text, arguments.root ≠ .given text) ∨ ∃ root result, Starts host arguments root result := by
  cases hroot : arguments.root with
  | given text =>
    right
    obtain ⟨result, hloads⟩ := Manifest.exists_loads host
      ((arguments.config.text?.map .ofString).getD
        ((Path.ofString text).join (.ofString "stonescript.toml")))
    exact ⟨_, result, ⟨text, hroot, rfl⟩, _, Setting.chooses_iff.mpr rfl, hloads⟩
  | absent => exact .inl fun _ h => nomatch h
  | blank => exact .inl fun _ h => nomatch h

theorem options_of_rootless (h : ∀ text, arguments.root ≠ .given text) :
    arguments.options host = .error (.abort .missingValue) := by
  have hroot : arguments.rootPath? = none := by
    unfold Arguments.rootPath?
    split
    · rename_i text htext
      exact absurd htext (h text)
    · rfl
  unfold Arguments.options
  rw [hroot]
  rfl

/-- The manifest is loaded from the configuration file of the root. -/
theorem Starts.load_eq {result : Except LoadFailure Manifest}
    (h : Starts host arguments root result) :
    arguments.rootPath? = some root ∧
      Manifest.load host root arguments.configPath = result := by
  obtain ⟨⟨text, hroot, rfl⟩, config, hconfig, hloads⟩ := h
  obtain rfl := Setting.chooses_iff.mp hconfig
  refine ⟨?_, hloads.load_eq⟩
  rw [Arguments.rootPath?, hroot]

theorem Starts.options_of_error {failure : LoadFailure}
    (h : Starts host arguments root (.error failure)) :
    arguments.options host = .error (failure.widen .config) := by
  obtain ⟨hroot, hload⟩ := h.load_eq
  unfold Arguments.options
  rw [hroot]
  simp only [hload]
  rfl

theorem Starts.options_of_ok {manifest : Manifest} (h : Starts host arguments root (.ok manifest)) :
    arguments.options host = arguments.resolve root manifest := by
  obtain ⟨hroot, hload⟩ := h.load_eq
  unfold Arguments.options
  rw [hroot]
  simp only [hload]
  rfl

theorem resolveMargin_of_marginIs {manifest : Manifest} {margin : Int}
    (h : MarginIs arguments manifest margin) :
    arguments.resolveMargin manifest = .ok margin := by
  obtain ⟨hmargin, hle⟩ | ⟨hmargin, rfl⟩ := h
  · rw [Arguments.resolveMargin, hmargin]
    exact if_neg (by omega)
  · rw [Arguments.resolveMargin, hmargin]

theorem Reaches.options_eq {entrypoint : Path} {margin : Int}
    (h : Reaches host arguments root entrypoint margin) :
    arguments.options host = .ok (arguments.reached root entrypoint margin) := by
  obtain ⟨manifest, hstarts, hentrypoint, hmargin⟩ := h
  obtain rfl := Setting.chooses_iff.mp hentrypoint
  rw [hstarts.options_of_ok, Arguments.resolve, resolveMargin_of_marginIs hmargin, Option.getD_map]
  rfl

end

/-! ## Runs -/

section

variable {host : Host Id} {argv : List String} {arguments : Arguments} {root : Path}

theorem run_of_options_error (hargs : readArguments argv = .ok arguments) {failure : OptionsFailure}
    (h : arguments.options host = .error failure) :
    run host argv = optionsOutcome failure := by
  unfold run
  rw [hargs]
  simp only [h]
  rfl

/-- A run that turns to a script reads it. -/
theorem Reaches.run_eq (hargs : readArguments argv = .ok arguments) {entrypoint : Path}
    {margin : Int} (h : Reaches host arguments root entrypoint margin) :
    run host argv = scriptOutcome (arguments.reached root entrypoint margin)
      (host.files.read (root.join entrypoint)) := by
  unfold run
  rw [hargs]
  simp only [h.options_eq]
  rfl

/-- What follows a manifest depends on the margin: it may be that of the run, negative, or lost. -/
theorem exists_reaches_or {manifest : Manifest} (h : Starts host arguments root (.ok manifest)) :
    (∃ entrypoint margin, Reaches host arguments root entrypoint margin) ∨
      (∃ margin, arguments.margin = .given margin ∧ margin < 0) ∨ arguments.margin = .blank := by
  -- there is always an entrypoint, so only the margin counts
  have hchosen : arguments.entrypoint.Chooses Path.ofString (.ofString manifest.entrypoint) _ :=
    Setting.chooses_iff.mpr rfl
  cases hmargin : arguments.margin with
  | absent => exact .inl ⟨_, _, manifest, h, hchosen, .inr ⟨hmargin, rfl⟩⟩
  | blank => exact .inr (.inr rfl)
  | given margin =>
    by_cases hle : 0 ≤ margin
    · exact .inl ⟨_, _, manifest, h, hchosen, .inl ⟨hmargin, hle⟩⟩
    · exact .inr (.inl ⟨margin, rfl, by omega⟩)

/-- A negative margin is reported. -/
theorem run_of_negative (hargs : readArguments argv = .ok arguments) {manifest : Manifest}
    (h : Starts host arguments root (.ok manifest)) {margin : Int}
    (hmargin : arguments.margin = .given margin) (hneg : margin < 0) :
    run host argv =
      { ending := .returned 2, stderr := "error: --left-margin must be non-negative\n" } := by
  have hoptions : arguments.options host = .error (.reported .negativeMargin) := by
    rw [h.options_of_ok, Arguments.resolve, Arguments.resolveMargin, hmargin]
    dsimp only
    rw [if_pos hneg]
    rfl
  rw [run_of_options_error hargs hoptions]
  rfl

/-- A run that has lost its margin breaks off. -/
theorem run_of_marginless (hargs : readArguments argv = .ok arguments) {manifest : Manifest}
    (h : Starts host arguments root (.ok manifest)) (hmargin : arguments.margin = .blank) :
    run host argv = { ending := .broken .missingValue } := by
  have hoptions : arguments.options host = .error (.abort .missingValue) := by
    rw [h.options_of_ok, Arguments.resolve, Arguments.resolveMargin, hmargin]
    rfl
  rw [run_of_options_error hargs hoptions]
  rfl

end

end ScriptFront.CommandLine
