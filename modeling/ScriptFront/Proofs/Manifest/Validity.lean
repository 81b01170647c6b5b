import Mathlib.Data.List.Forall2
import ScriptFront.Manifest.Basic

/-!
# Valid configuration data

The rules for configuration data in the order in which they are applied (`rules`), and a second
account of them, section by section (`IsValid`). Each check of a section goes through its rules
(`Checks`): it passes if all of them are kept, and else it names the first that is broken.

`ofFields_exact` says which data is accepted, what the manifest of accepted data holds, what is
reported of other data, and that nothing else in the data has a part in this.
-/

namespace ScriptFront.Manifest

/-! ## Rules -/

/-- A rule for configuration data, and the fault of data that breaks it. -/
structure Rule where
  fault : ManifestFault
  Kept : Prop

/-- The fault of the first rule that is broken. -/
inductive FirstBroken : List Rule → ManifestFault → Prop where
  | here {rule : Rule} {others : List Rule} (hbroken : ¬ rule.Kept) :
      FirstBroken (rule :: others) rule.fault
  | later {rule : Rule} {others : List Rule} {fault : ManifestFault} (hkept : rule.Kept)
      (hothers : FirstBroken others fault) : FirstBroken (rule :: others) fault

/-- Whether a value states a version, by itself or as a field. -/
def StatesVersion (datum : Datum) (version : String) : Prop :=
  datum = .text version ∨
    ∃ inner : Fields, datum = .table inner ∧ inner.lookup "version" = some (.text version)

/-- The rules for the package section. -/
def packageRules (package? : Option Datum) : List Rule :=
  [⟨.packageNotTable,
      ∀ datum, package? = some datum → datum = .null ∨ ∃ inner, datum = .table inner⟩,
   ⟨.packageWithoutName, ∀ inner : Fields, package? = some (.table inner) →
      ∃ name, inner.lookup "name" = some (.text name)⟩,
   ⟨.packageWithoutVersion, ∀ inner : Fields, package? = some (.table inner) →
      ∃ version, inner.lookup "version" = some (.text version)⟩]

/-- The rules for a dependency. -/
def dependencyRules (entry : String × Datum) : List Rule :=
  [⟨.dependencyWithoutVersion entry.1, ∀ inner : Fields, entry.2 = .table inner →
      ∃ datum, inner.lookup "version" = some datum ∧ datum ≠ .null⟩,
   ⟨.dependencyVersionNotText entry.1, ∃ version, StatesVersion entry.2 version⟩]

/-- The fields of a section, if it is a table. -/
def entries : Option Datum → Fields
  | some (.table inner) => inner
  | _ => []

/-- The rules for the dependencies section. -/
def dependenciesRules (dependencies? : Option Datum) : List Rule :=
  ⟨.dependenciesNotTable, ∀ datum, dependencies? = some datum → ∃ inner, datum = .table inner⟩ ::
    (entries dependencies?).flatMap dependencyRules

/-- The rules for the build section. -/
def buildRules (build? : Option Datum) : List Rule :=
  [⟨.buildNotTable, ∀ datum, build? = some datum → ∃ inner, datum = .table inner⟩,
   ⟨.entrypointNotText, ∀ datum, (entries build?).lookup "entrypoint" = some datum →
      ∃ path, datum = .text path⟩,
   ⟨.marginNotNatural, ∀ datum, (entries build?).lookup "left-margin" = some datum →
      ∃ n : Nat, datum = .int n⟩]

/-- The rules for the configuration data of a project, in order. -/
def rules (fields : Fields) : List Rule :=
  packageRules (fields.lookup "package") ++
    (dependenciesRules (fields.lookup "dependencies") ++ buildRules (fields.lookup "build"))

theorem FirstBroken.append {rules : List Rule} {fault : ManifestFault}
    (h : FirstBroken rules fault) (others : List Rule) : FirstBroken (rules ++ others) fault := by
  induction h with
  | here hbroken => exact .here hbroken
  | later hkept _ ih => exact .later hkept ih

theorem FirstBroken.exists_not_kept {rules : List Rule} {fault : ManifestFault}
    (h : FirstBroken rules fault) : ∃ rule ∈ rules, ¬ rule.Kept := by
  induction h with
  | here hbroken => exact ⟨_, List.mem_cons_self, hbroken⟩
  | later _ _ ih =>
    obtain ⟨rule, hrule, hbroken⟩ := ih
    exact ⟨rule, List.mem_cons_of_mem _ hrule, hbroken⟩

/-! ## What is accepted -/

/-- The package section is absent, null, or a table with a name and a version. -/
def ValidPackage (package? : Option Datum) : Prop :=
  ∀ datum, package? = some datum → datum = .null ∨ ∃ (inner : Fields) (name version : String),
    datum = .table inner ∧ inner.lookup "name" = some (.text name) ∧
      inner.lookup "version" = some (.text version)

/-- The dependencies section is absent, or a table in which every value states a version. -/
def ValidDependencies (dependencies? : Option Datum) : Prop :=
  ∀ datum, dependencies? = some datum → ∃ inner : Fields, datum = .table inner ∧
    ∀ entry ∈ inner, ∃ version, StatesVersion entry.2 version

/-- The build section is absent, or a table with a text for an entrypoint and a natural number for
a left margin, if they are there. -/
def ValidBuild (build? : Option Datum) : Prop :=
  ∀ datum, build? = some datum → ∃ inner : Fields, datum = .table inner ∧
    (∀ datum, inner.lookup "entrypoint" = some datum → ∃ path, datum = .text path) ∧
      ∀ datum, inner.lookup "left-margin" = some datum → ∃ n : Nat, datum = .int n

/-- Whether configuration data is that of a manifest. -/
structure IsValid (fields : Fields) : Prop where
  package : ValidPackage (fields.lookup "package")
  dependencies : ValidDependencies (fields.lookup "dependencies")
  build : ValidBuild (fields.lookup "build")

theorem packageRules_kept_iff {package? : Option Datum} :
    (∀ rule ∈ packageRules package?, rule.Kept) ↔ ValidPackage package? := by
  simp only [packageRules, List.forall_mem_cons, ValidPackage]
  constructor
  · rintro ⟨htable, hname, hversion, -⟩ datum rfl
    obtain rfl | ⟨inner, rfl⟩ := htable datum rfl
    · exact .inl rfl
    · obtain ⟨name, hname⟩ := hname inner rfl
      obtain ⟨version, hversion⟩ := hversion inner rfl
      exact .inr ⟨inner, name, version, rfl, hname, hversion⟩
  · intro h
    refine ⟨?_, ?_, ?_, by simp⟩
    · intro datum hdatum
      obtain hnull | ⟨inner, -, -, htable, -⟩ := h datum hdatum
      · exact .inl hnull
      · exact .inr ⟨inner, htable⟩
    · intro inner hinner
      obtain hnull | ⟨inner, name, version, htable, hname, -⟩ := h _ hinner
      · cases hnull
      · cases htable
        exact ⟨name, hname⟩
    · intro inner hinner
      obtain hnull | ⟨inner, name, version, htable, -, hversion⟩ := h _ hinner
      · cases hnull
      · cases htable
        exact ⟨version, hversion⟩

theorem dependencyRules_kept_iff {entry : String × Datum} :
    (∀ rule ∈ dependencyRules entry, rule.Kept) ↔ ∃ version, StatesVersion entry.2 version := by
  simp only [dependencyRules, List.forall_mem_cons]
  constructor
  · rintro ⟨-, hversion, -⟩
    exact hversion
  · rintro ⟨version, hversion⟩
    refine ⟨?_, ⟨version, hversion⟩, by simp⟩
    intro inner hinner
    obtain htext | ⟨inner', htable, hlookup⟩ := hversion
    · rw [hinner] at htext
      cases htext
    · rw [hinner] at htable
      cases htable
      exact ⟨_, hlookup, Datum.noConfusion⟩

theorem dependenciesRules_kept_iff {dependencies? : Option Datum} :
    (∀ rule ∈ dependenciesRules dependencies?, rule.Kept) ↔ ValidDependencies dependencies? := by
  simp only [dependenciesRules, List.forall_mem_cons, List.forall_mem_flatMap,
    dependencyRules_kept_iff, ValidDependencies]
  constructor
  · rintro ⟨htable, hentries⟩ datum rfl
    obtain ⟨inner, rfl⟩ := htable datum rfl
    exact ⟨inner, rfl, hentries⟩
  · intro h
    refine ⟨?_, ?_⟩
    · intro datum hdatum
      obtain ⟨inner, htable, -⟩ := h datum hdatum
      exact ⟨inner, htable⟩
    · -- without a table there are no entries
      cases dependencies? with
      | none => simp [entries]
      | some datum =>
        obtain ⟨inner, rfl, hinner⟩ := h datum rfl
        exact hinner

theorem buildRules_kept_iff {build? : Option Datum} :
    (∀ rule ∈ buildRules build?, rule.Kept) ↔ ValidBuild build? := by
  simp only [buildRules, List.forall_mem_cons, ValidBuild]
  constructor
  · rintro ⟨htable, hentrypoint, hmargin, -⟩ datum rfl
    obtain ⟨inner, rfl⟩ := htable datum rfl
    exact ⟨inner, rfl, hentrypoint, hmargin⟩
  · intro h
    cases build? with
    | none => simp [entries]
    | some datum =>
      obtain ⟨inner, rfl, hentrypoint, hmargin⟩ := h datum rfl
      exact ⟨by simp, hentrypoint, hmargin, by simp⟩

/-- Data is valid if it keeps all rules. -/
theorem rules_kept_iff {fields : Fields} : (∀ rule ∈ rules fields, rule.Kept) ↔ IsValid fields := by
  rw [rules, List.forall_mem_append, List.forall_mem_append, packageRules_kept_iff,
    dependenciesRules_kept_iff, buildRules_kept_iff]
  exact ⟨fun h => ⟨h.1, h.2.1, h.2.2⟩, fun h => ⟨h.package, h.dependencies, h.build⟩⟩

/-! ## What a manifest holds -/

/-- A package is what the package section says, if it says anything. -/
def ReflectsPackage (package? : Option Datum) (package : Option Package) : Prop :=
  ((package? = none ∨ package? = some .null) ∧ package = none) ∨
    ∃ (inner : Fields) (name version : String), package? = some (.table inner) ∧
      inner.lookup "name" = some (.text name) ∧ inner.lookup "version" = some (.text version) ∧
        package = some ⟨name, version⟩

/-- Dependencies are those of the dependencies section, in its order. -/
def ReflectsDependencies (dependencies? : Option Datum) (dependencies : List (String × String)) :
    Prop :=
  List.Forall₂ (fun entry dependency => dependency.1 = entry.1 ∧ StatesVersion entry.2 dependency.2)
    (entries dependencies?) dependencies

/-- A setting has the value of a field, and a default if there is no such field. -/
def ReflectsField {α : Type} (datum : α → Datum) (field? : Option Datum) (fallback value : α) :
    Prop :=
  field? = some (datum value) ∨ (field? = none ∧ value = fallback)

/-- Entrypoint and margin are those of the build section, or their defaults. -/
def ReflectsBuild (build? : Option Datum) (entrypoint : String) (margin : Nat) : Prop :=
  ReflectsField .text ((entries build?).lookup "entrypoint") "src/main.ss" entrypoint ∧
    ReflectsField (fun n : Nat => .int n) ((entries build?).lookup "left-margin") 0 margin

/-- Whether a manifest holds what configuration data says, and nothing else. -/
structure Reflects (fields : Fields) (manifest : Manifest) : Prop where
  package : ReflectsPackage (fields.lookup "package") manifest.package
  dependencies : ReflectsDependencies (fields.lookup "dependencies") manifest.dependencies
  build : ReflectsBuild (fields.lookup "build") manifest.entrypoint manifest.margin

/-! ## Checks -/

/-- Whether a result is that of a check that goes through some rules: a value with a property if all
of them are kept, and the first that is broken if not. -/
inductive Checks {α : Type} (rules : List Rule) (P : α → Prop) : Except ManifestFault α → Prop where
  | passed {x : α} (hkept : ∀ rule ∈ rules, rule.Kept) (hx : P x) : Checks rules P (.ok x)
  | broken {fault : ManifestFault} (hfault : FirstBroken rules fault) :
      Checks rules P (.error fault)

section

variable {α β : Type} {rules others : List Rule} {P : α → Prop} {Q : β → Prop}

theorem Checks.cons {rule : Rule} {result : Except ManifestFault α} (hkept : rule.Kept)
    (h : Checks rules P result) : Checks (rule :: rules) P result := by
  cases h with
  | broken hfault => exact .broken (.later hkept hfault)
  | passed hrules hx => exact .passed (List.forall_mem_cons.mpr ⟨hkept, hrules⟩) hx

theorem Checks.behind {result : Except ManifestFault α} (hkept : ∀ rule ∈ others, rule.Kept)
    (h : Checks rules P result) : Checks (others ++ rules) P result := by
  induction others with
  | nil => exact h
  | cons rule others ih =>
    rw [List.forall_mem_cons] at hkept
    exact .cons hkept.1 (ih hkept.2)

/-- Checks one after the other go through the rules of both. -/
theorem Checks.bind {result : Except ManifestFault α} {next : α → Except ManifestFault β}
    (h : Checks rules P result) (hnext : ∀ x, P x → Checks others Q (next x)) :
    Checks (rules ++ others) Q (result >>= next) := by
  cases h with
  | broken hfault => exact .broken (hfault.append others)
  | passed hkept hx => exact (hnext _ hx).behind hkept

theorem Checks.map {result : Except ManifestFault α} {f : α → β} (h : Checks rules P result)
    (hf : ∀ x, P x → Q (f x)) : Checks rules Q (result.map f) := by
  cases h with
  | broken hfault => exact .broken hfault
  | passed hkept hx => exact .passed hkept (hf _ hx)

end

/-- The package section is checked for being a table, then for its name, then for its version. -/
theorem checkPackage_checks (package? : Option Datum) :
    Checks (packageRules package?) (ReflectsPackage package?) (checkPackage package?) := by
  unfold checkPackage
  split
  · exact .passed (by simp [packageRules]) (.inl ⟨.inl rfl, rfl⟩)
  · exact .passed (by simp [packageRules]) (.inl ⟨.inr rfl, rfl⟩)
  · rename_i inner
    split
    · rename_i name version hname hversion
      exact .passed (by simp [packageRules, hname, hversion])
        (.inr ⟨inner, name, version, rfl, hname, hversion, rfl⟩)
    · rename_i name hname hversion
      refine .broken (.later (by simp) (.later (by simp [hname]) (.here ?_)))
      intro hkept
      obtain ⟨version, hlookup⟩ := hkept inner rfl
      exact hversion version hlookup
    · rename_i hname _
      refine .broken (.later (by simp) (.here ?_))
      intro hkept
      obtain ⟨name, hlookup⟩ := hkept inner rfl
      exact hname name hlookup
  · rename_i datum hnull htable
    refine .broken (.here ?_)
    intro hkept
    obtain rfl | ⟨inner, rfl⟩ := hkept datum rfl
    · exact hnull rfl
    · exact htable inner rfl

/-- A dependency is checked for having a version, then for that being a text. -/
theorem checkDependency_checks (name : String) (datum : Datum) :
    Checks (dependencyRules (name, datum)) (StatesVersion datum) (checkDependency name datum) := by
  unfold checkDependency
  split
  · rename_i version
    exact .passed (dependencyRules_kept_iff.mpr ⟨version, .inl rfl⟩) (.inl rfl)
  · rename_i inner
    split
    · rename_i hlookup
      exact .broken (.here (by simp [hlookup]))
    · rename_i hlookup
      exact .broken (.here (by simp [hlookup]))
    · rename_i version hlookup
      have hversion : StatesVersion (.table inner) version := .inr ⟨inner, rfl, hlookup⟩
      exact .passed (dependencyRules_kept_iff.mpr ⟨version, hversion⟩) hversion
    · -- the version is there, and it is no text
      rename_i field hnull htext hlookup
      refine .broken (.later ?_ (.here ?_))
      · rintro inner' ⟨⟩
        exact ⟨field, hlookup, hnull⟩
      · rintro ⟨version, hversion⟩
        obtain hdatum | ⟨inner', hdatum, hversion⟩ := hversion
        · cases hdatum
        · cases hdatum
          rw [hlookup] at hversion
          cases hversion
          exact htext version rfl
  · rename_i htext htable
    refine .broken (.later ?_ (.here ?_))
    · intro inner hinner
      exact absurd hinner (htable inner)
    · rintro ⟨version, hversion⟩
      obtain hdatum | ⟨inner, hdatum, -⟩ := hversion
      · exact htext version hdatum
      · exact htable inner hdatum

/-- Dependencies are checked one after the other. -/
theorem checkEach_checks (fields : Fields) :
    Checks (fields.flatMap dependencyRules)
      (List.Forall₂ (fun entry dependency =>
        dependency.1 = entry.1 ∧ StatesVersion entry.2 dependency.2) fields)
      (checkEach fields) := by
  induction fields with
  | nil => exact .passed (by simp) .nil
  | cons entry others ih =>
    obtain ⟨name, datum⟩ := entry
    have hbind : checkEach ((name, datum) :: others) =
        checkDependency name datum >>= fun version =>
          (checkEach others).map ((name, version) :: ·) := by
      rw [checkEach]
      cases checkDependency name datum <;> rfl
    rw [hbind, List.flatMap_cons]
    refine (checkDependency_checks name datum).bind ?_
    intro version hversion
    exact ih.map fun dependencies hdependencies => .cons ⟨rfl, hversion⟩ hdependencies

/-- The dependencies section is checked for being a table, then each of its dependencies. -/
theorem checkDependencies_checks (dependencies? : Option Datum) :
    Checks (dependenciesRules dependencies?) (ReflectsDependencies dependencies?)
      (checkDependencies dependencies?) := by
  unfold checkDependencies
  split
  · exact .passed (by simp [dependenciesRules, entries]) .nil
  · rename_i inner
    exact .cons (by simp) (checkEach_checks inner)
  · rename_i datum htable
    refine .broken (.here ?_)
    intro hkept
    obtain ⟨inner, rfl⟩ := hkept datum rfl
    exact htable inner rfl

/-- The entrypoint is checked for being a text. -/
theorem checkEntrypoint_checks (field? : Option Datum) :
    Checks [⟨.entrypointNotText, ∀ datum, field? = some datum → ∃ path, datum = .text path⟩]
      (ReflectsField .text field? "src/main.ss") (checkEntrypoint field?) := by
  unfold checkEntrypoint
  split
  · exact .passed (by simp) (.inr ⟨rfl, rfl⟩)
  · exact .passed (by simp) (.inl rfl)
  · rename_i datum htext
    refine .broken (.here ?_)
    intro hkept
    obtain ⟨path, rfl⟩ := hkept datum rfl
    exact htext path rfl

/-- The left margin is checked for being an integer that is not negative. -/
theorem checkMargin_checks (field? : Option Datum) :
    Checks [⟨.marginNotNatural, ∀ datum, field? = some datum → ∃ n : Nat, datum = .int n⟩]
      (ReflectsField (fun n : Nat => .int n) field? 0) (checkMargin field?) := by
  unfold checkMargin
  split
  · exact .passed (by simp) (.inr ⟨rfl, rfl⟩)
  · rename_i n
    split
    · rename_i hn
      obtain ⟨k, rfl⟩ := Int.eq_ofNat_of_zero_le hn
      exact .passed (by simp) (.inl rfl)
    · rename_i hn
      refine .broken (.here ?_)
      intro hkept
      obtain ⟨k, hk⟩ := hkept (.int n) rfl
      cases hk
      exact hn (Int.natCast_nonneg k)
  · rename_i datum hint
    refine .broken (.here ?_)
    intro hkept
    obtain ⟨n, rfl⟩ := hkept datum rfl
    exact hint n rfl

/-- The build section is checked for being a table, then for its entrypoint, then for its margin. -/
theorem checkBuild_checks (build? : Option Datum) :
    Checks (buildRules build?) (fun build => ReflectsBuild build? build.1 build.2)
      (checkBuild build?) := by
  unfold checkBuild
  split
  · exact .passed (by simp [buildRules, entries]) ⟨.inr ⟨rfl, rfl⟩, .inr ⟨rfl, rfl⟩⟩
  · rename_i inner
    refine .cons (by simp) ((checkEntrypoint_checks _).bind ?_)
    intro entrypoint hentrypoint
    exact (checkMargin_checks _).map fun margin hmargin => ⟨hentrypoint, hmargin⟩
  · rename_i datum htable
    refine .broken (.here ?_)
    intro hkept
    obtain ⟨inner, rfl⟩ := hkept datum rfl
    exact htable inner rfl

/-- Configuration data is checked section by section. -/
theorem check_checks (fields : Fields) :
    Checks (rules fields) (Reflects fields) (check fields) := by
  refine (checkPackage_checks _).bind fun package hpackage => ?_
  refine (checkDependencies_checks _).bind fun dependencies hdependencies => ?_
  exact (checkBuild_checks _).map fun build hbuild => ⟨hpackage, hdependencies, hbuild⟩

/-! ## What has no part in it -/

/-- Whether two tables agree on some fields. -/
def AgreeOn (names : List String) (fields others : Fields) : Prop :=
  ∀ name ∈ names, fields.lookup name = others.lookup name

/-- Whether two values are the same, or two tables that are the same in a sense. -/
inductive Alike (same : Fields → Fields → Prop) : Option Datum → Option Datum → Prop where
  | refl (datum? : Option Datum) : Alike same datum? datum?
  | tables {inner other : Fields} (h : same inner other) :
      Alike same (some (.table inner)) (some (.table other))

/-- Whether two lists of dependencies have the same names in the same order, with values that are
the same but for fields other than the version. -/
def SameDependencies : Fields → Fields → Prop :=
  List.Forall₂ fun entry other =>
    entry.1 = other.1 ∧ Alike (AgreeOn ["version"]) (some entry.2) (some other.2)

/-- Whether configuration data is the same but for fields that a manifest does not have. -/
structure SameSettings (fields others : Fields) : Prop where
  package : Alike (AgreeOn ["name", "version"]) (fields.lookup "package") (others.lookup "package")
  dependencies :
    Alike SameDependencies (fields.lookup "dependencies") (others.lookup "dependencies")
  build : Alike (AgreeOn ["entrypoint", "left-margin"]) (fields.lookup "build")
    (others.lookup "build")

theorem checkPackage_alike {package? other? : Option Datum}
    (h : Alike (AgreeOn ["name", "version"]) package? other?) :
    checkPackage package? = checkPackage other? := by
  cases h with
  | refl => rfl
  | tables h =>
    rw [checkPackage, checkPackage, h "name" (by simp), h "version" (by simp)]

theorem checkDependency_alike (name : String) {datum other : Datum}
    (h : Alike (AgreeOn ["version"]) (some datum) (some other)) :
    checkDependency name datum = checkDependency name other := by
  cases h with
  | refl => rfl
  | tables h => rw [checkDependency, checkDependency, h "version" (by simp)]

theorem checkEach_same {fields others : Fields} (h : SameDependencies fields others) :
    checkEach fields = checkEach others := by
  induction h with
  | nil => rfl
  | @cons entry other _ _ hentry _ ih =>
    obtain ⟨hname, hdatum⟩ := hentry
    obtain ⟨name, datum⟩ := entry
    obtain ⟨otherName, otherDatum⟩ := other
    obtain rfl : name = otherName := hname
    rw [checkEach, checkEach, checkDependency_alike name hdatum, ih]

theorem checkDependencies_alike {dependencies? other? : Option Datum}
    (h : Alike SameDependencies dependencies? other?) :
    checkDependencies dependencies? = checkDependencies other? := by
  cases h with
  | refl => rfl
  | tables h => exact checkEach_same h

theorem checkBuild_alike {build? other? : Option Datum}
    (h : Alike (AgreeOn ["entrypoint", "left-margin"]) build? other?) :
    checkBuild build? = checkBuild other? := by
  cases h with
  | refl => rfl
  | tables h => rw [checkBuild, checkBuild, h "entrypoint" (by simp), h "left-margin" (by simp)]

/-- Data with the same settings is checked with the same result. -/
theorem check_eq_of_same {fields others : Fields} (h : SameSettings fields others) :
    check fields = check others := by
  rw [check, check, checkPackage_alike h.package, checkDependencies_alike h.dependencies,
    checkBuild_alike h.build]

/-! ## The manifest of configuration data -/

/-- Configuration data has a manifest exactly if it is valid, and the manifest holds what the data
says. Of data that is not valid the first rule that it breaks is reported, with the path that the
data came from. Fields that no rule is about never matter. -/
theorem ofFields_exact (fields : Fields) (path : Option String) :
    ((∃ manifest, ofFields fields path = .ok manifest) ↔ IsValid fields) ∧
      (∀ manifest, ofFields fields path = .ok manifest → Reflects fields manifest) ∧
      (¬ IsValid fields → ∃ fault, FirstBroken (rules fields) fault ∧
        ofFields fields path = .error { text := fault.message, path := path }) ∧
      ∀ others, SameSettings fields others → ofFields others path = ofFields fields path := by
  have hsame : ∀ others, SameSettings fields others →
      ofFields others path = ofFields fields path := by
    intro others hothers
    rw [ofFields, ofFields, check_eq_of_same hothers]
  -- all that is needed of the check is which rules it goes through
  have hchecks := check_checks fields
  unfold ofFields at hsame ⊢
  generalize check fields = result at hchecks hsame ⊢
  cases hchecks with
  | @passed manifest hkept hreflects =>
    have hvalid := rules_kept_iff.mp hkept
    refine ⟨⟨fun _ => hvalid, fun _ => ⟨manifest, rfl⟩⟩, ?_, fun h => absurd hvalid h, hsame⟩
    rintro _ ⟨⟩
    exact hreflects
  | @broken fault hfault =>
    obtain ⟨rule, hrule, hbroken⟩ := hfault.exists_not_kept
    have hinvalid : ¬ IsValid fields := fun h => hbroken (rules_kept_iff.mpr h rule hrule)
    refine ⟨⟨?_, fun h => absurd h hinvalid⟩, ?_, fun _ => ⟨fault, hfault, rfl⟩, hsame⟩
    · rintro ⟨manifest, ⟨⟩⟩
    · rintro manifest ⟨⟩

end ScriptFront.Manifest
