import BuildOptions.Proofs.Resolution.Pass
import BuildOptions.Proofs.Resolution.Start

/-! The values that resolution ends with.  After the rules a flag is on or has its initial value;
the constraints of the target then decide the flags that they name and leave the others alone. -/

namespace BuildOptions

/-- The switches that are on. -/
def Configuration.onSet (config : Configuration) : Set String := config.settings.onSet

theorem Configuration.mem_onSet_iff {config : Configuration} {name : String} :
    name ∈ config.onSet ↔ config.value? name = some (.switch true) :=
  Settings.mem_onSet_iff

namespace Catalog

/-- The flags that the constraints of a target name. -/
def constrained (catalog : Catalog) (target : Target) : Set String :=
  {name | ∃ constraint ∈ catalog.constraints,
    constraint.scope.covers target = true ∧ constraint.flag = name}

instance (catalog : Catalog) (target : Target) (name : String) :
    Decidable (name ∈ catalog.constrained target) :=
  inferInstanceAs (Decidable (∃ constraint ∈ catalog.constraints, _ ∧ _))

/-- The constraints of a target on one flag, in the order of the table. -/
def constraintsOn (catalog : Catalog) (target : Target) (name : String) :
    List PlatformConstraint :=
  (catalog.constraints.filter (·.scope.covers target)).filter (·.flag = name)

/-- No constraint of the target switches a flag on. -/
def ConstraintsSwitchOff (catalog : Catalog) (target : Target) : Prop :=
  ∀ constraint ∈ catalog.constraints,
    constraint.scope.covers target = true → constraint.value = false

instance (catalog : Catalog) (target : Target) : Decidable (catalog.ConstraintsSwitchOff target) :=
  inferInstanceAs (Decidable (∀ constraint ∈ catalog.constraints, _ → _))

/-- Wherever a constraint switches a flag off, some requirement does not allow the flag. -/
def RemovalsRefused (catalog : Catalog) : Prop :=
  ∀ constraint ∈ catalog.constraints, constraint.value = false →
    ∃ requirement ∈ catalog.requirements, requirement.flag = constraint.flag ∧
      ∀ target, constraint.scope.covers target = true → target ≠ requirement.target

instance (catalog : Catalog) : Decidable catalog.RemovalsRefused :=
  inferInstanceAs (Decidable (∀ constraint ∈ catalog.constraints, _ →
    ∃ requirement ∈ catalog.requirements, _ ∧ ∀ _ : Target, _ → _))

/-- Where a constraint switches a flag off, the flag is off by default and no rule switches it on,
and the rules that read it switch on feature flags only. -/
def RemovalsIsolated (catalog : Catalog) : Prop :=
  ∀ constraint ∈ catalog.constraints, constraint.value = false →
    (∀ flag ∈ catalog.flags, flag.name = constraint.flag → flag.default = .switch false) ∧
      ∀ rule ∈ catalog.rules, constraint.flag ∉ rule.consequences ∧
        (constraint.flag ∈ rule.trigger.flags → ∀ name ∈ rule.consequences,
          ∃ flag ∈ catalog.flags, flag.name = name ∧ catalog.isFeature flag = true)

instance (catalog : Catalog) : Decidable catalog.RemovalsIsolated :=
  inferInstanceAs (Decidable (∀ constraint ∈ catalog.constraints, _ → _))

/-- Wherever a requirement does not allow a flag, the last constraint on the flag switches it
off. -/
def RequirementsEnforced (catalog : Catalog) : Prop :=
  ∀ requirement ∈ catalog.requirements, ∀ target, target ≠ requirement.target →
    (catalog.constraintsOn target requirement.flag).getLast?.map (·.value) = some false

instance (catalog : Catalog) : Decidable catalog.RequirementsEnforced :=
  inferInstanceAs (Decidable (∀ requirement ∈ catalog.requirements, ∀ _ : Target, _ → _))

variable {catalog : Catalog} {overrides : Overrides} {target : Target} {name : String}

/-! ### After the rules -/

theorem initiallyOn_subset_cascade :
    catalog.initiallyOn overrides ⊆ (catalog.cascade overrides).onSet := by
  rw [← onSet_start]
  exact Settings.onSet_subset_applyRules

/-- What no rule forces is on after the rules only if it was on before them. -/
theorem initiallyOn_of_mem_cascade (hRules : ∀ rule ∈ catalog.rules, name ∉ rule.consequences)
    (hOn : name ∈ (catalog.cascade overrides).onSet) : name ∈ catalog.initiallyOn overrides := by
  rw [← onSet_start]
  refine (Settings.mem_onSet_of_applyRules hOn).resolve_right ?_
  rintro ⟨rule, hRule, hMem⟩
  exact hRules rule hRule hMem

theorem value?_cascade_of_notMem (h : name ∉ (catalog.cascade overrides).onSet) :
    (catalog.cascade overrides).value? name = catalog.initialValue? overrides name := by
  rw [Settings.value?, cascade, Settings.get?_applyRules_of_notMem h, ← Settings.value?]
  exact value?_start_of_notMem fun hOn => h (initiallyOn_subset_cascade hOn)

/-- A scalar is no consequence of a rule, so the rules leave it alone. -/
theorem value?_cascade_of_scalar {flag : Flag} (hFlag : flag ∈ catalog.flags)
    (hScalar : flag.kind = .scalar) :
    (catalog.cascade overrides).value? flag.name = catalog.initialValue? overrides flag.name := by
  rw [← value?_start_of_scalar hFlag hScalar, Settings.value?, Settings.value?, cascade]
  by_cases hOn : flag.name ∈ ((catalog.start overrides).applyRules catalog.rules).onSet
  · rcases Settings.mem_onSet_of_applyRules hOn with hStart | ⟨rule, hRule, hMem⟩
    · rw [Settings.get?_applyRules_of_mem hStart]
    · have hSwitch := catalog.tables_consistent.consequences rule hRule flag.name hMem
      exact absurd rfl (ne_name_of_switch hFlag hScalar hSwitch)
  · rw [Settings.get?_applyRules_of_notMem hOn]

/-! ### After the constraints -/

/-- A flag has the setting that the rules left it with, or that of a constraint. -/
theorem get?_resolve_cases (catalog : Catalog) (overrides : Overrides) (target : Target)
    (name : String) :
    (catalog.resolve overrides target).settings.get? name =
        (catalog.cascade overrides).get? name ∨
      ∃ constraint ∈ catalog.constraints, constraint.scope.covers target = true ∧
        constraint.flag = name ∧
        (catalog.resolve overrides target).settings.get? name =
          some ⟨.switch constraint.value, .platform constraint.name⟩ :=
  Settings.get?_applyConstraints_cases (catalog.cascade overrides) catalog.constraints target name

theorem get?_resolve_of_notMem (h : name ∉ catalog.constrained target) :
    (catalog.resolve overrides target).settings.get? name =
      (catalog.cascade overrides).get? name := by
  refine (get?_resolve_cases catalog overrides target name).resolve_right ?_
  rintro ⟨constraint, hMem, hCovers, hFlag, -⟩
  exact h ⟨constraint, hMem, hCovers, hFlag⟩

theorem value?_resolve_of_notMem (h : name ∉ catalog.constrained target) :
    (catalog.resolve overrides target).value? name = (catalog.cascade overrides).value? name := by
  rw [Configuration.value?, get?_resolve_of_notMem h, Settings.value?]

theorem mem_constraintsOn_iff {constraint : PlatformConstraint} :
    constraint ∈ catalog.constraintsOn target name ↔
      constraint ∈ catalog.constraints ∧ constraint.scope.covers target = true ∧
        constraint.flag = name := by
  simp only [constraintsOn, List.mem_filter, decide_eq_true_eq, and_assoc]

theorem notMem_constrained_of_getLast? (h : (catalog.constraintsOn target name).getLast? = none) :
    name ∉ catalog.constrained target := by
  rintro ⟨constraint, hConstraint⟩
  have hMem : constraint ∈ catalog.constraintsOn target name :=
    mem_constraintsOn_iff.mpr hConstraint
  simp [List.getLast?_eq_none_iff.mp h] at hMem

theorem value?_resolve_of_getLast? {constraint : PlatformConstraint}
    (h : (catalog.constraintsOn target name).getLast? = some constraint) :
    (catalog.resolve overrides target).value? name = some (.switch constraint.value) := by
  have hRun := Settings.value?_applyConstraints (catalog.cascade overrides) catalog.constraints
    target name
  rw [← constraintsOn, h] at hRun
  exact hRun

theorem exists_getLast?_of_mem_constrained (h : name ∈ catalog.constrained target) :
    ∃ last, (catalog.constraintsOn target name).getLast? = some last := by
  cases hLast : (catalog.constraintsOn target name).getLast? with
  | none => exact absurd h (notMem_constrained_of_getLast? hLast)
  | some last => exact ⟨last, rfl⟩

theorem value?_resolve_of_mem (hOff : catalog.ConstraintsSwitchOff target)
    (h : name ∈ catalog.constrained target) :
    (catalog.resolve overrides target).value? name = some (.switch false) := by
  obtain ⟨last, hLast⟩ := exists_getLast?_of_mem_constrained h
  obtain ⟨hTable, hCovers, -⟩ := mem_constraintsOn_iff.mp (List.mem_of_getLast? hLast)
  rw [value?_resolve_of_getLast? hLast, hOff last hTable hCovers]

theorem value?_resolve_of_scalar {flag : Flag} (hFlag : flag ∈ catalog.flags)
    (hScalar : flag.kind = .scalar) :
    (catalog.resolve overrides target).value? flag.name =
      catalog.initialValue? overrides flag.name := by
  rw [value?_resolve_of_notMem, value?_cascade_of_scalar hFlag hScalar]
  rintro ⟨constraint, hMem, -, hName⟩
  have hSwitch := catalog.tables_consistent.constraints constraint hMem
  exact ne_name_of_switch hFlag hScalar hSwitch hName.symm

/-- What the rules left on and is not on in the end was switched off by a constraint. -/
theorem getLast?_of_notMem_resolve (hOn : name ∈ (catalog.cascade overrides).onSet)
    (hOff : name ∉ (catalog.resolve overrides target).onSet) :
    ∃ constraint, (catalog.constraintsOn target name).getLast? = some constraint ∧
      constraint.value = false := by
  cases hLast : (catalog.constraintsOn target name).getLast? with
  | none =>
    rw [Configuration.mem_onSet_iff,
      value?_resolve_of_notMem (notMem_constrained_of_getLast? hLast),
      ← Settings.mem_onSet_iff] at hOff
    exact absurd hOn hOff
  | some constraint =>
    refine ⟨constraint, rfl, ?_⟩
    rw [Configuration.mem_onSet_iff, value?_resolve_of_getLast? hLast] at hOff
    simpa using hOff

/-- What is on in the end is what the rules left on, less what the target does not have. -/
theorem onSet_resolve (hOff : catalog.ConstraintsSwitchOff target) :
    (catalog.resolve overrides target).onSet =
      (catalog.cascade overrides).onSet \ catalog.constrained target := by
  ext name
  rw [Set.mem_sdiff, Configuration.mem_onSet_iff, Settings.mem_onSet_iff]
  by_cases hName : name ∈ catalog.constrained target
  · simp [value?_resolve_of_mem hOff hName, hName]
  · simp [value?_resolve_of_notMem hName, hName]

theorem get?_resolve_isSome (overrides : Overrides) (target : Target) {flag : Flag}
    (h : flag ∈ catalog.flags) :
    ∃ setting, (catalog.resolve overrides target).settings.get? flag.name = some setting := by
  rcases get?_resolve_cases catalog overrides target flag.name with
    hSame | ⟨constraint, -, -, -, hGet⟩
  · have hValue : ∃ value, (catalog.cascade overrides).value? flag.name = some value := by
      by_cases hOn : flag.name ∈ (catalog.cascade overrides).onSet
      · exact ⟨_, Settings.mem_onSet_iff.mp hOn⟩
      · rw [value?_cascade_of_notMem hOn, initialValue?, flag?_name h]
        cases overrides.get? flag.name <;> simp
    obtain ⟨value, hValue⟩ := hValue
    obtain ⟨setting, hGet, -⟩ := Option.map_eq_some_iff.mp hValue
    exact ⟨setting, hSame.trans hGet⟩
  · exact ⟨_, hGet⟩

end Catalog

end BuildOptions
