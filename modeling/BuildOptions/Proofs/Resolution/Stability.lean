import BuildOptions.Proofs.Catalog.Celix
import BuildOptions.Proofs.Resolution.Positions

/-! The configuration that resolution ends with is at rest where constraints only switch off: the
rules have nothing to add to it beyond what the target does not have, and asking for exactly its
values leads to it again. -/

namespace BuildOptions.Catalog

variable {catalog : Catalog} {overrides : Overrides} {target : Target} {name : String}

theorem closedUnder_cascade (h : catalog.hazards = []) :
    ClosedUnder catalog.rules (catalog.cascade overrides).onSet :=
  Settings.closedUnder_applyRules h

/-! ### The rules in the end -/

/-- Constraints may take a trigger away, but a trigger that still holds held before them. -/
theorem mem_onSet_resolve_of_rule (hHazards : catalog.hazards = [])
    (hOff : catalog.ConstraintsSwitchOff target) {rule : Rule} (hRule : rule ∈ catalog.rules)
    (hHolds : rule.trigger.HoldsIn (catalog.resolve overrides target).onSet)
    (hMem : name ∈ rule.consequences) (hFree : name ∉ catalog.constrained target) :
    name ∈ (catalog.resolve overrides target).onSet := by
  rw [onSet_resolve hOff] at hHolds ⊢
  have hBefore : rule.trigger.HoldsIn (catalog.cascade overrides).onSet :=
    hHolds.mono fun _ hOn => hOn.1
  exact ⟨closedUnder_cascade hHazards rule hRule hBefore name hMem, hFree⟩

/-- Without hazards and with constraints that only switch off, a rule whose trigger holds in the end
has its consequences on in the end, but for those that a constraint names.  In the Celix catalog
there are no such exceptions. -/
theorem resolve_satisfies_rules :
    (∀ (catalog : Catalog) (overrides : Overrides) (target : Target), catalog.hazards = [] →
      catalog.ConstraintsSwitchOff target → ∀ rule ∈ catalog.rules,
        rule.trigger.HoldsIn (catalog.resolve overrides target).onSet →
          ∀ name ∈ rule.consequences, name ∉ catalog.constrained target →
            name ∈ (catalog.resolve overrides target).onSet) ∧
    ∀ (overrides : Overrides) (target : Target),
      ClosedUnder celix.rules (celix.resolve overrides target).onSet := by
  constructor
  · intro catalog overrides target hHazards hOff rule hRule hHolds name hMem hFree
    exact mem_onSet_resolve_of_rule hHazards hOff hRule hHolds hMem hFree
  · intro overrides target rule hRule hHolds name hMem
    exact mem_onSet_resolve_of_rule hazards_celix (constraintsSwitchOff_celix target) hRule hHolds
      hMem (notMem_constrained_celix hRule hMem target)

/-- The console that is asked for has its shell in the end, though the log is gone. -/
theorem resolve_satisfies_rules_consoleRequest :
    console.hazards = [] ∧ console.ConstraintsSwitchOff .macos ∧
      "with_console" ∈ (console.resolve consoleRequest .macos).onSet ∧
      "with_shell" ∉ console.constrained .macos ∧
      "with_shell" ∈ (console.resolve consoleRequest .macos).onSet := by
  have hHazards : console.hazards = [] := by decide
  have hOff : console.ConstraintsSwitchOff .macos := by decide
  have hConsole : "with_console" ∈ (console.resolve consoleRequest .macos).onSet :=
    Configuration.mem_onSet_iff.mpr (by decide +kernel)
  have hFree : "with_shell" ∉ console.constrained .macos := by decide
  have hRule : (⟨"console", .any ["with_console"], ["with_shell"]⟩ : Rule) ∈ console.rules := by
    decide
  have hHolds : (Trigger.any ["with_console"]).HoldsIn
      (console.resolve consoleRequest .macos).onSet :=
    ⟨"with_console", List.mem_singleton_self _, hConsole⟩
  exact ⟨hHazards, hOff, hConsole, hFree,
    resolve_satisfies_rules.1 console consoleRequest .macos hHazards hOff _ hRule hHolds
      "with_shell" (List.mem_singleton_self _) hFree⟩

/-! ### Asking for what is there -/

/-- Asked for the values of a configuration, every flag starts with its value in it. -/
theorem initialValue?_values :
    catalog.initialValue? (catalog.resolve overrides target).values name =
      (catalog.resolve overrides target).value? name := by
  rw [initialValue?, Configuration.get?_values]
  cases hValue : (catalog.resolve overrides target).value? name with
  | some value => rfl
  | none =>
    cases hFlag : catalog.flag? name with
    | none => rfl
    | some flag =>
      obtain ⟨hMem, rfl⟩ := flag?_eq_some_iff.mp hFlag
      obtain ⟨setting, hGet⟩ := get?_resolve_isSome overrides target hMem
      rw [Configuration.value?, hGet] at hValue
      cases hValue

/-- If nothing but a request turns the umbrella on, it is on only where it was requested. -/
theorem umbrellaRequested_of_mem_onSet (hUmbrella : catalog.UmbrellaOnRequestOnly)
    (hName : catalog.umbrella = some name) (hOn : name ∈ (catalog.cascade overrides).onSet) :
    catalog.UmbrellaRequested overrides := by
  obtain ⟨hDefault, hRules⟩ := hUmbrella name hName
  rcases initiallyOn_of_mem_cascade hRules hOn with hInitial | ⟨hRequested, -⟩
  · exact ⟨name, hName, requested_of_initialValue?_on hDefault hInitial⟩
  · exact hRequested

section Again

variable (hOff : catalog.ConstraintsSwitchOff target)
include hOff

theorem onSet_resolve_subset_cascade :
    (catalog.resolve overrides target).onSet ⊆ (catalog.cascade overrides).onSet := by
  rw [onSet_resolve hOff]
  exact fun _ hOn => hOn.1

section Overrides

variable {again : Overrides} (hHazards : catalog.hazards = [])
  (hUmbrella : catalog.UmbrellaOnRequestOnly)
  (hAgain : ∀ name, catalog.initialValue? again name = some (.switch true) →
    name ∈ (catalog.resolve overrides target).onSet)
include hHazards hUmbrella hAgain

/-- If the second time only flags are on at first that were left on the first time, what the rules
switch on the second time they had switched on the first time. -/
theorem onSet_cascade_again_subset :
    (catalog.cascade again).onSet ⊆ (catalog.cascade overrides).onSet := by
  refine Settings.onSet_applyRules_subset ?_ (closedUnder_cascade hHazards)
  rw [onSet_start]
  rintro name (hInitial | ⟨⟨umbrella, hName, hGet⟩, hFeature⟩)
  · exact onSet_resolve_subset_cascade hOff (hAgain name hInitial)
  · -- An umbrella that is on brings back what constraints removed, but so it did the first time.
    have hInitial : catalog.initialValue? again umbrella = some (.switch true) := by
      rw [initialValue?, hGet, Option.some_or]
    have hOn : umbrella ∈ (catalog.cascade overrides).onSet :=
      onSet_resolve_subset_cascade hOff (hAgain umbrella hInitial)
    have hRequested := umbrellaRequested_of_mem_onSet hUmbrella hName hOn
    exact initiallyOn_subset_cascade (.inr ⟨hRequested, hFeature⟩)

/-- A flag that starts the second time with the value it ended with the first time keeps it. -/
theorem value?_resolve_again
    (hSame : catalog.initialValue? again name = (catalog.resolve overrides target).value? name) :
    (catalog.resolve again target).value? name =
      (catalog.resolve overrides target).value? name := by
  by_cases hFree : name ∈ catalog.constrained target
  · rw [value?_resolve_of_mem hOff hFree, value?_resolve_of_mem hOff hFree]
  rw [value?_resolve_of_notMem hFree]
  by_cases hOn : name ∈ (catalog.cascade again).onSet
  · have hFirst := onSet_cascade_again_subset hOff hHazards hUmbrella hAgain hOn
    rw [Settings.mem_onSet_iff.mp hOn, value?_resolve_of_notMem hFree,
      Settings.mem_onSet_iff.mp hFirst]
  · rw [value?_cascade_of_notMem hOn, hSame]

end Overrides

theorem value?_resolve_values (hHazards : catalog.hazards = [])
    (hUmbrella : catalog.UmbrellaOnRequestOnly) :
    (catalog.resolve (catalog.resolve overrides target).values target).value? name =
      (catalog.resolve overrides target).value? name := by
  refine value?_resolve_again hOff hHazards hUmbrella (fun other hOn => ?_) initialValue?_values
  rw [initialValue?_values] at hOn
  exact Configuration.mem_onSet_iff.mpr hOn

theorem agrees_resolve_values (hHazards : catalog.hazards = [])
    (hUmbrella : catalog.UmbrellaOnRequestOnly) :
    (catalog.resolve (catalog.resolve overrides target).values target).Agrees
      (catalog.resolve overrides target) := by
  refine ⟨rfl, NameMap.ext_get? fun name => ?_⟩
  rw [Configuration.get?_values, Configuration.get?_values]
  exact value?_resolve_values hOff hHazards hUmbrella

end Again

/-- Without hazards, with constraints that only switch off and an umbrella that only a request turns
on, the values of a configuration lead to the same configuration.  The Celix catalog is such a
catalog for every target. -/
theorem resolve_values_agrees :
    (∀ (catalog : Catalog) (overrides : Overrides) (target : Target), catalog.hazards = [] →
      catalog.ConstraintsSwitchOff target → catalog.UmbrellaOnRequestOnly →
        (catalog.resolve (catalog.resolve overrides target).values target).Agrees
          (catalog.resolve overrides target)) ∧
    ∀ (overrides : Overrides) (target : Target),
      (celix.resolve (celix.resolve overrides target).values target).Agrees
        (celix.resolve overrides target) := by
  constructor
  · intro catalog overrides target hHazards hOff hUmbrella
    exact agrees_resolve_values hOff hHazards hUmbrella
  · intro overrides target
    exact agrees_resolve_values (constraintsSwitchOff_celix target) hazards_celix
      umbrellaOnRequestOnly_celix

/-- Off Linux the log of the console goes, and it does not come back when asked again. -/
theorem resolve_values_agrees_consoleRequest :
    console.hazards = [] ∧ console.ConstraintsSwitchOff .macos ∧ console.UmbrellaOnRequestOnly ∧
      (console.resolve (console.resolve consoleRequest .macos).values .macos).Agrees
        (console.resolve consoleRequest .macos) := by
  have hHazards : console.hazards = [] := by decide
  have hOff : console.ConstraintsSwitchOff .macos := by decide
  have hUmbrella : console.UmbrellaOnRequestOnly := by decide
  exact ⟨hHazards, hOff, hUmbrella,
    resolve_values_agrees.1 console consoleRequest .macos hHazards hOff hUmbrella⟩

end BuildOptions.Catalog
