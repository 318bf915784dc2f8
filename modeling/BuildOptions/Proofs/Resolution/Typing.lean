import BuildOptions.Proofs.Overrides.Typing
import BuildOptions.Proofs.Resolution.Outcome

/-! The values that resolution ends with fit the catalog if the overrides do.  Every step after the
overrides sets switches only, and only where the tables mention a switch. -/

namespace BuildOptions.Catalog

variable {catalog : Catalog} {overrides : Overrides} {target : Target} {name : String}
  {value : FlagValue}

theorem Admits.takes_initialValue? (h : catalog.Admits overrides)
    (hValue : catalog.initialValue? overrides name = some value) : catalog.Takes name value := by
  unfold initialValue? at hValue
  cases hGet : overrides.get? name with
  | some given =>
    rw [hGet, Option.some_or] at hValue
    cases hValue
    exact h.takes hGet
  | none =>
    rw [hGet, Option.none_or, Option.map_eq_some_iff] at hValue
    obtain ⟨flag, hFind, rfl⟩ := hValue
    obtain ⟨hFlag, hName⟩ := flag?_eq_some_iff.mp hFind
    exact ⟨flag, hFlag, hName, flag.kind_default⟩

theorem Admits.takes_of_mem_cascade (h : catalog.Admits overrides)
    (hOn : name ∈ (catalog.cascade overrides).onSet) : catalog.Takes name (.switch true) := by
  rcases Settings.mem_onSet_of_applyRules hOn with hStart | ⟨rule, hRule, hMem⟩
  · rw [onSet_start] at hStart
    rcases hStart with hInitial | ⟨-, flag, hFlag, hFeature, rfl⟩
    · exact h.takes_initialValue? hInitial
    · exact takes_switch true ⟨flag, hFlag, rfl, kind_of_isFeature hFeature⟩
  · exact takes_switch true (catalog.tables_consistent.consequences rule hRule name hMem)

theorem Admits.takes_cascade (h : catalog.Admits overrides)
    (hValue : (catalog.cascade overrides).value? name = some value) :
    catalog.Takes name value := by
  by_cases hOn : name ∈ (catalog.cascade overrides).onSet
  · rw [Settings.mem_onSet_iff.mp hOn] at hValue
    cases hValue
    exact h.takes_of_mem_cascade hOn
  · rw [value?_cascade_of_notMem hOn] at hValue
    exact h.takes_initialValue? hValue

theorem Admits.takes_resolve (h : catalog.Admits overrides)
    (hValue : (catalog.resolve overrides target).value? name = some value) :
    catalog.Takes name value := by
  unfold Configuration.value? at hValue
  rcases get?_resolve_cases catalog overrides target name with
    hSame | ⟨constraint, hMem, -, rfl, hGet⟩
  · rw [hSame] at hValue
    exact h.takes_cascade hValue
  · rw [hGet, Option.map_some] at hValue
    cases hValue
    exact takes_switch constraint.value (catalog.tables_consistent.constraints constraint hMem)

/-- A configuration's values can be asked for in their turn. -/
theorem Admits.values (h : catalog.Admits overrides) (target : Target) :
    catalog.Admits (catalog.resolve overrides target).values := by
  refine admits_iff.mpr fun name value hGet => ?_
  rw [Configuration.get?_values] at hGet
  exact h.takes_resolve hGet

end BuildOptions.Catalog
