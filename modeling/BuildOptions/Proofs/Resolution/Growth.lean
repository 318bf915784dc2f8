import BuildOptions.Proofs.Resolution.Outcome

/-! Growth of requests.  Each step of resolution keeps the inclusion of the switches that are on in
one run in those that are on in another: a rule that fires in the smaller run fires in the larger
one, and the last constraint on a flag decides it in both.  No order of the rules is asked for. -/

namespace BuildOptions

namespace Settings

variable {a b : Settings}

theorem onSet_applyRule_mono (h : a.onSet ⊆ b.onSet) (rule : Rule) :
    (a.applyRule rule).onSet ⊆ (b.applyRule rule).onSet := by
  intro name hOn
  rcases mem_onSet_applyRule_iff.mp hOn with hBefore | ⟨hHolds, hMem⟩
  · exact mem_onSet_applyRule_iff.mpr (.inl (h hBefore))
  · exact mem_onSet_applyRule_iff.mpr (.inr ⟨hHolds.mono h, hMem⟩)

theorem onSet_applyRules_mono (h : a.onSet ⊆ b.onSet) (rules : List Rule) :
    (a.applyRules rules).onSet ⊆ (b.applyRules rules).onSet := by
  induction rules generalizing a b with
  | nil => exact h
  | cons rule rest ih => exact ih (onSet_applyRule_mono h rule)

theorem onSet_applyConstraints_mono (h : a.onSet ⊆ b.onSet) (constraints : List PlatformConstraint)
    (target : Target) :
    (a.applyConstraints constraints target).onSet ⊆
      (b.applyConstraints constraints target).onSet := by
  intro name hOn
  rw [mem_onSet_iff, value?_applyConstraints] at hOn ⊢
  cases hLast : ((constraints.filter (·.scope.covers target)).filter (·.flag = name)).getLast? with
  | none =>
    rw [hLast, Option.map_none, Option.none_or] at hOn
    rw [Option.map_none, Option.none_or]
    exact mem_onSet_iff.mp (h (mem_onSet_iff.mpr hOn))
  | some last =>
    rw [hLast] at hOn
    exact hOn

end Settings

namespace Catalog

variable {catalog : Catalog} {smaller larger overrides : Overrides} {flag name : String}

/-- Every switch that is on at first under the smaller request is on at first under the larger one,
and the larger one turns the umbrella on if the smaller one does. -/
structure Grows (catalog : Catalog) (smaller larger : Overrides) : Prop where
  initial : ∀ name, catalog.initialValue? smaller name = some (.switch true) →
    catalog.initialValue? larger name = some (.switch true)
  umbrella : catalog.UmbrellaRequested smaller → catalog.UmbrellaRequested larger

theorem Grows.initiallyOn_subset (h : catalog.Grows smaller larger) :
    catalog.initiallyOn smaller ⊆ catalog.initiallyOn larger := by
  rintro name (hInitial | ⟨hUmbrella, hFeature⟩)
  · exact .inl (h.initial name hInitial)
  · exact .inr ⟨h.umbrella hUmbrella, hFeature⟩

theorem Grows.onSet_cascade_subset (h : catalog.Grows smaller larger) :
    (catalog.cascade smaller).onSet ⊆ (catalog.cascade larger).onSet := by
  refine Settings.onSet_applyRules_mono ?_ catalog.rules
  rw [onSet_start, onSet_start]
  exact h.initiallyOn_subset

theorem Grows.onSet_resolve_subset (h : catalog.Grows smaller larger) (target : Target) :
    (catalog.resolve smaller target).onSet ⊆ (catalog.resolve larger target).onSet :=
  Settings.onSet_applyConstraints_mono h.onSet_cascade_subset catalog.constraints target

/-! ### One switch more -/

theorem initialValue?_insert_of_ne (value : FlagValue) (hName : name ≠ flag) :
    catalog.initialValue? (overrides.insert flag value) name =
      catalog.initialValue? overrides name := by
  rw [initialValue?, initialValue?, NameMap.get?_insert_of_ne _ _ hName]

theorem initialValue?_insert_self (value : FlagValue) :
    catalog.initialValue? (overrides.insert flag value) flag = some value := by
  rw [initialValue?, NameMap.get?_insert_self, Option.some_or]

theorem grows_insert (catalog : Catalog) (overrides : Overrides) (flag : String) :
    catalog.Grows overrides (overrides.insert flag (.switch true)) where
  initial := by
    intro name hOn
    by_cases hName : name = flag
    · rw [hName, initialValue?_insert_self]
    · rw [initialValue?_insert_of_ne _ hName, hOn]
  umbrella := by
    rintro ⟨umbrella, hUmbrella, hGet⟩
    refine ⟨umbrella, hUmbrella, ?_⟩
    rw [NameMap.get?_insert]
    split
    · rfl
    · exact hGet

end Catalog

end BuildOptions
