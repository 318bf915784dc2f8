import BuildOptions.Proofs.Resolution.Growth
import BuildOptions.Proofs.Resolution.Stability
import Mathlib.Data.Set.Insert

/-! One switch more in a request.  Where the rules that read the switch have nothing left to do, the
request leads to the same values as without the switch, but for the switch itself. -/

namespace BuildOptions.Catalog

variable {catalog : Catalog} {overrides : Overrides} {target : Target} {flag name : String}

/-- Whatever the rules that read the flag switch on is on without it. -/
def AddsNothing (catalog : Catalog) (overrides : Overrides) (flag : String) : Prop :=
  ∀ rule ∈ catalog.rules, flag ∈ rule.trigger.flags →
    ∀ name ∈ rule.consequences, name ∈ (catalog.cascade overrides).onSet

theorem initiallyOn_insert_subset (hUmbrella : catalog.umbrella ≠ some flag) :
    catalog.initiallyOn (overrides.insert flag (.switch true)) ⊆
      insert flag (catalog.initiallyOn overrides) := by
  rintro name (hInitial | ⟨⟨umbrella, hIs, hGet⟩, hFeature⟩)
  · by_cases hName : name = flag
    · exact .inl hName
    · rw [initialValue?_insert_of_ne _ hName] at hInitial
      exact .inr (.inl hInitial)
  · have hOther : umbrella ≠ flag := fun h => hUmbrella (h ▸ hIs)
    rw [NameMap.get?_insert_of_ne _ _ hOther] at hGet
    exact .inr (.inr ⟨⟨umbrella, hIs, hGet⟩, hFeature⟩)

theorem onSet_cascade_insert_subset (hUmbrella : catalog.umbrella ≠ some flag)
    (hHazards : catalog.hazards = []) (hNothing : catalog.AddsNothing overrides flag) :
    (catalog.cascade (overrides.insert flag (.switch true))).onSet ⊆
      insert flag (catalog.cascade overrides).onSet := by
  refine Settings.onSet_applyRules_subset ?_ fun rule hRule hHolds name hMem => ?_
  · rw [onSet_start]
    exact (initiallyOn_insert_subset hUmbrella).trans
      (Set.insert_subset_insert initiallyOn_subset_cascade)
  · refine .inr ?_
    by_cases hRead : flag ∈ rule.trigger.flags
    · exact hNothing rule hRule hRead name hMem
    · -- A rule that does not read the flag held without it.
      refine closedUnder_cascade hHazards rule hRule (hHolds.of_flags fun other hOther hOn => ?_)
        name hMem
      exact hOn.resolve_left fun h => hRead (h ▸ hOther)

theorem value?_cascade_insert (hUmbrella : catalog.umbrella ≠ some flag)
    (hHazards : catalog.hazards = []) (hNothing : catalog.AddsNothing overrides flag)
    (hName : name ≠ flag) :
    (catalog.cascade (overrides.insert flag (.switch true))).value? name =
      (catalog.cascade overrides).value? name := by
  have hGrows := (grows_insert catalog overrides flag).onSet_cascade_subset
  by_cases hOn : name ∈ (catalog.cascade (overrides.insert flag (.switch true))).onSet
  · have hBefore : name ∈ (catalog.cascade overrides).onSet :=
      (onSet_cascade_insert_subset hUmbrella hHazards hNothing hOn).resolve_left hName
    rw [Settings.mem_onSet_iff.mp hOn, Settings.mem_onSet_iff.mp hBefore]
  · have hBefore : name ∉ (catalog.cascade overrides).onSet := fun h => hOn (hGrows h)
    rw [value?_cascade_of_notMem hOn, value?_cascade_of_notMem hBefore,
      initialValue?_insert_of_ne _ hName]

theorem value?_resolve_insert (hUmbrella : catalog.umbrella ≠ some flag)
    (hHazards : catalog.hazards = []) (hNothing : catalog.AddsNothing overrides flag)
    (hName : name ≠ flag) :
    (catalog.resolve (overrides.insert flag (.switch true)) target).value? name =
      (catalog.resolve overrides target).value? name := by
  have hCascade := value?_cascade_insert hUmbrella hHazards hNothing hName
  have hRun : ∀ asked, (catalog.resolve asked target).value? name =
      ((catalog.constraintsOn target name).getLast?.map fun last => .switch last.value).or
        ((catalog.cascade asked).value? name) :=
    fun asked => Settings.value?_applyConstraints (catalog.cascade asked) catalog.constraints
      target name
  rw [hRun, hRun, hCascade]

end BuildOptions.Catalog
