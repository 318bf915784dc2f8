import BuildOptions.Proofs.Catalog.Celix
import BuildOptions.Proofs.Resolution.Positions
import Mathlib.Data.Finset.Card
import Mathlib.Order.Bounds.Basic

/-! Reading the rules until nothing changes.  Whatever the rules, that ends with the least set of
switches that is closed under them; rules without hazards get there in one pass. -/

namespace BuildOptions

namespace Settings

variable {rules : List Rule} {settings : Settings}

/-- The consequences of the rules that are not on. -/
def pending (rules : List Rule) (settings : Settings) : Finset String :=
  (rules.flatMap Rule.consequences).toFinset.filter fun name => settings.isOn name = false

theorem mem_pending_iff {name : String} :
    name ∈ pending rules settings ↔
      (∃ rule ∈ rules, name ∈ rule.consequences) ∧ name ∉ settings.onSet := by
  rw [pending, Finset.mem_filter, List.mem_toFinset, List.mem_flatMap, notMem_onSet_iff]

theorem pending_applyRules_ssubset (h : settings.applyRules rules ≠ settings) :
    pending rules (settings.applyRules rules) ⊂ pending rules settings := by
  obtain ⟨name, hOn, hOff⟩ := Set.not_subset.mp fun hSub => h (applyRules_eq_self hSub)
  refine (Finset.ssubset_iff_of_subset fun other hOther => ?_).mpr ⟨name, ?_, ?_⟩
  · obtain ⟨hForced, hOther⟩ := mem_pending_iff.mp hOther
    exact mem_pending_iff.mpr ⟨hForced, fun hOn => hOther (onSet_subset_applyRules hOn)⟩
  · exact mem_pending_iff.mpr ⟨(mem_onSet_of_applyRules hOn).resolve_left hOff, hOff⟩
  · exact fun hPending => (mem_pending_iff.mp hPending).2 hOn

/-- The settings after passes over the rules until one of them changes nothing. -/
def saturate (rules : List Rule) (settings : Settings) : Settings :=
  if settings.applyRules rules = settings then settings
  else saturate rules (settings.applyRules rules)
termination_by (pending rules settings).card
decreasing_by exact Finset.card_lt_card (pending_applyRules_ssubset ‹_›)

theorem applyRules_saturate :
    (saturate rules settings).applyRules rules = saturate rules settings := by
  fun_induction saturate rules settings with
  | case1 settings hSame => exact hSame
  | case2 settings hChanged ih => exact ih

theorem onSet_subset_saturate : settings.onSet ⊆ (saturate rules settings).onSet := by
  fun_induction saturate rules settings with
  | case1 settings hSame => exact subset_rfl
  | case2 settings hChanged ih => exact onSet_subset_applyRules.trans ih

theorem onSet_saturate_subset {on : Set String} (hStart : settings.onSet ⊆ on)
    (hClosed : ClosedUnder rules on) : (saturate rules settings).onSet ⊆ on := by
  fun_induction saturate rules settings with
  | case1 settings hSame => exact hStart
  | case2 settings hChanged ih => exact ih (onSet_applyRules_subset hStart hClosed)

/-- Saturation switches on what the rules ask for and no more. -/
theorem isLeast_onSet_saturate (rules : List Rule) (settings : Settings) :
    IsLeast {on | settings.onSet ⊆ on ∧ ClosedUnder rules on} (saturate rules settings).onSet :=
  ⟨⟨onSet_subset_saturate, closedUnder_of_applyRules_eq applyRules_saturate⟩,
    fun _ hOn => onSet_saturate_subset hOn.1 hOn.2⟩

/-- Without hazards the second pass changes nothing. -/
theorem saturate_eq_applyRules (h : orderHazards rules = []) (settings : Settings) :
    saturate rules settings = settings.applyRules rules := by
  have hAgain : (settings.applyRules rules).applyRules rules = settings.applyRules rules :=
    applyRules_eq_self (onSet_applyRules_subset subset_rfl (closedUnder_applyRules h))
  rw [saturate]
  split
  · rename_i hSame
    exact hSame.symm
  · rw [saturate, if_pos hAgain]

end Settings

namespace Catalog

/-- In a catalog without hazards, the Celix catalog among them, one pass over the rules ends with
the settings that passes until nothing changes end with.  It switches on the least set that holds
what was on before and is closed under the rules, and scalars keep their initial values. -/
theorem cascade_saturates :
    celix.hazards = [] ∧
    ∀ (catalog : Catalog) (overrides : Overrides) (target : Target), catalog.hazards = [] →
      catalog.cascade overrides = (catalog.start overrides).saturate catalog.rules ∧
      (catalog.resolve overrides target).settings =
        ((catalog.start overrides).saturate catalog.rules).applyConstraints catalog.constraints
          target ∧
      IsLeast {on | catalog.initiallyOn overrides ⊆ on ∧ ClosedUnder catalog.rules on}
        (catalog.cascade overrides).onSet ∧
      ∀ flag ∈ catalog.flags, flag.kind = .scalar →
        (catalog.cascade overrides).value? flag.name =
          catalog.initialValue? overrides flag.name ∧
        (catalog.resolve overrides target).value? flag.name =
          catalog.initialValue? overrides flag.name := by
  refine ⟨hazards_celix, fun catalog overrides target hHazards => ?_⟩
  have hSaturate : catalog.cascade overrides = (catalog.start overrides).saturate catalog.rules :=
    (Settings.saturate_eq_applyRules hHazards _).symm
  refine ⟨hSaturate, ?_, ?_, fun flag hFlag hScalar => ?_⟩
  · rw [← hSaturate, resolve]
  · rw [hSaturate, ← onSet_start]
    exact Settings.isLeast_onSet_saturate _ _
  · exact ⟨value?_cascade_of_scalar hFlag hScalar, value?_resolve_of_scalar hFlag hScalar⟩

/-- The request for a console is closed under both rules of its catalog after one pass. -/
theorem cascade_saturates_consoleRequest :
    console.hazards = [] ∧
      console.cascade consoleRequest = (console.start consoleRequest).saturate console.rules ∧
      IsLeast {on | console.initiallyOn consoleRequest ⊆ on ∧ ClosedUnder console.rules on}
        (console.cascade consoleRequest).onSet ∧
      (console.resolve consoleRequest .macos).value? "log_size" = some (.scalar "4") := by
  have hHazards : console.hazards = [] := by decide
  obtain ⟨hSame, -, hLeast, hScalars⟩ :=
    cascade_saturates.2 console consoleRequest .macos hHazards
  have hSize := hScalars ⟨"log_size", .scalar "8" .positiveInteger⟩ (by decide) rfl
  exact ⟨hHazards, hSame, hLeast, hSize.2⟩

end Catalog

end BuildOptions
