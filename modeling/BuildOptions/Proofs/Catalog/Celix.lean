import BuildOptions.Catalog.Celix
import BuildOptions.Proofs.Resolution.Outcome

/-! What the theorems on resolution ask of a catalog holds of the Celix catalog.  The kernel
checks the tables by evaluation. -/

namespace BuildOptions.Catalog

theorem hazards_celix : celix.hazards = [] := Celix.orderHazards_rules

theorem umbrellaOnRequestOnly_celix : celix.UmbrellaOnRequestOnly := by decide +kernel

theorem constraintsSwitchOff_celix (target : Target) : celix.ConstraintsSwitchOff target := by
  have h : ∀ constraint ∈ celix.constraints, constraint.value = false := by decide +kernel
  exact fun constraint hMem _ => h constraint hMem

theorem removalsRefused_celix : celix.RemovalsRefused := by decide +kernel

theorem removalsIsolated_celix : celix.RemovalsIsolated := by decide +kernel

theorem requirementsEnforced_celix : celix.RequirementsEnforced := by decide +kernel

theorem exclusionsOffByDefault_celix : celix.ExclusionsOffByDefault := by decide +kernel

/-- No rule switches on what some target does not have. -/
theorem notMem_constrained_celix {rule : Rule} {name : String} (hRule : rule ∈ celix.rules)
    (hMem : name ∈ rule.consequences) (target : Target) : name ∉ celix.constrained target := by
  have h : ∀ constraint ∈ celix.constraints, ∀ rule ∈ celix.rules,
      constraint.flag ∉ rule.consequences := by decide +kernel
  rintro ⟨constraint, hConstraint, -, rfl⟩
  exact h constraint hConstraint rule hRule hMem

end BuildOptions.Catalog
