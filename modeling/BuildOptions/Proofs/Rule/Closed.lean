import BuildOptions.Rule
import Mathlib.Data.Set.Basic

/-! Sets of switches and what rules ask of them: a set satisfies a rule if the rule's consequences
are in it whenever the trigger holds in it, and is closed under rules if it satisfies each.  A
hazard is a flag that a rule reads and a later rule switches on. -/

namespace BuildOptions

/-- The trigger holds when exactly the switches in `on` are on. -/
def Trigger.HoldsIn (on : Set String) : Trigger → Prop
  | any flags => ∃ flag ∈ flags, flag ∈ on
  | all flags => ∀ flag ∈ flags, flag ∈ on

/-- If the trigger holds, all consequences are on. -/
def Rule.Satisfied (rule : Rule) (on : Set String) : Prop :=
  rule.trigger.HoldsIn on → ∀ flag ∈ rule.consequences, flag ∈ on

/-- Every rule is satisfied. -/
def ClosedUnder (rules : List Rule) (on : Set String) : Prop := ∀ rule ∈ rules, rule.Satisfied on

namespace Trigger

theorem holds_iff_holdsIn {isOn : String → Bool} {trigger : Trigger} :
    trigger.holds isOn = true ↔ trigger.HoldsIn {flag | isOn flag = true} := by
  cases trigger with
  | any flags => exact List.any_eq_true
  | all flags => exact List.all_eq_true

theorem HoldsIn.of_flags {on on' : Set String} {trigger : Trigger}
    (h : ∀ flag ∈ trigger.flags, flag ∈ on → flag ∈ on') (hHolds : trigger.HoldsIn on) :
    trigger.HoldsIn on' := by
  cases trigger with
  | any flags =>
    obtain ⟨flag, hFlag, hOn⟩ := hHolds
    exact ⟨flag, hFlag, h flag hFlag hOn⟩
  | all flags => exact fun flag hFlag => h flag hFlag (hHolds flag hFlag)

/-- A trigger that comes to hold reads a flag that came on. -/
theorem exists_mem_of_not_holdsIn {on on' : Set String} {trigger : Trigger}
    (hNot : ¬trigger.HoldsIn on) (hHolds : trigger.HoldsIn on') :
    ∃ flag ∈ trigger.flags, flag ∉ on ∧ flag ∈ on' := by
  by_contra hNone
  refine hNot (hHolds.of_flags fun flag hFlag hOn => ?_)
  by_contra hOff
  exact hNone ⟨flag, hFlag, hOff, hOn⟩

theorem HoldsIn.mono {on on' : Set String} (h : on ⊆ on') {trigger : Trigger}
    (hHolds : trigger.HoldsIn on) : trigger.HoldsIn on' :=
  hHolds.of_flags fun _ _ hOn => h hOn

end Trigger

theorem Rule.mem_hazards_iff {rule : Rule} {later : List Rule} {hazard : Hazard} :
    hazard ∈ rule.hazards later ↔
      ∃ flag ∈ rule.trigger.flags, ∃ l ∈ later, flag ∈ l.consequences ∧
        ⟨rule.name, flag, l.name⟩ = hazard := by
  simp only [hazards, List.mem_flatMap, List.mem_map, List.mem_filter, List.contains_iff_mem,
    and_assoc]

/-- The hazards are the flags that a rule reads and a rule at a later position switches on. -/
theorem mem_orderHazards_iff {rules : List Rule} {hazard : Hazard} :
    hazard ∈ orderHazards rules ↔
      ∃ (i j : Nat) (rule later : Rule), i < j ∧ rules[i]? = some rule ∧ rules[j]? = some later ∧
        ∃ flag ∈ rule.trigger.flags, flag ∈ later.consequences ∧
          ⟨rule.name, flag, later.name⟩ = hazard := by
  induction rules with
  | nil => simp [orderHazards]
  | cons first rest ih =>
    rw [orderHazards, List.mem_append, Rule.mem_hazards_iff, ih]
    constructor
    · rintro (⟨flag, hRead, later, hLater, hHazard⟩ | ⟨i, j, rule, later, hLt, hRule, hLater, h⟩)
      · obtain ⟨j, hj⟩ := List.mem_iff_getElem?.mp hLater
        exact ⟨0, j + 1, first, later, j.succ_pos, rfl, hj, flag, hRead, hHazard⟩
      · exact ⟨i + 1, j + 1, rule, later, Nat.succ_lt_succ hLt, hRule, hLater, h⟩
    · rintro ⟨i, j, rule, later, hLt, hRule, hLater, flag, hRead, hHazard⟩
      cases j with
      | zero => exact absurd hLt i.not_lt_zero
      | succ j =>
        rw [List.getElem?_cons_succ] at hLater
        cases i with
        | zero =>
          cases hRule
          exact .inl ⟨flag, hRead, later, List.mem_of_getElem? hLater, hHazard⟩
        | succ i =>
          rw [List.getElem?_cons_succ] at hRule
          exact .inr ⟨i, j, rule, later, Nat.lt_of_succ_lt_succ hLt, hRule, hLater, flag, hRead,
            hHazard⟩

end BuildOptions
