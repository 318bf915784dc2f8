import BuildOptions.Proofs.Resolution.Positions

/-! The pass over the rules position by position.  A flag that the pass switches on is switched on
by the first rule to fire with the flag among its consequences, and keeps the origin it gets. -/

namespace BuildOptions.Catalog

section Positions

variable (catalog : Catalog) (overrides : Overrides)

/-- The settings in which the rule at a position is read. -/
def stateAt (position : Nat) : Settings :=
  (catalog.start overrides).readAt catalog.rules position

/-- Of the rules that fire, the one at the position is the first with the flag among its
consequences. -/
structure FirstToForce (name : String) (position : Nat) (rule : Rule) : Prop where
  fires : (catalog.start overrides).Fires catalog.rules position rule
  forces : name ∈ rule.consequences
  first : ∀ earlier < position, ∀ other,
    (catalog.start overrides).Fires catalog.rules earlier other → name ∉ other.consequences

end Positions

variable {catalog : Catalog} {overrides : Overrides} {name : String} {position : Nat} {rule : Rule}

/-! ### From one position to the next -/

theorem cascade_eq_stateAt_length :
    catalog.cascade overrides = catalog.stateAt overrides catalog.rules.length :=
  Settings.readAt_length.symm

theorem cascade_eq_applyRules_drop (position : Nat) :
    catalog.cascade overrides =
      (catalog.stateAt overrides position).applyRules (catalog.rules.drop position) :=
  Settings.applyRules_eq_applyRules_drop position

/-- A rule that fires with a flag that is still off is the first to force it. -/
theorem firstToForce_of_fires
    (h : (catalog.start overrides).Fires catalog.rules position rule)
    (hMem : name ∈ rule.consequences) (hOff : name ∉ (catalog.stateAt overrides position).onSet) :
    catalog.FirstToForce overrides name position rule where
  fires := h
  forces := hMem
  first := by
    intro earlier hEarlier other hFires hForced
    exact hOff (hFires.mem_onSet hForced hEarlier)

/-- One position changes a flag only by switching it on, and then for the rule that stands there. -/
theorem get?_stateAt_succ_cases (position : Nat) (name : String) :
    (catalog.stateAt overrides (position + 1)).get? name =
        (catalog.stateAt overrides position).get? name ∨
      name ∉ (catalog.stateAt overrides position).onSet ∧
        ∃ rule, catalog.FirstToForce overrides name position rule ∧
          (catalog.stateAt overrides (position + 1)).get? name =
            some ⟨.switch true, .implied rule.name⟩ := by
  cases hRule : catalog.rules[position]? with
  | none => exact .inl (by rw [stateAt, Settings.readAt_succ_of_none hRule, stateAt])
  | some rule =>
    rw [stateAt, Settings.readAt_succ hRule]
    rcases Settings.get?_applyRule_cases (catalog.stateAt overrides position) rule name with
      hSame | ⟨hOff, hHolds, hMem, hGet⟩
    · exact .inl hSame
    · exact .inr ⟨hOff, rule, firstToForce_of_fires ⟨hRule, hHolds⟩ hMem hOff, hGet⟩

/-! ### The whole pass -/

/-- At a position a flag has the setting it started with, or it was off then and an earlier rule was
the first to force it. -/
theorem get?_stateAt_cases (position : Nat) (name : String) :
    (catalog.stateAt overrides position).get? name = (catalog.start overrides).get? name ∨
      name ∉ catalog.initiallyOn overrides ∧
        ∃ earlier < position, ∃ rule, catalog.FirstToForce overrides name earlier rule ∧
          (catalog.stateAt overrides position).get? name =
            some ⟨.switch true, .implied rule.name⟩ := by
  induction position with
  | zero => exact .inl rfl
  | succ position ih =>
    rcases get?_stateAt_succ_cases position name with hSame | ⟨hOff, rule, hFirst, hGet⟩
    · rcases ih with hStart | ⟨hInitial, earlier, hEarlier, rule, hFirst, hGet⟩
      · exact .inl (hSame.trans hStart)
      · exact .inr ⟨hInitial, earlier, Nat.lt_succ_of_lt hEarlier, rule, hFirst, hSame.trans hGet⟩
    · -- The flag was off up to here, so it cannot have been on at the start.
      refine .inr ⟨fun hInitial => hOff ?_, position, Nat.lt_succ_self position, rule, hFirst, hGet⟩
      rw [← onSet_start] at hInitial
      exact Settings.onSet_readAt_mono (Nat.zero_le position) hInitial

/-- A flag has a rule for its origin only if the rule was the first to force the flag. -/
theorem firstToForce_of_implied {setting : Setting} {ruleName : String}
    (hGet : (catalog.stateAt overrides position).get? name = some setting)
    (hImplied : setting.origin = .implied ruleName) :
    name ∉ catalog.initiallyOn overrides ∧
      ∃ earlier < position, ∃ rule, rule.name = ruleName ∧
        catalog.FirstToForce overrides name earlier rule := by
  rcases get?_stateAt_cases position name with
    hStart | ⟨hOff, earlier, hEarlier, rule, hFirst, hSwitched⟩
  · rw [hStart] at hGet
    exact absurd hImplied (origin_start_ne_implied hGet ruleName)
  · rw [hSwitched] at hGet
    cases hGet
    cases hImplied
    exact ⟨hOff, earlier, hEarlier, rule, rfl, hFirst⟩

/-- The constraints give no flag a rule for its origin. -/
theorem get?_cascade_of_implied {target : Target} {setting : Setting} {ruleName : String}
    (hGet : (catalog.resolve overrides target).settings.get? name = some setting)
    (hImplied : setting.origin = .implied ruleName) :
    (catalog.cascade overrides).get? name = some setting := by
  rcases get?_resolve_cases catalog overrides target name with
    hSame | ⟨constraint, -, -, -, hForced⟩
  · rw [← hSame, hGet]
  · rw [hForced] at hGet
    cases hGet
    cases hImplied

theorem onSet_stateAt_subset_cascade :
    (catalog.stateAt overrides position).onSet ⊆ (catalog.cascade overrides).onSet := by
  rw [cascade_eq_applyRules_drop position]
  exact Settings.onSet_subset_applyRules

theorem get?_cascade_of_mem_stateAt (h : name ∈ (catalog.stateAt overrides position).onSet) :
    (catalog.cascade overrides).get? name = (catalog.stateAt overrides position).get? name := by
  rw [cascade_eq_applyRules_drop position]
  exact Settings.get?_applyRules_of_mem h

end BuildOptions.Catalog
