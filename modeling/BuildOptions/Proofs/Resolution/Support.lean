import BuildOptions.Proofs.Resolution.Firing
import BuildOptions.Proofs.Resolution.Stability
import BuildOptions.Proofs.Validation.Requests

/-! What holds implied flags up.  A constraint takes a switch away and leaves what rules made of it,
so a flag may stay on for a rule whose trigger is gone.  In a configuration without violations that
does not happen where the removals are isolated: a switch that is lost was on for the umbrella only,
and then what its rules switch on was on for the umbrella too. -/

namespace BuildOptions.Catalog

variable {catalog : Catalog} {overrides : Overrides} {target : Target} {name ruleName : String}

theorem exists_firstToForce_of_implied
    (h : (catalog.resolve overrides target).origin? name = some (.implied ruleName)) :
    ∃ position rule, rule.name = ruleName ∧
      catalog.FirstToForce overrides name position rule ∧ name ∉ catalog.initiallyOn overrides := by
  obtain ⟨setting, hGet, hImplied⟩ := Option.map_eq_some_iff.mp h
  have hCascade := get?_cascade_of_implied hGet hImplied
  rw [cascade_eq_stateAt_length] at hCascade
  obtain ⟨hOff, position, -, rule, hName, hFirst⟩ := firstToForce_of_implied hCascade hImplied
  exact ⟨position, rule, hName, hFirst, hOff⟩

/-- What only the rules switched on has a rule for its origin, where no constraint names it. -/
theorem exists_implied_of_mem_cascade (hOff : name ∉ catalog.initiallyOn overrides)
    (hOn : name ∈ (catalog.cascade overrides).onSet) (hFree : name ∉ catalog.constrained target) :
    ∃ ruleName, (catalog.resolve overrides target).origin? name = some (.implied ruleName) := by
  have hChanged : (catalog.cascade overrides).get? name ≠ (catalog.start overrides).get? name := by
    intro hSame
    rw [← onSet_start, Settings.mem_onSet_iff, Settings.value?, ← hSame] at hOff
    exact hOff (Settings.mem_onSet_iff.mp hOn)
  rw [cascade_eq_stateAt_length] at hChanged
  rcases get?_stateAt_cases catalog.rules.length name with hStart | ⟨-, -, -, rule, -, hGet⟩
  · exact absurd hStart hChanged
  · rw [Configuration.origin?, get?_resolve_of_notMem hFree, cascade_eq_stateAt_length, hGet]
    exact ⟨rule.name, rfl⟩

section Accepted

variable (hIsolated : catalog.RemovalsIsolated) (hRefused : catalog.RemovalsRefused)
  (hValid : catalog.violations (catalog.resolve overrides target) target = [])
include hIsolated hRefused hValid

/-- If a switch was on after the rules and is lost, the umbrella was requested and whatever the
rules that read the switch force is a feature flag. -/
theorem initiallyOn_of_removed {flag : String} {rule : Rule}
    (hOn : flag ∈ (catalog.cascade overrides).onSet)
    (hGone : flag ∉ (catalog.resolve overrides target).onSet) (hRule : rule ∈ catalog.rules)
    (hRead : flag ∈ rule.trigger.flags) (hForced : name ∈ rule.consequences) :
    name ∈ catalog.initiallyOn overrides := by
  obtain ⟨constraint, hLast, hValue⟩ := getLast?_of_notMem_resolve hOn hGone
  obtain ⟨hConstraint, -, rfl⟩ := mem_constraintsOn_iff.mp (List.mem_of_getLast? hLast)
  obtain ⟨hDefault, hRules⟩ := hIsolated constraint hConstraint hValue
  have hStart : constraint.flag ∈ catalog.initiallyOn overrides :=
    initiallyOn_of_mem_cascade (fun other hOther => (hRules other hOther).1) hOn
  rcases hStart with hInitial | ⟨hUmbrella, -⟩
  · have hRequested := requested_of_initialValue?_on hDefault hInitial
    exact absurd (mem_onSet_of_requested hRefused hValid hRequested) hGone
  · obtain ⟨feature, hMem, hName, hFeature⟩ := (hRules rule hRule).2 hRead name hForced
    exact .inr ⟨hUmbrella, feature, hMem, hFeature, hName⟩

theorem holdsIn_resolve_of_firstToForce {position : Nat} {rule : Rule}
    (hFirst : catalog.FirstToForce overrides name position rule)
    (hOff : name ∉ catalog.initiallyOn overrides) :
    rule.trigger.HoldsIn (catalog.resolve overrides target).onSet := by
  have hRule : rule ∈ catalog.rules := List.mem_of_getElem? hFirst.fires.1
  refine hFirst.fires.2.of_flags fun flag hRead hOn => ?_
  by_contra hGone
  -- What is read and lost makes the flag a feature that was on at first, so no rule switched it on.
  exact hOff (initiallyOn_of_removed hIsolated hRefused hValid (onSet_stateAt_subset_cascade hOn)
    hGone hRule hRead hFirst.forces)

theorem exists_rule_of_implied
    (h : (catalog.resolve overrides target).origin? name = some (.implied ruleName)) :
    ∃ rule ∈ catalog.rules, rule.name = ruleName ∧ name ∈ rule.consequences ∧
      rule.trigger.HoldsIn (catalog.resolve overrides target).onSet := by
  obtain ⟨position, rule, hName, hFirst, hOff⟩ := exists_firstToForce_of_implied h
  exact ⟨rule, List.mem_of_getElem? hFirst.fires.1, hName, hFirst.forces,
    holdsIn_resolve_of_firstToForce hIsolated hRefused hValid hFirst hOff⟩

end Accepted

/-- In a configuration without violations, every flag that is on because of a rule has that rule to
hold it up: the flag is among the rule's consequences, and the rule's trigger still holds after the
constraints.  This asks that removals are isolated and refused to those who request the switch, as
they are in the Celix catalog. -/
theorem implied_flags_supported :
    (∀ (catalog : Catalog) (overrides : Overrides) (target : Target),
      catalog.RemovalsIsolated → catalog.RemovalsRefused →
        catalog.violations (catalog.resolve overrides target) target = [] →
          ∀ name ruleName,
            (catalog.resolve overrides target).origin? name = some (.implied ruleName) →
              ∃ rule ∈ catalog.rules, rule.name = ruleName ∧ name ∈ rule.consequences ∧
                rule.trigger.HoldsIn (catalog.resolve overrides target).onSet) ∧
    ∀ (overrides : Overrides) (target : Target),
      celix.violations (celix.resolve overrides target) target = [] →
        ∀ name ruleName,
          (celix.resolve overrides target).origin? name = some (.implied ruleName) →
            ∃ rule ∈ celix.rules, rule.name = ruleName ∧ name ∈ rule.consequences ∧
              rule.trigger.HoldsIn (celix.resolve overrides target).onSet := by
  constructor
  · intro catalog overrides target hIsolated hRefused hValid name ruleName hOrigin
    exact exists_rule_of_implied hIsolated hRefused hValid hOrigin
  · intro overrides target hValid name ruleName hOrigin
    exact exists_rule_of_implied removalsIsolated_celix removalsRefused_celix hValid hOrigin

/-- All features are asked for at once. -/
def bulkRequest : Overrides := .ofList [("build_all", .switch true)]

theorem mem_initiallyOn_bulkRequest (flag : Flag) (hFlag : flag ∈ celix.flags)
    (hFeature : celix.isFeature flag = true) : flag.name ∈ celix.initiallyOn bulkRequest := by
  have hUmbrella : celix.UmbrellaRequested bulkRequest := ⟨"build_all", rfl, by decide⟩
  exact .inr ⟨hUmbrella, flag, hFlag, hFeature, rfl⟩

theorem exists_implied_bulkRequest :
    ∃ ruleName, (celix.resolve bulkRequest .macos).origin? "celix_install_deprecated_api" =
      some (.implied ruleName) := by
  have hRule : (⟨"pubsub", .any ["build_pubsub"], ["build_framework", "build_celix_dfi",
      "build_shell_api", "build_log_helper", "celix_install_deprecated_api"]⟩ : Rule) ∈
      celix.rules := by decide
  have hPubsub : "build_pubsub" ∈ (celix.cascade bulkRequest).onSet :=
    initiallyOn_subset_cascade
      (mem_initiallyOn_bulkRequest (Celix.off "build_pubsub") (by decide) (by decide))
  refine exists_implied_of_mem_cascade ?_ ?_ (by decide)
  · rintro (hInitial | ⟨-, flag, hFlag, hFeature, hName⟩)
    · exact absurd hInitial (by decide)
    · obtain rfl : flag = Celix.off "celix_install_deprecated_api" :=
        eq_of_name_eq hFlag (by decide) hName
      exact absurd hFeature (by decide)
  · exact closedUnder_cascade hazards_celix _ hRule ⟨_, List.mem_singleton_self _, hPubsub⟩ _
      (by decide)

/-- On macOS the bonjour shell is lost without a violation, and what rules switched on has its rule
all the same. -/
theorem implied_flags_supported_bulkRequest :
    celix.RemovalsIsolated ∧ celix.RemovalsRefused ∧
      celix.violations (celix.resolve bulkRequest .macos) .macos = [] ∧
      "build_shell_bonjour" ∈ (celix.cascade bulkRequest).onSet ∧
      "build_shell_bonjour" ∉ (celix.resolve bulkRequest .macos).onSet ∧
      ∃ ruleName, (celix.resolve bulkRequest .macos).origin? "celix_install_deprecated_api" =
          some (.implied ruleName) ∧
        ∃ rule ∈ celix.rules, rule.name = ruleName ∧
          "celix_install_deprecated_api" ∈ rule.consequences ∧
          rule.trigger.HoldsIn (celix.resolve bulkRequest .macos).onSet := by
  have hAdmits : celix.Admits bulkRequest := by decide
  have hValid : celix.violations (celix.resolve bulkRequest .macos) .macos = [] := by
    rw [violations_resolve requirementsEnforced_celix hAdmits]
    decide
  have hBonjour : "build_shell_bonjour" ∈ (celix.cascade bulkRequest).onSet :=
    initiallyOn_subset_cascade
      (mem_initiallyOn_bulkRequest (Celix.off "build_shell_bonjour") (by decide) (by decide))
  have hLost : "build_shell_bonjour" ∉ (celix.resolve bulkRequest .macos).onSet := by
    rw [Configuration.mem_onSet_iff,
      value?_resolve_of_mem (constraintsSwitchOff_celix .macos) (by decide)]
    simp
  obtain ⟨ruleName, hOrigin⟩ := exists_implied_bulkRequest
  exact ⟨removalsIsolated_celix, removalsRefused_celix, hValid, hBonjour, hLost, ruleName, hOrigin,
    implied_flags_supported.1 celix bulkRequest .macos removalsIsolated_celix
      removalsRefused_celix hValid _ _ hOrigin⟩

end BuildOptions.Catalog
