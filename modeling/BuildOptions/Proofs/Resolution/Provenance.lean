import BuildOptions.Proofs.Catalog.Console
import BuildOptions.Proofs.Resolution.Firing
import BuildOptions.Report.Resolution

/-! Origins.  The origin of a setting tells why the flag has its value, and explanations by rules do
not go in circles: what made a rule fire was explained before the rule. -/

namespace BuildOptions.Catalog

section Explanations

variable (catalog : Catalog) (overrides : Overrides) (target : Target)

/-- The final origin of the flag is no rule, or a rule at an earlier position that was the first to
force the flag. -/
def ExplainedBefore (position : Nat) (name : String) : Prop :=
  ∃ origin, (catalog.resolve overrides target).origin? name = some origin ∧
    ∀ ruleName, origin = .implied ruleName →
      ∃ earlier < position, ∃ rule, rule.name = ruleName ∧
        catalog.FirstToForce overrides name earlier rule

/-- The origin is a reason for the flag to have the value. -/
inductive Explains (flag : Flag) : FlagValue → Origin → Prop where
  | default (hFree : overrides.get? flag.name = none) : Explains flag flag.default .default
  | explicit {value : FlagValue} (hGet : overrides.get? flag.name = some value) :
      Explains flag value .explicit
  | bulk (hRequested : catalog.UmbrellaRequested overrides)
      (hFeature : catalog.isFeature flag = true)
      (hInitial : catalog.initialValue? overrides flag.name ≠ some (.switch true)) :
      Explains flag (.switch true) .bulk
  | implied {position : Nat} {rule : Rule} (hOff : flag.name ∉ catalog.initiallyOn overrides)
      (hFirst : catalog.FirstToForce overrides flag.name position rule)
      (hTrigger : ∀ name ∈ rule.trigger.flags,
        name ∈ (catalog.stateAt overrides position).onSet →
          catalog.ExplainedBefore overrides target position name) :
      Explains flag (.switch true) (.implied rule.name)
  | platform {constraint : PlatformConstraint} (hConstraint : constraint ∈ catalog.constraints)
      (hCovers : constraint.scope.covers target = true) (hFlag : constraint.flag = flag.name) :
      Explains flag (.switch constraint.value) (.platform constraint.name)

end Explanations

variable {catalog : Catalog} {overrides : Overrides} {target : Target} {flag : Flag}

theorem explainedBefore_of_get? {position : Nat} {name : String} {setting : Setting}
    (hGet : (catalog.resolve overrides target).settings.get? name = some setting)
    (hImplied : ∀ ruleName, setting.origin = .implied ruleName →
      ∃ earlier < position, ∃ rule, rule.name = ruleName ∧
        catalog.FirstToForce overrides name earlier rule) :
    catalog.ExplainedBefore overrides target position name := by
  refine ⟨setting.origin, ?_, hImplied⟩
  rw [Configuration.origin?, hGet, Option.map_some]

/-- A flag that is on when a rule is read was switched on before the rule, and only a constraint
gives it another origin later. -/
theorem explainedBefore_of_mem_stateAt {position : Nat} (hFlag : flag ∈ catalog.flags)
    (hOn : flag.name ∈ (catalog.stateAt overrides position).onSet) :
    catalog.ExplainedBefore overrides target position flag.name := by
  obtain ⟨setting, hGet⟩ := get?_resolve_isSome overrides target hFlag
  refine explainedBefore_of_get? hGet fun ruleName hImplied => ?_
  have hCascade := get?_cascade_of_implied hGet hImplied
  rw [get?_cascade_of_mem_stateAt hOn] at hCascade
  exact (firstToForce_of_implied hCascade hImplied).2

theorem explains_cascade (overrides : Overrides) (target : Target) (hFlag : flag ∈ catalog.flags) :
    ∃ setting, (catalog.cascade overrides).get? flag.name = some setting ∧
      catalog.Explains overrides target flag setting.value setting.origin := by
  rw [cascade_eq_stateAt_length]
  rcases get?_stateAt_cases catalog.rules.length flag.name with
    hStart | ⟨hOff, position, -, rule, hFirst, hGet⟩
  · rw [hStart]
    rcases get?_start_cases hFlag with
      ⟨hFree, hGet⟩ | ⟨value, hOverride, hGet⟩ | ⟨hRequested, hFeature, hInitial, hGet⟩
    · exact ⟨_, hGet, .default hFree⟩
    · exact ⟨_, hGet, .explicit hOverride⟩
    · exact ⟨_, hGet, .bulk hRequested hFeature hInitial⟩
  · refine ⟨_, hGet, .implied hOff hFirst fun name hName hOn => ?_⟩
    have hRule : rule ∈ catalog.rules := List.mem_of_getElem? hFirst.fires.1
    obtain ⟨trigger, hTrigger, rfl, -⟩ := catalog.tables_consistent.triggers rule hRule name hName
    exact explainedBefore_of_mem_stateAt hTrigger hOn

theorem explains_resolve (overrides : Overrides) (target : Target) (hFlag : flag ∈ catalog.flags) :
    ∃ setting, (catalog.resolve overrides target).settings.get? flag.name = some setting ∧
      catalog.Explains overrides target flag setting.value setting.origin := by
  rcases get?_resolve_cases catalog overrides target flag.name with
    hSame | ⟨constraint, hMem, hCovers, hName, hGet⟩
  · obtain ⟨setting, hGet, hExplains⟩ := explains_cascade overrides target hFlag
    exact ⟨setting, hSame.trans hGet, hExplains⟩
  · exact ⟨_, hGet, .platform hMem hCovers hName⟩

namespace Explains

variable {value : FlagValue} {origin : Origin}

/-- Only a constraint takes away what was on at first. -/
theorem platform_of_ne (h : catalog.Explains overrides target flag value origin)
    (hFlag : flag ∈ catalog.flags)
    (hOn : catalog.initialValue? overrides flag.name = some (.switch true))
    (hOff : value ≠ .switch true) : ∃ constraintName, origin = .platform constraintName := by
  unfold initialValue? at hOn
  cases h with
  | default hFree =>
    rw [hFree, flag?_name hFlag] at hOn
    exact absurd (Option.some.inj hOn) hOff
  | explicit hGet =>
    rw [hGet] at hOn
    exact absurd (Option.some.inj hOn) hOff
  | bulk => exact absurd rfl hOff
  | implied => exact absurd rfl hOff
  | platform => exact ⟨_, rfl⟩

theorem origin_ne_default (h : catalog.Explains overrides target flag value origin)
    (hValue : value ≠ flag.default) : origin ≠ .default := by
  rintro rfl
  cases h with
  | default => exact hValue rfl

end Explains

/-- Every declared flag has a setting whose origin is the reason for its value.  So a flag that is
on by request or by default is lost to a constraint only, and a report on changes shows every flag
whose value is not its default. -/
theorem setting_explained (overrides : Overrides) (target : Target) (hFlag : flag ∈ catalog.flags) :
    ∃ setting, (catalog.resolve overrides target).settings.get? flag.name = some setting ∧
      catalog.Explains overrides target flag setting.value setting.origin ∧
      (catalog.initialValue? overrides flag.name = some (.switch true) →
        setting.value ≠ .switch true → ∃ name, setting.origin = .platform name) ∧
      (setting.value ≠ flag.default → ∀ view,
        (flag.name, setting) ∈ Report.visible (catalog.resolve overrides target) view) := by
  obtain ⟨setting, hGet, hExplains⟩ := explains_resolve overrides target hFlag
  refine ⟨setting, hGet, hExplains, hExplains.platform_of_ne hFlag, fun hValue view => ?_⟩
  have hOrigin : setting.origin ≠ .default := hExplains.origin_ne_default hValue
  rw [Report.visible, List.mem_filter]
  refine ⟨(NameMap.get?_eq_some_iff_mem _).mp hGet, ?_⟩
  simp [hOrigin]

/-- The shell is refused in the request and on all the same, since the console asks for it. -/
theorem setting_explained_consoleRequest :
    (⟨"with_shell", .switch false⟩ : Flag) ∈ console.flags ∧
      (console.resolve consoleRequest .macos).settings.get? "with_shell" =
        some ⟨.switch true, .implied "console"⟩ ∧
      console.Explains consoleRequest .macos ⟨"with_shell", .switch false⟩ (.switch true)
        (.implied "console") ∧
      ∀ view, ("with_shell", ⟨.switch true, .implied "console"⟩) ∈
        Report.visible (console.resolve consoleRequest .macos) view := by
  have hFlag : (⟨"with_shell", .switch false⟩ : Flag) ∈ console.flags := by decide
  have hShell : (console.resolve consoleRequest .macos).settings.get? "with_shell" =
      some ⟨.switch true, .implied "console"⟩ := by decide +kernel
  obtain ⟨setting, hGet, hExplains, -, hVisible⟩ := setting_explained consoleRequest .macos hFlag
  obtain rfl : setting = ⟨.switch true, .implied "console"⟩ :=
    Option.some.inj (hGet.symm.trans hShell)
  exact ⟨hFlag, hShell, hExplains, hVisible (by decide)⟩

end BuildOptions.Catalog
