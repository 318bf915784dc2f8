import BuildOptions.Proofs.Catalog.Celix
import BuildOptions.Proofs.Catalog.Console
import BuildOptions.Proofs.Overrides.Typing
import BuildOptions.Session
import Mathlib.Data.List.Basic

/-! What validation makes of a resolved request.  Where each constraint that switches a flag off has
a requirement beside it, no switch that was asked for is lost without a violation.  Where each
requirement has its constraints, the violations can be read off the request: what defaults, the
umbrella and the rules switch on causes none. -/

namespace BuildOptions.Catalog

variable {catalog : Catalog} {overrides : Overrides} {target : Target} {name : String}

theorem isRequested_resolve_iff :
    (catalog.resolve overrides target).isRequested name = true ↔
      overrides.get? name = some (.switch true) := by
  unfold Configuration.isRequested resolve
  cases overrides.get? name with
  | none => simp
  | some value => simp [FlagValue.isOn_iff]

theorem isOn_resolve_iff :
    (catalog.resolve overrides target).isOn name = true ↔
      name ∈ (catalog.resolve overrides target).onSet :=
  Iff.rfl

/-! ### Switches that were asked for -/

theorem mem_initiallyOn_of_requested (h : overrides.get? name = some (.switch true)) :
    name ∈ catalog.initiallyOn overrides := by
  refine .inl ?_
  rw [initialValue?, h, Option.some_or]

theorem target_eq_of_requested {requirement : PlatformRequirement}
    (hRequirement : requirement ∈ catalog.requirements)
    (hValid : catalog.violations (catalog.resolve overrides target) target = [])
    (hRequested : overrides.get? requirement.flag = some (.switch true)) :
    target = requirement.target := by
  simp only [violations, List.append_eq_nil_iff, List.filterMap_eq_nil_iff] at hValid
  have hNone := hValid.2 requirement hRequirement
  by_contra hOther
  have hAsked : (catalog.resolve overrides target).isRequested requirement.flag = true :=
    isRequested_resolve_iff.mpr hRequested
  simp [Configuration.platformViolation?, hAsked, hOther] at hNone

theorem mem_onSet_of_requested (hRefused : catalog.RemovalsRefused)
    (hValid : catalog.violations (catalog.resolve overrides target) target = [])
    (hRequested : overrides.get? name = some (.switch true)) :
    name ∈ (catalog.resolve overrides target).onSet := by
  by_contra hOff
  -- Only a constraint can have taken the switch away, and its requirement sees the request.
  have hOn : name ∈ (catalog.cascade overrides).onSet :=
    initiallyOn_subset_cascade (mem_initiallyOn_of_requested hRequested)
  obtain ⟨constraint, hLast, hValue⟩ := getLast?_of_notMem_resolve hOn hOff
  obtain ⟨hMem, hCovers, rfl⟩ := mem_constraintsOn_iff.mp (List.mem_of_getLast? hLast)
  obtain ⟨requirement, hRequirement, hFlag, hApart⟩ := hRefused constraint hMem hValue
  refine hApart target hCovers (target_eq_of_requested hRequirement hValid ?_)
  rw [hFlag, hRequested]

/-- Where every constraint that switches a flag off has a requirement beside it, as in the Celix
catalog, a configuration without violations has every switch on that was asked for. -/
theorem requested_switches_on :
    (∀ (catalog : Catalog) (overrides : Overrides) (target : Target), catalog.RemovalsRefused →
      catalog.violations (catalog.resolve overrides target) target = [] →
        ∀ name, overrides.get? name = some (.switch true) →
          (catalog.resolve overrides target).isOn name = true) ∧
    ∀ (overrides : Overrides) (target : Target),
      celix.violations (celix.resolve overrides target) target = [] →
        ∀ name, overrides.get? name = some (.switch true) →
          (celix.resolve overrides target).isOn name = true := by
  constructor
  · intro catalog overrides target hRefused hValid name hRequested
    exact isOn_resolve_iff.mpr (mem_onSet_of_requested hRefused hValid hRequested)
  · intro overrides target hValid name hRequested
    exact isOn_resolve_iff.mpr (mem_onSet_of_requested removalsRefused_celix hValid hRequested)

/-- Off Linux the log goes without a violation, since only a rule asks for it; the console stays. -/
theorem requested_switches_on_consoleRequest :
    console.RemovalsRefused ∧
      console.violations (console.resolve consoleRequest .macos) .macos = [] ∧
      consoleRequest.get? "with_console" = some (.switch true) ∧
      (console.resolve consoleRequest .macos).isOn "with_log" = false ∧
      (console.resolve consoleRequest .macos).isOn "with_console" = true := by
  have hRefused : console.RemovalsRefused := by decide
  have hValid : console.violations (console.resolve consoleRequest .macos) .macos = [] := by
    decide +kernel
  have hRequested : consoleRequest.get? "with_console" = some (.switch true) := by decide +kernel
  exact ⟨hRefused, hValid, hRequested, by decide +kernel,
    requested_switches_on.1 console consoleRequest .macos hRefused hValid _ hRequested⟩

/-! ### The violations of a request -/

/-- The violation of a scalar whose text, by override or else by default, breaks its rule. -/
def textViolation? (overrides : Overrides) (flag : Flag) : Option Violation :=
  match flag.shape with
  | .switch _ => none
  | .scalar initially rule =>
    let text := ((overrides.get? flag.name).bind FlagValue.text?).getD initially
    if rule.accepts text then none else some (.invalidValue flag.name text rule)

/-- The violation of a switch that is asked for where it is not allowed. -/
def switchViolation? (overrides : Overrides) (target : Target)
    (requirement : PlatformRequirement) : Option Violation :=
  if requirement.target ≠ target ∧ overrides.get? requirement.flag = some (.switch true) then
    some (.unsupportedPlatform requirement.flag requirement.target target)
  else none

/-- What is wrong with a request on a target: the target, then the scalars in the order of their
declaration, then the switches in the order of the requirements. -/
def requestViolations (catalog : Catalog) (overrides : Overrides) (target : Target) :
    List Violation :=
  (if target = .linux ∨ target = .macos then [] else [.unsupportedTarget target]) ++
    catalog.flags.filterMap (textViolation? overrides) ++
    catalog.requirements.filterMap (switchViolation? overrides target)

theorem targetViolation?_eq (target : Target) :
    (Configuration.targetViolation? target).toList =
      if target = .linux ∨ target = .macos then [] else [.unsupportedTarget target] := by
  cases target <;> rfl

theorem text_resolve (hAdmits : catalog.Admits overrides) {flag : Flag}
    (hFlag : flag ∈ catalog.flags) {initially : String} {rule : ScalarRule}
    (hShape : flag.shape = .scalar initially rule) :
    ((catalog.resolve overrides target).value? flag.name).bind FlagValue.text? =
      some (((overrides.get? flag.name).bind FlagValue.text?).getD initially) := by
  have hScalar : flag.kind = .scalar := by rw [Flag.kind, hShape]
  rw [value?_resolve_of_scalar hFlag hScalar, initialValue?]
  cases hGet : overrides.get? flag.name with
  | none =>
    rw [flag?_name hFlag, Option.none_or, Option.map_some, Flag.default, hShape]
    rfl
  | some value =>
    have hKind : value.kind = .scalar := by rw [(hAdmits.takes hGet).kind_eq hFlag, hScalar]
    cases value with
    | switch on => cases hKind
    | scalar text => rfl

theorem scalarViolation?_resolve (hAdmits : catalog.Admits overrides) {flag : Flag}
    (hFlag : flag ∈ catalog.flags) :
    (catalog.resolve overrides target).scalarViolation? flag = textViolation? overrides flag := by
  unfold Configuration.scalarViolation? textViolation? Flag.rule?
  cases hShape : flag.shape with
  | switch on => rfl
  | scalar initially rule =>
    simp only
    rw [text_resolve hAdmits hFlag hShape]

theorem platformViolation?_resolve (hEnforced : catalog.RequirementsEnforced)
    {requirement : PlatformRequirement} (hRequirement : requirement ∈ catalog.requirements) :
    (catalog.resolve overrides target).platformViolation? target requirement =
      switchViolation? overrides target requirement := by
  unfold Configuration.platformViolation? switchViolation?
  by_cases hTarget : target = requirement.target
  · simp [hTarget]
  · -- The last constraint leaves the switch off, so only the request is left to be judged.
    obtain ⟨constraint, hLast, hValue⟩ :=
      Option.map_eq_some_iff.mp (hEnforced requirement hRequirement target hTarget)
    have hOff : requirement.flag ∉ (catalog.resolve overrides target).onSet := by
      rw [Configuration.mem_onSet_iff, value?_resolve_of_getLast? hLast, hValue]
      simp
    have hIsOff : (catalog.resolve overrides target).isOn requirement.flag = false :=
      Settings.notMem_onSet_iff.mp hOff
    simp [hIsOff, hTarget, Ne.symm hTarget, isRequested_resolve_iff]

theorem violations_resolve (hEnforced : catalog.RequirementsEnforced)
    (hAdmits : catalog.Admits overrides) :
    catalog.violations (catalog.resolve overrides target) target =
      catalog.requestViolations overrides target := by
  unfold violations requestViolations
  rw [targetViolation?_eq,
    List.filterMap_congr fun flag hFlag => scalarViolation?_resolve hAdmits hFlag,
    List.filterMap_congr fun requirement hMem => platformViolation?_resolve hEnforced hMem]

theorem requested_of_unsupportedPlatform {flag : String} {required other : Target}
    (h : .unsupportedPlatform flag required other ∈ catalog.requestViolations overrides target) :
    overrides.get? flag = some (.switch true) := by
  simp only [requestViolations, List.mem_append, List.mem_filterMap] at h
  rcases h with (hTarget | ⟨declared, -, hText⟩) | ⟨requirement, -, hSwitch⟩
  · split at hTarget <;> simp at hTarget
  · unfold textViolation? at hText
    split at hText
    · cases hText
    · simp only at hText
      split at hText <;> cases hText
  · unfold switchViolation? at hSwitch
    split at hSwitch
    · rename_i hAsked
      cases hSwitch
      exact hAsked.2
    · cases hSwitch

theorem resolveValid_eq (session : Session) {found : List Violation}
    (h : catalog.violations (session.resolve catalog) session.target = found) :
    session.resolveValid catalog =
      if found = [] then .ok (session.resolve catalog) else .error (.rejected found) := by
  unfold Session.resolveValid
  simp only [h]
  cases found with
  | nil => rfl
  | cons first rest => simp

/-- Where every requirement has its constraints, as in the Celix catalog, the violations of a
resolved request are those of the request itself, in their order.  A session is accepted exactly
when there are none, and a switch that was not asked for is the cause of none. -/
theorem verdict_of_request :
    celix.RequirementsEnforced ∧
    ∀ (catalog : Catalog) (overrides : Overrides) (target : Target),
      catalog.RequirementsEnforced → catalog.Admits overrides →
        catalog.violations (catalog.resolve overrides target) target =
          catalog.requestViolations overrides target ∧
        (∀ version, Session.resolveValid catalog ⟨overrides, target, version⟩ =
          if catalog.requestViolations overrides target = [] then
            .ok (catalog.resolve overrides target)
          else .error (.rejected (catalog.requestViolations overrides target))) ∧
        ∀ flag required other,
          .unsupportedPlatform flag required other ∈
              catalog.violations (catalog.resolve overrides target) target →
            overrides.get? flag = some (.switch true) := by
  refine ⟨requirementsEnforced_celix, fun catalog overrides target hEnforced hAdmits => ?_⟩
  have hSame : catalog.violations (catalog.resolve overrides target) target =
      catalog.requestViolations overrides target := violations_resolve hEnforced hAdmits
  refine ⟨hSame, fun version => resolveValid_eq ⟨overrides, target, version⟩ hSame, ?_⟩
  intro flag required other hMem
  rw [hSame] at hMem
  exact requested_of_unsupportedPlatform hMem

/-- On Windows all three parts of the refused request are reported, one of each kind. -/
theorem verdict_of_request_refusedRequest :
    console.RequirementsEnforced ∧ console.Admits refusedRequest ∧
      console.violations (console.resolve refusedRequest .windows) .windows =
        [.unsupportedTarget .windows, .invalidValue "log_size" "large" .positiveInteger,
          .unsupportedPlatform "with_log" .linux .windows] := by
  have hEnforced : console.RequirementsEnforced := by decide
  have hAdmits : console.Admits refusedRequest := by decide +kernel
  refine ⟨hEnforced, hAdmits, ?_⟩
  rw [(verdict_of_request.2 console refusedRequest .windows hEnforced hAdmits).1]
  decide +kernel

end BuildOptions.Catalog
