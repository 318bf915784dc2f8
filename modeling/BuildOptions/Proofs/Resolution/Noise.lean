import BuildOptions.Proofs.Catalog.Celix
import BuildOptions.Proofs.Identity.CanonicalText

/-! Noise: flags that do not count for the identity and that nothing reads, neither a rule nor the
umbrella.  Each step of resolution keeps two settings in agreement outside the noise, so requests
that differ in noise alone lead to the same settings outside it and to the same identity. -/

namespace BuildOptions

namespace Settings

variable {noise : Set String} {a b : Settings} {name : String}

/-- The settings of the flags outside a set are the same. -/
def AgreeOutside (noise : Set String) (a b : Settings) : Prop :=
  ∀ name ∉ noise, a.get? name = b.get? name

namespace AgreeOutside

theorem value? (h : AgreeOutside noise a b) (hName : name ∉ noise) :
    a.value? name = b.value? name := by
  rw [Settings.value?, Settings.value?, h name hName]

theorem isOn (h : AgreeOutside noise a b) (hName : name ∉ noise) : a.isOn name = b.isOn name := by
  rw [isOn_eq_decide, isOn_eq_decide, h.value? hName]

theorem switchOnAll (h : AgreeOutside noise a b) (names : List String) (origin : Origin) :
    AgreeOutside noise (a.switchOnAll names origin) (b.switchOnAll names origin) := by
  intro name hName
  rw [get?_switchOnAll, get?_switchOnAll, h.isOn hName, h name hName]

theorem applyRule (h : AgreeOutside noise a b) {rule : Rule}
    (hUnread : ∀ flag ∈ rule.trigger.flags, flag ∉ noise) :
    AgreeOutside noise (a.applyRule rule) (b.applyRule rule) := by
  -- The rule fires in both or in neither.
  have hHolds : rule.trigger.holds a.isOn = rule.trigger.holds b.isOn :=
    Trigger.holds_congr fun flag hFlag => h.isOn (hUnread flag hFlag)
  intro name hName
  rw [get?_applyRule, get?_applyRule, hHolds, h.isOn hName, h name hName]

theorem applyRules (h : AgreeOutside noise a b) {rules : List Rule}
    (hUnread : ∀ rule ∈ rules, ∀ flag ∈ rule.trigger.flags, flag ∉ noise) :
    AgreeOutside noise (a.applyRules rules) (b.applyRules rules) := by
  induction rules generalizing a b with
  | nil => exact h
  | cons rule rest ih =>
    obtain ⟨hRule, hRest⟩ := List.forall_mem_cons.mp hUnread
    exact ih (h.applyRule hRule) hRest

theorem applyConstraint (h : AgreeOutside noise a b) (constraint : PlatformConstraint) :
    AgreeOutside noise (a.applyConstraint constraint) (b.applyConstraint constraint) := by
  intro name hName
  rw [get?_applyConstraint, get?_applyConstraint, h.value? hName, h name hName]

theorem applyConstraints (h : AgreeOutside noise a b) (constraints : List PlatformConstraint)
    (target : Target) :
    AgreeOutside noise (a.applyConstraints constraints target)
      (b.applyConstraints constraints target) := by
  unfold Settings.applyConstraints
  induction constraints.filter (·.scope.covers target) generalizing a b with
  | nil => exact h
  | cons constraint rest ih => exact ih (h.applyConstraint constraint)

end AgreeOutside

end Settings

namespace Catalog

/-- The flag does not count for the identity, is not the umbrella, and no rule reads it. -/
def IsNoise (catalog : Catalog) (name : String) : Prop :=
  catalog.isExcluded name = true ∧ catalog.umbrella ≠ some name ∧
    ∀ rule ∈ catalog.rules, name ∉ rule.trigger.flags

instance (catalog : Catalog) (name : String) : Decidable (catalog.IsNoise name) :=
  inferInstanceAs (Decidable (_ ∧ _ ∧ ∀ rule ∈ catalog.rules, _))

variable {catalog : Catalog} {noise : Set String} {first second : Overrides} {target : Target}

section Runs

variable (hNoise : ∀ name ∈ noise, catalog.IsNoise name)
  (hSame : ∀ name ∉ noise, first.get? name = second.get? name)
include hNoise hSame

theorem umbrellaIsOn_congr : catalog.umbrellaIsOn first = catalog.umbrellaIsOn second := by
  unfold umbrellaIsOn
  cases hUmbrella : catalog.umbrella with
  | none => rfl
  | some umbrella =>
    have hOutside : umbrella ∉ noise := fun hMem => (hNoise umbrella hMem).2.1 hUmbrella
    rw [Option.bind_some, Option.bind_some, hSame umbrella hOutside]

theorem agreeOutside_start :
    Settings.AgreeOutside noise (catalog.start first) (catalog.start second) := by
  have hOverridden :
      Settings.AgreeOutside noise (catalog.overridden first) (catalog.overridden second) := by
    intro name hName
    rw [get?_overridden, get?_overridden, hSame name hName]
  unfold start
  rw [umbrellaIsOn_congr hNoise hSame]
  split
  · exact hOverridden.switchOnAll catalog.features .bulk
  · exact hOverridden

theorem agreeOutside_resolve (target : Target) :
    Settings.AgreeOutside noise (catalog.resolve first target).settings
      (catalog.resolve second target).settings := by
  have hUnread : ∀ rule ∈ catalog.rules, ∀ flag ∈ rule.trigger.flags, flag ∉ noise :=
    fun rule hRule flag hFlag hMem => (hNoise flag hMem).2.2 rule hRule hFlag
  have hCascade := (agreeOutside_start hNoise hSame).applyRules hUnread
  exact hCascade.applyConstraints catalog.constraints target

theorem identity_congr (target : Target) :
    catalog.identity (catalog.resolve first target) =
      catalog.identity (catalog.resolve second target) := by
  refine identity_eq_iff.mpr ⟨rfl, fun name hCounts => ?_⟩
  -- What counts for the identity is no noise.
  have hOutside : name ∉ noise := by
    intro hMem
    rw [(hNoise name hMem).1] at hCounts
    cases hCounts
  exact (agreeOutside_resolve hNoise hSame target).value? hOutside

end Runs

/-- The noise of the Celix catalog. -/
def celixNoise : List String :=
  ["enable_ccache", "enable_testing_on_ci", "enable_cmake_warning_tests",
    "enable_testing_for_cxx14", "enable_testing_dependency_manager_for_cxx11"]

theorem isNoise_celix_iff {name : String} : celix.IsNoise name ↔ name ∈ celixNoise := by
  constructor
  · have h : ∀ name ∈ celix.exclusions, celix.IsNoise name → name ∈ celixNoise := by
      decide
    intro hNoise
    exact h name (List.contains_iff_mem.mp hNoise.1) hNoise
  · have h : ∀ name ∈ celixNoise, celix.IsNoise name := by decide
    exact h name

/-- Requests that are the same outside a set of noise lead, on every target, to the same value and
origin of each flag outside the set, to the same identity and to the same digest.  The Celix catalog
has five flags that are noise. -/
theorem noise_does_not_interfere :
    (∀ (catalog : Catalog) (noise : Set String) (first second : Overrides) (target : Target),
      (∀ name ∈ noise, catalog.IsNoise name) →
        (∀ name ∉ noise, first.get? name = second.get? name) →
          (∀ name ∉ noise,
            (catalog.resolve first target).value? name =
                (catalog.resolve second target).value? name ∧
              (catalog.resolve first target).origin? name =
                (catalog.resolve second target).origin? name) ∧
          catalog.identity (catalog.resolve first target) =
            catalog.identity (catalog.resolve second target) ∧
          (catalog.identity (catalog.resolve first target)).digest =
            (catalog.identity (catalog.resolve second target)).digest) ∧
    ∀ name, celix.IsNoise name ↔ name ∈ celixNoise := by
  refine ⟨fun catalog noise first second target hNoise hSame => ?_, fun name => isNoise_celix_iff⟩
  have hIdentity := identity_congr hNoise hSame target
  refine ⟨fun name hName => ?_, hIdentity, congrArg Identity.digest hIdentity⟩
  have hGet := agreeOutside_resolve hNoise hSame target name hName
  constructor
  · rw [Configuration.value?, Configuration.value?, hGet]
  · rw [Configuration.origin?, Configuration.origin?, hGet]

/-- The catalog of a console that brings a trace along, which does not count for the build. -/
def traced : Catalog where
  flags := [⟨"with_console", .switch false⟩, ⟨"with_trace", .switch false⟩,
    ⟨"trace_depth", .scalar "8" .positiveInteger⟩]
  rules := [⟨"console", .any ["with_console"], ["with_trace"]⟩]
  constraints := []
  requirements := []
  exclusions := ["with_trace", "trace_depth"]
  umbrella := none
  featureStem := "with_"
  consistent := by decide

/-- The console is asked for. -/
def quietRequest : Overrides := .ofList [("with_console", .switch true)]

/-- The console is asked for, and a deep trace. -/
def noisyRequest : Overrides :=
  (quietRequest.insert "with_trace" (.switch true)).insert "trace_depth" (.scalar "64")

/-- The trace is there for different reasons and of different depth, and the builds are one. -/
theorem noise_does_not_interfere_noisyRequest :
    (∀ name ∈ ["with_trace", "trace_depth"], traced.IsNoise name) ∧
      (∀ name ∉ ["with_trace", "trace_depth"],
        quietRequest.get? name = noisyRequest.get? name) ∧
      (traced.resolve quietRequest .linux).origin? "with_trace" = some (.implied "console") ∧
      (traced.resolve noisyRequest .linux).origin? "with_trace" = some .explicit ∧
      (traced.resolve quietRequest .linux).value? "trace_depth" ≠
        (traced.resolve noisyRequest .linux).value? "trace_depth" ∧
      (traced.resolve quietRequest .linux).value? "with_console" =
        (traced.resolve noisyRequest .linux).value? "with_console" ∧
      (traced.identity (traced.resolve quietRequest .linux)).digest =
        (traced.identity (traced.resolve noisyRequest .linux)).digest := by
  have hNoise : ∀ name ∈ ["with_trace", "trace_depth"], traced.IsNoise name := by decide
  have hSame : ∀ name ∉ ["with_trace", "trace_depth"],
      quietRequest.get? name = noisyRequest.get? name := by
    intro name hName
    simp only [List.mem_cons, List.not_mem_nil, or_false, not_or] at hName
    rw [noisyRequest, NameMap.get?_insert_of_ne _ _ hName.2, NameMap.get?_insert_of_ne _ _ hName.1]
  have hRuns := noise_does_not_interfere.1 traced {name | name ∈ ["with_trace", "trace_depth"]}
    quietRequest noisyRequest .linux hNoise hSame
  exact ⟨hNoise, hSame, by decide, by decide +kernel, by decide +kernel,
    (hRuns.1 "with_console" (by decide)).1, hRuns.2.2⟩

end Catalog

end BuildOptions
