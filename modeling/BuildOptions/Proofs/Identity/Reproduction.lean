import BuildOptions.Proofs.Identity.CanonicalText
import BuildOptions.Proofs.Resolution.Stability

/-! An identity asks for itself.  Its values are overrides that fit the catalog, and although the
flags that are left out of it may have brought about the values that it keeps, these values alone
lead to the same identity. -/

namespace BuildOptions.Catalog

variable {catalog : Catalog} {overrides : Overrides} {target : Target} {name : String}

theorem Admits.identity_options (h : catalog.Admits overrides) (target : Target) :
    catalog.Admits (catalog.identity (catalog.resolve overrides target)).options :=
  (h.values target).filter _

theorem initialValue?_identity (hCounts : catalog.isExcluded name = false) :
    catalog.initialValue? (catalog.identity (catalog.resolve overrides target)).options name =
      (catalog.resolve overrides target).value? name := by
  have hSame : (catalog.identity (catalog.resolve overrides target)).options.get? name =
      (catalog.resolve overrides target).values.get? name := by
    rw [get?_identity, Configuration.get?_values, if_neg (by simp [hCounts])]
  rw [← initialValue?_values, initialValue?, initialValue?, hSame]

/-- A flag that is left out of the identity starts with its default, so it is off. -/
theorem initialValue?_identity_ne_on (hExclusions : catalog.ExclusionsOffByDefault)
    (hExcluded : catalog.isExcluded name = true) :
    catalog.initialValue? (catalog.identity (catalog.resolve overrides target)).options name ≠
      some (.switch true) := by
  intro hOn
  have hNone : (catalog.identity (catalog.resolve overrides target)).options.get? name = none := by
    rw [get?_identity, if_pos hExcluded]
  rw [initialValue?, hNone, Option.none_or, Option.map_eq_some_iff] at hOn
  obtain ⟨flag, hFind, hDefault⟩ := hOn
  obtain ⟨hFlag, rfl⟩ := flag?_eq_some_iff.mp hFind
  have hSwitch : flag.kind = .switch := by rw [← flag.kind_default, hDefault, FlagValue.kind]
  have hOff : flag.default = .switch false := hExclusions flag hFlag hSwitch hExcluded
  rw [hDefault] at hOff
  cases hOff

theorem identity_resolve_identity (hHazards : catalog.hazards = [])
    (hOff : catalog.ConstraintsSwitchOff target) (hUmbrella : catalog.UmbrellaOnRequestOnly)
    (hExclusions : catalog.ExclusionsOffByDefault) :
    catalog.identity (catalog.resolve
        (catalog.identity (catalog.resolve overrides target)).options target) =
      catalog.identity (catalog.resolve overrides target) := by
  refine identity_eq_iff.mpr ⟨rfl, fun name hCounts => ?_⟩
  -- What is on at the second start was on at the first end: a flag with a value in the identity has
  -- that value, and a flag without one has its default, which is off.
  refine value?_resolve_again hOff hHazards hUmbrella (fun other hOn => ?_)
    (initialValue?_identity hCounts)
  cases hExcluded : catalog.isExcluded other with
  | true => exact absurd hOn (initialValue?_identity_ne_on hExclusions hExcluded)
  | false =>
    rw [initialValue?_identity hExcluded] at hOn
    exact Configuration.mem_onSet_iff.mpr hOn

theorem rebuild_identity (hAdmits : catalog.Admits overrides) (hHazards : catalog.hazards = [])
    (hOff : catalog.ConstraintsSwitchOff target) (hUmbrella : catalog.UmbrellaOnRequestOnly)
    (hExclusions : catalog.ExclusionsOffByDefault) {identity : Identity}
    (hIdentity : catalog.identity (catalog.resolve overrides target) = identity) :
    ∃ rebuilt, Overrides.ofPairs catalog identity.options.toList = .ok rebuilt ∧
      catalog.identity (catalog.resolve rebuilt identity.target) = identity := by
  subst hIdentity
  exact ⟨_, (hAdmits.identity_options target).ofPairs_toList,
    identity_resolve_identity hHazards hOff hUmbrella hExclusions⟩

/-- Without hazards, with constraints that only switch off, an umbrella that only a request turns on
and excluded switches that are off by default, the entries of an identity make overrides that lead
to the same identity.  The Celix catalog is such a catalog for every target. -/
theorem identity_reproduces :
    (∀ (catalog : Catalog) (overrides : Overrides) (target : Target) (identity : Identity),
      catalog.hazards = [] → catalog.ConstraintsSwitchOff target → catalog.UmbrellaOnRequestOnly →
        catalog.ExclusionsOffByDefault → catalog.Admits overrides →
          catalog.identity (catalog.resolve overrides target) = identity →
            ∃ rebuilt, Overrides.ofPairs catalog identity.options.toList = .ok rebuilt ∧
              catalog.identity (catalog.resolve rebuilt identity.target) = identity) ∧
    ∀ (overrides : Overrides) (target : Target) (identity : Identity), celix.Admits overrides →
      celix.identity (celix.resolve overrides target) = identity →
        ∃ rebuilt, Overrides.ofPairs celix identity.options.toList = .ok rebuilt ∧
          celix.identity (celix.resolve rebuilt identity.target) = identity := by
  constructor
  · intro catalog overrides target identity hHazards hOff hUmbrella hExclusions hAdmits hIdentity
    exact rebuild_identity hAdmits hHazards hOff hUmbrella hExclusions hIdentity
  · intro overrides target identity hAdmits hIdentity
    exact rebuild_identity hAdmits hazards_celix (constraintsSwitchOff_celix target)
      umbrellaOnRequestOnly_celix exclusionsOffByDefault_celix hIdentity

/-- The umbrella that turned everything on is not in the identity, and the log that it turned on is
off on macOS; what is left leads to itself. -/
theorem identity_reproduces_wholeRequest :
    console.hazards = [] ∧ console.ConstraintsSwitchOff .macos ∧ console.UmbrellaOnRequestOnly ∧
      console.ExclusionsOffByDefault ∧ console.Admits wholeRequest ∧
      (console.identity (console.resolve wholeRequest .macos)).options =
        .ofList [("log_size", .scalar "4"), ("with_console", .switch true),
          ("with_log", .switch false), ("with_shell", .switch true)] ∧
      ∃ rebuilt, Overrides.ofPairs console
          (console.identity (console.resolve wholeRequest .macos)).options.toList = .ok rebuilt ∧
        console.identity (console.resolve rebuilt .macos) =
          console.identity (console.resolve wholeRequest .macos) := by
  have hHazards : console.hazards = [] := by decide
  have hOff : console.ConstraintsSwitchOff .macos := by decide
  have hUmbrella : console.UmbrellaOnRequestOnly := by decide
  have hExclusions : console.ExclusionsOffByDefault := by decide
  have hAdmits : console.Admits wholeRequest := by decide +kernel
  exact ⟨hHazards, hOff, hUmbrella, hExclusions, hAdmits, by decide +kernel,
    identity_reproduces.1 console wholeRequest .macos _ hHazards hOff hUmbrella hExclusions hAdmits
      rfl⟩

end BuildOptions.Catalog
