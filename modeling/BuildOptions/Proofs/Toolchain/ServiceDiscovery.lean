import BuildOptions.Proofs.Toolchain.Exports
import BuildOptions.Proofs.Toolchain.Prerequisites

/-! The library for finding services on the network.  Two switches need it, no rule switches them
on, and they exist on Linux only, so the request and the target tell whether it is required.  Its
error injector is exported where it is required and tests are built. -/

namespace BuildOptions

namespace Catalog

variable {catalog : Catalog} {config : Configuration} {overrides : Overrides} {target : Target}
  {version : Version} {name value : String}

/-! ### Switches that only a request turns on -/

/-- The switch is a feature that is off by default, and no rule switches it on. -/
structure FeatureOnRequest (catalog : Catalog) (name : String) : Prop where
  off : ∀ flag ∈ catalog.flags, flag.name = name → flag.default = .switch false
  unforced : ∀ rule ∈ catalog.rules, name ∉ rule.consequences
  feature : ∃ flag ∈ catalog.flags, catalog.isFeature flag = true ∧ flag.name = name

theorem FeatureOnRequest.mem_cascade_iff (h : catalog.FeatureOnRequest name) :
    name ∈ (catalog.cascade overrides).onSet ↔
      overrides.get? name = some (.switch true) ∨ catalog.UmbrellaRequested overrides := by
  constructor
  · intro hOn
    rcases initiallyOn_of_mem_cascade h.unforced hOn with hInitial | ⟨hUmbrella, -⟩
    · exact .inl (requested_of_initialValue?_on h.off hInitial)
    · exact .inr hUmbrella
  · rintro (hRequested | hUmbrella)
    · exact initiallyOn_subset_cascade (mem_initiallyOn_of_requested hRequested)
    · exact initiallyOn_subset_cascade (.inr ⟨hUmbrella, h.feature⟩)

theorem umbrellaRequested_celix_iff :
    celix.UmbrellaRequested overrides ↔ overrides.get? "build_all" = some (.switch true) := by
  constructor
  · rintro ⟨umbrella, hName, hGet⟩
    cases hName
    exact hGet
  · intro hGet
    exact ⟨"build_all", rfl, hGet⟩

/-- The switches that need the library. -/
def discoverySwitches : List String := ["build_shell_bonjour", "build_rsa_discovery_zeroconf"]

theorem featureOnRequest_discovery : ∀ name ∈ discoverySwitches, celix.FeatureOnRequest name := by
  intro name hName
  have hRemoved : ∀ name ∈ discoverySwitches, ∃ constraint ∈ celix.constraints,
      constraint.flag = name ∧ constraint.value = false := by decide
  have hDeclared : ∀ name ∈ discoverySwitches, Celix.off name ∈ celix.flags := by decide
  have hFeature : ∀ name ∈ discoverySwitches, celix.isFeature (Celix.off name) = true := by decide
  obtain ⟨constraint, hConstraint, rfl, hValue⟩ := hRemoved name hName
  obtain ⟨hOff, hRules⟩ := removalsIsolated_celix constraint hConstraint hValue
  exact ⟨hOff, fun rule hRule => (hRules rule hRule).1,
    Celix.off constraint.flag, hDeclared _ hName, hFeature _ hName, rfl⟩

theorem mem_constrained_discovery_iff :
    ∀ name ∈ discoverySwitches, ∀ target, name ∈ celix.constrained target ↔ target ≠ .linux := by
  decide

theorem mem_onSet_discovery_iff (hName : name ∈ discoverySwitches) :
    name ∈ (celix.resolve overrides target).onSet ↔
      target = .linux ∧ (overrides.get? name = some (.switch true) ∨
        overrides.get? "build_all" = some (.switch true)) := by
  rw [onSet_resolve (constraintsSwitchOff_celix target), Set.mem_sdiff,
    mem_constrained_discovery_iff name hName, not_not,
    (featureOnRequest_discovery name hName).mem_cascade_iff, umbrellaRequested_celix_iff, and_comm]

/-! ### The package -/

/-- On Linux, everything is asked for or one of the switches that need the library. -/
def DiscoveryRequested (overrides : Overrides) (target : Target) : Prop :=
  target = .linux ∧ ∃ name ∈ ["build_all", "build_shell_bonjour", "build_rsa_discovery_zeroconf"],
    overrides.get? name = some (.switch true)

theorem exists_on_discovery_iff :
    (∃ name ∈ discoverySwitches, (celix.resolve overrides target).isOn name = true) ↔
      DiscoveryRequested overrides target := by
  have hBonjour : "build_shell_bonjour" ∈ discoverySwitches := by simp [discoverySwitches]
  have hZeroconf : "build_rsa_discovery_zeroconf" ∈ discoverySwitches := by
    simp [discoverySwitches]
  simp only [isOn_resolve_iff, DiscoveryRequested, discoverySwitches, List.mem_cons,
    List.not_mem_nil, or_false, exists_eq_or_imp, exists_eq_left,
    mem_onSet_discovery_iff hBonjour, mem_onSet_discovery_iff hZeroconf]
  tauto

theorem isNeeded_mdnsresponder_iff :
    Package.isNeeded "mdnsresponder" (celix.resolve overrides target).isOn = true ↔
      DiscoveryRequested overrides target := by
  rw [Package.isNeeded_iff_exists_on discoverySwitches (by decide +kernel) (by decide +kernel),
    exists_on_discovery_iff]

theorem requires_mdnsresponder_iff :
    (celix.resolve overrides target).Requires "mdnsresponder" ↔
      DiscoveryRequested overrides target := by
  rw [Configuration.requires_iff_isNeeded (by decide), isNeeded_mdnsresponder_iff]

theorem exists_host_mdnsresponder_iff :
    (∃ package ∈ (celix.resolve overrides target).packages,
        package.scope = .host ∧ package.name = "mdnsresponder") ↔
      DiscoveryRequested overrides target := by
  constructor
  · rintro ⟨package, hMem, -, hName⟩
    exact requires_mdnsresponder_iff.mp ⟨package, hMem, hName⟩
  · intro hRequested
    exact Configuration.exists_host_of_isNeeded (isNeeded_mdnsresponder_iff.mpr hRequested)

/-! ### Its error injector -/

theorem ExportsApart.get?_errorInjector_iff (hApart : catalog.ExportsApart)
    (hReaches : catalog.Reaches config) :
    (Variables.ofConfiguration config version).get? "BUILD_ERROR_INJECTOR_MDNSRESPONDER" =
        some value ↔
      (config.isOn "enable_testing" = true ∧ ∃ package ∈ config.packages,
        package.scope = .host ∧ package.name = "mdnsresponder") ∧ value = "ON" := by
  have hNoFlag : ("BUILD_ERROR_INJECTOR_MDNSRESPONDER", value) ∉ Variables.ofFlags config := by
    intro hMem
    obtain ⟨name, found, hValue, hName, -⟩ := Variables.mem_ofFlags_iff.mp hMem
    obtain ⟨flag, hFlag, rfl⟩ := hReaches.exists_flag hValue
    exact hApart.unreserved flag hFlag (by rw [hName]; exact List.mem_cons_self)
  rw [NameMap.get?_eq_some_iff_mem, hApart.mem_exported_iff hReaches, Variables.exports_iff_mem]
  simp [Variables.additions, hNoFlag, Variables.mem_ofErrorInjector_iff,
    Variables.mem_ofLinker_iff, Variables.mem_exported_iff]

/-- Whatever else is asked for, the library for finding services is required exactly on Linux and
where everything or one of its two switches is asked for.  For every version its error injector is
exported exactly if the library is required and tests are built, and then it is on. -/
theorem discovery_follows_request (overrides : Overrides) (target : Target) :
    ((celix.resolve overrides target).Requires "mdnsresponder" ↔
      DiscoveryRequested overrides target) ∧
    (celix.Admits overrides → ∀ text version, Version.read text = .ok version →
      ∃ projection, (celix.resolve overrides target).project text = .ok projection ∧
        ((∃ value, projection.exported.get? "BUILD_ERROR_INJECTOR_MDNSRESPONDER" = some value) ↔
          DiscoveryRequested overrides target ∧
            (celix.resolve overrides target).isOn "enable_testing" = true) ∧
        ∀ value, projection.exported.get? "BUILD_ERROR_INJECTOR_MDNSRESPONDER" = some value →
          value = "ON") := by
  refine ⟨requires_mdnsresponder_iff, fun hAdmits text version hRead => ?_⟩
  have hReaches : celix.Reaches (celix.resolve overrides target) :=
    ⟨overrides, target, hAdmits, rfl⟩
  have hInjector : ∀ value,
      (Variables.ofConfiguration (celix.resolve overrides target) version).get?
          "BUILD_ERROR_INJECTOR_MDNSRESPONDER" = some value ↔
        ((celix.resolve overrides target).isOn "enable_testing" = true ∧
          DiscoveryRequested overrides target) ∧ value = "ON" := by
    intro value
    rw [exportsApart_celix.get?_errorInjector_iff hReaches, exists_host_mdnsresponder_iff]
  refine ⟨_, Configuration.project_eq hRead, ⟨?_, fun hBoth => ?_⟩, fun value hValue => ?_⟩
  · rintro ⟨value, hValue⟩
    exact ((hInjector value).mp hValue).1.symm
  · exact ⟨"ON", (hInjector "ON").mpr ⟨hBoth.symm, rfl⟩⟩
  · exact ((hInjector value).mp hValue).2

/-- Everything is asked for with tests, and the two switches are refused. -/
def testedRequest : Overrides :=
  .ofList [("build_all", .switch true), ("build_rsa_discovery_zeroconf", .switch false),
    ("build_shell_bonjour", .switch false), ("enable_testing", .switch true)]

/-- Asking for everything overrules the refusals on Linux, and has no effect on macOS. -/
theorem discovery_follows_request_testedRequest :
    celix.Admits testedRequest ∧
      (celix.resolve testedRequest .linux).Requires "mdnsresponder" ∧
      ¬(celix.resolve testedRequest .macos).Requires "mdnsresponder" ∧
      ∃ projection,
        (celix.resolve testedRequest .linux).project Version.ofPackage = .ok projection ∧
        projection.exported.get? "BUILD_ERROR_INJECTOR_MDNSRESPONDER" = some "ON" := by
  have hAdmits : celix.Admits testedRequest := by decide
  have hRead : Version.read Version.ofPackage = .ok ⟨2, 3, 0⟩ := by decide +kernel
  have hLinux : DiscoveryRequested testedRequest .linux := ⟨rfl, "build_all", by simp, by decide⟩
  have hMacos : ¬DiscoveryRequested testedRequest .macos := fun h => by cases h.1
  have hTesting : (celix.resolve testedRequest .linux).isOn "enable_testing" = true :=
    isOn_linux_iff.mpr (initiallyOn_subset_cascade (mem_initiallyOn_of_requested (by decide)))
  obtain ⟨hRequires, hExports⟩ := discovery_follows_request testedRequest .linux
  obtain ⟨projection, hProject, hSome, hOn⟩ := hExports hAdmits _ _ hRead
  obtain ⟨value, hValue⟩ := hSome.mpr ⟨hLinux, hTesting⟩
  refine ⟨hAdmits, hRequires.mpr hLinux, ?_, projection, hProject, ?_⟩
  · rw [(discovery_follows_request testedRequest .macos).1]
    exact hMacos
  · rw [hValue, hOn value hValue]

end Catalog

end BuildOptions
