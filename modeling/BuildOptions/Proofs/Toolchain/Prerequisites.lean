import BuildOptions.Proofs.Toolchain.Linkage
import BuildOptions.Proofs.Toolchain.Packages

/-! Packages that come together.  A host package is needed only with one of certain switches on, and
each of these alone makes the rules switch on what other packages are needed for.  Conditions on
packages ask for no switch to be off, so both are checked on sets of switches, whatever else is
on. -/

namespace BuildOptions

/-- A package of this name is required. -/
def Configuration.Requires (config : Configuration) (name : String) : Prop :=
  ∃ package ∈ config.packages, package.name = name

namespace Package

/-- The packages that are required whatever the conditions on host packages say, or for testing and
for the build itself. -/
def unconditioned : List String := ["openssl", "gtest", "cpputest", "ccache"]

/-- A host package of this name is needed when `isOn` tells which switches are on. -/
def isNeeded (name : String) (isOn : String → Bool) : Bool :=
  hostEntries.any fun entry => entry.needed isOn && entry.package.name = name

variable {name : String} {isOn isOn' : String → Bool}

theorem isNeeded_iff :
    isNeeded name isOn = true ↔
      ∃ entry ∈ hostEntries, entry.needed isOn = true ∧ entry.package.name = name := by
  simp [isNeeded]

theorem isNeeded_mono (h : ∀ flag, isOn flag = true → isOn' flag = true)
    (hNeeded : isNeeded name isOn = true) : isNeeded name isOn' = true := by
  obtain ⟨entry, hEntry, hEntryNeeded, hName⟩ := isNeeded_iff.mp hNeeded
  exact isNeeded_iff.mpr ⟨entry, hEntry, needed_mono h hEntry hEntryNeeded, hName⟩

/-- What is not needed with all switches on but some is needed only with one of these on. -/
theorem exists_on_of_isNeeded {switches : List String}
    (hWithout : isNeeded name (fun flag => !switches.contains flag) = false)
    (hNeeded : isNeeded name isOn = true) : ∃ flag ∈ switches, isOn flag = true := by
  by_contra hNone
  have hOthers : ∀ flag, isOn flag = true → (!switches.contains flag) = true := by
    intro flag hOn
    rw [Bool.not_eq_true', Bool.eq_false_iff, ne_eq, List.contains_iff_mem]
    exact fun hMem => hNone ⟨flag, hMem, hOn⟩
  rw [isNeeded_mono hOthers hNeeded] at hWithout
  cases hWithout

theorem isNeeded_iff_exists_on (switches : List String)
    (hWithout : isNeeded name (fun flag => !switches.contains flag) = false)
    (hAlone : ∀ flag ∈ switches, isNeeded name (fun other => other = flag) = true) :
    isNeeded name isOn = true ↔ ∃ flag ∈ switches, isOn flag = true := by
  constructor
  · exact exists_on_of_isNeeded hWithout
  · rintro ⟨flag, hMem, hOn⟩
    refine isNeeded_mono (fun other hOther => ?_) (hAlone flag hMem)
    rw [of_decide_eq_true hOther]
    exact hOn

/-! ### Packages that are not in the table -/

theorem name_cryptography_mem (isOn : String → Bool) :
    (cryptography isOn).name ∈ unconditioned := by
  show String.ofList ("openssl/1.1.1t".toList.takeWhile (· != '/')) ∈ unconditioned
  decide

theorem name_mem_of_mem_ofTesting {package : Package} (h : package ∈ ofTesting isOn) :
    package.name ∈ unconditioned := by
  unfold ofTesting at h
  split at h
  · simp only [List.mem_cons, List.not_mem_nil, or_false] at h
    rcases h with rfl | rfl
    · decide
    · show String.ofList ("cpputest/4.0".toList.takeWhile (· != '/')) ∈ unconditioned
      decide
  · cases h

theorem name_mem_of_mem_ofTools {package : Package} (h : package ∈ ofTools isOn) :
    package.name ∈ unconditioned := by
  unfold ofTools at h
  split at h
  · rw [List.mem_singleton.mp h]
    decide
  · cases h

end Package

namespace Configuration

variable {config : Configuration} {name : String}

theorem exists_host_of_isNeeded (h : Package.isNeeded name config.isOn = true) :
    ∃ package ∈ config.packages, package.scope = .host ∧ package.name = name := by
  obtain ⟨entry, hEntry, hNeeded, hName⟩ := Package.isNeeded_iff.mp h
  have hHost : entry.package ∈ Package.ofHost config.isOn :=
    (Package.mem_ofHost_iff hEntry).mpr hNeeded
  refine ⟨entry.package, ?_, rfl, hName⟩
  simp only [packages, List.mem_append]
  exact .inl (.inl (.inl hHost))

theorem isNeeded_of_mem_packages {package : Package} (hMem : package ∈ config.packages)
    (hName : package.name ∉ Package.unconditioned) :
    Package.isNeeded package.name config.isOn = true := by
  simp only [packages, List.mem_append, List.mem_singleton] at hMem
  rcases hMem with ((hHost | rfl) | hTesting) | hTool
  · obtain ⟨entry, hEntry, rfl⟩ := List.mem_map.mp hHost
    obtain ⟨hTable, hNeeded⟩ := List.mem_filter.mp hEntry
    exact Package.isNeeded_iff.mpr ⟨entry, hTable, hNeeded, rfl⟩
  · exact absurd (Package.name_cryptography_mem config.isOn) hName
  · exact absurd (Package.name_mem_of_mem_ofTesting hTesting) hName
  · exact absurd (Package.name_mem_of_mem_ofTools hTool) hName

theorem requires_iff_isNeeded (h : name ∉ Package.unconditioned) :
    config.Requires name ↔ Package.isNeeded name config.isOn = true := by
  constructor
  · rintro ⟨package, hMem, rfl⟩
    exact isNeeded_of_mem_packages hMem h
  · intro hNeeded
    obtain ⟨package, hMem, -, hName⟩ := exists_host_of_isNeeded hNeeded
    exact ⟨package, hMem, hName⟩

end Configuration

namespace Catalog

variable {catalog : Catalog} {config : Configuration} {overrides : Overrides} {target : Target}
  {flag : String}

/-! ### Switches that lead to packages -/

/-- The settings that the rules make when nothing but one switch is on. -/
def following (catalog : Catalog) (flag : String) : Settings :=
  ((∅ : Settings).switchOn flag .explicit).applyRules catalog.rules

theorem onSet_following_subset {on : Set String} (hClosed : ClosedUnder catalog.rules on)
    (hOn : flag ∈ on) : (catalog.following flag).onSet ⊆ on := by
  refine Settings.onSet_applyRules_subset (fun name hName => ?_) hClosed
  have hOnly : ((∅ : Settings).isOn name || decide (name = flag)) = true := by
    rw [← Settings.isOn_switchOn]
    exact hName
  have hNone : (∅ : Settings).isOn name = false := rfl
  rw [hNone, Bool.false_or, decide_eq_true_eq] at hOnly
  exact hOnly ▸ hOn

/-- If each of the packages is needed for some of the switches only, and each of these alone leads
the rules to what each of the companions is needed for, then the packages do not come without the
companions. -/
theorem requires_companions {packages companions : List String} (switches : List String)
    (hClosed : ClosedUnder catalog.rules config.onSet)
    (hAsked : ∀ name ∈ packages, name ∉ Package.unconditioned ∧
      Package.isNeeded name (fun flag => !switches.contains flag) = false)
    (hLeads : ∀ flag ∈ switches, ∀ companion ∈ companions,
      Package.isNeeded companion (catalog.following flag).isOn = true) :
    ∀ name ∈ packages, config.Requires name →
      ∀ companion ∈ companions, config.Requires companion := by
  intro name hName hRequires companion hCompanion
  obtain ⟨hHost, hWithout⟩ := hAsked name hName
  have hNeeded : Package.isNeeded name config.isOn = true :=
    (Configuration.requires_iff_isNeeded hHost).mp hRequires
  obtain ⟨flag, hFlag, hOn⟩ := Package.exists_on_of_isNeeded hWithout hNeeded
  have hFollowing : (catalog.following flag).onSet ⊆ config.onSet :=
    onSet_following_subset hClosed hOn
  have hCompanionNeeded : Package.isNeeded companion config.isOn = true :=
    Package.isNeeded_mono (fun _ hFollows => hFollowing hFollows)
      (hLeads flag hFlag companion hCompanion)
  obtain ⟨package, hMem, -, hIs⟩ := Configuration.exists_host_of_isNeeded hCompanionNeeded
  exact ⟨package, hMem, hIs⟩

/-! ### The packages of the product -/

/-- The switches that the packages of single features are needed for. -/
def featureSwitches : List String :=
  ["build_deployment_admin", "build_rsa_discovery_common", "build_shell_bonjour",
    "build_rsa_remote_service_admin_dfi", "build_cxx_remote_service_admin", "build_pubsub_psa_zmq",
    "build_http_admin", "build_rsa_discovery_zeroconf"]

theorem closedUnder_resolve_celix :
    ClosedUnder celix.rules (celix.resolve overrides target).onSet := by
  intro rule hRule hHolds name hMem
  exact mem_onSet_resolve_of_rule hazards_celix (constraintsSwitchOff_celix target) hRule hHolds
    hMem (notMem_constrained_celix hRule hMem target)

theorem requires_base_of_feature :
    ∀ name ∈ ["zlib", "libxml2", "rapidjson", "zeromq", "czmq", "civetweb", "mdnsresponder"],
      (celix.resolve overrides target).Requires name →
        ∀ companion ∈ ["util-linux-libuuid", "libzip"],
          (celix.resolve overrides target).Requires companion :=
  requires_companions featureSwitches closedUnder_resolve_celix (by decide +kernel)
    (by decide +kernel)

theorem requires_libzip_of_base :
    ∀ name ∈ ["util-linux-libuuid", "libffi"], (celix.resolve overrides target).Requires name →
      ∀ companion ∈ ["libzip"], (celix.resolve overrides target).Requires companion :=
  requires_companions ["build_framework", "build_pubsub", "build_celix_dfi"]
    closedUnder_resolve_celix (by decide +kernel) (by decide +kernel)

theorem requires_stack_of_messaging (overrides : Overrides) (target : Target) :
    ∀ name ∈ ["zeromq", "czmq"], (celix.resolve overrides target).Requires name →
      ∀ companion ∈ ["zeromq", "czmq", "libffi", "jansson"],
        (celix.resolve overrides target).Requires companion :=
  requires_companions ["build_pubsub_psa_zmq"] closedUnder_resolve_celix (by decide +kernel)
    (by decide +kernel)

/-- Whatever is asked for and refused, and on every target, the required packages are complete: the
packages of single features come with the two that the framework needs, identifiers and foreign
calls come with archives, and the two messaging packages come together, and with the packages that
describe messages. -/
theorem required_packages_complete (overrides : Overrides) (target : Target) :
    (∀ name ∈ ["zlib", "libxml2", "rapidjson", "zeromq", "czmq", "civetweb", "mdnsresponder"],
      (celix.resolve overrides target).Requires name →
        (celix.resolve overrides target).Requires "util-linux-libuuid" ∧
          (celix.resolve overrides target).Requires "libzip") ∧
    ((celix.resolve overrides target).Requires "util-linux-libuuid" ∨
        (celix.resolve overrides target).Requires "libffi" →
      (celix.resolve overrides target).Requires "libzip") ∧
    ((celix.resolve overrides target).Requires "zeromq" ↔
      (celix.resolve overrides target).Requires "czmq") ∧
    ((celix.resolve overrides target).Requires "zeromq" →
      (celix.resolve overrides target).Requires "libffi" ∧
        (celix.resolve overrides target).Requires "jansson") := by
  have hMessaging := requires_stack_of_messaging overrides target
  refine ⟨fun name hName hRequires => ?_, ?_, ⟨fun hZeromq => ?_, fun hCzmq => ?_⟩,
    fun hZeromq => ?_⟩
  · have hBase := requires_base_of_feature name hName hRequires
    exact ⟨hBase _ (by simp), hBase _ (by simp)⟩
  · rintro (hUuid | hFfi)
    · exact requires_libzip_of_base _ (by simp) hUuid _ (by simp)
    · exact requires_libzip_of_base _ (by simp) hFfi _ (by simp)
  · exact hMessaging _ (by simp) hZeromq _ (by simp)
  · exact hMessaging _ (by simp) hCzmq _ (by simp)
  · exact ⟨hMessaging _ (by simp) hZeromq _ (by simp), hMessaging _ (by simp) hZeromq _ (by simp)⟩

/-- The broker of messages is asked for, and what it rests on is refused. -/
def brokerRequest : Overrides :=
  .ofList [("build_pubsub_psa_zmq", .switch true), ("build_framework", .switch false),
    ("build_celix_dfi", .switch false), ("build_utils", .switch false)]

theorem requires_zeromq_brokerRequest :
    (celix.resolve brokerRequest .windows).Requires "zeromq" := by
  have hOn : "build_pubsub_psa_zmq" ∈ (celix.resolve brokerRequest .windows).onSet := by
    rw [onSet_resolve (constraintsSwitchOff_celix _)]
    exact ⟨initiallyOn_subset_cascade (mem_initiallyOn_of_requested (by decide)), by decide⟩
  rw [Configuration.requires_iff_isNeeded (by decide),
    Package.isNeeded_iff_exists_on ["build_pubsub_psa_zmq"] (by decide +kernel)
      (by decide +kernel)]
  exact ⟨_, List.mem_singleton_self _, hOn⟩

/-- Refusing what the broker rests on leaves out none of its packages, on Windows as elsewhere. -/
theorem required_packages_complete_brokerRequest :
    brokerRequest.get? "build_framework" = some (.switch false) ∧
      (celix.resolve brokerRequest .windows).Requires "zeromq" ∧
      (celix.resolve brokerRequest .windows).Requires "czmq" ∧
      (celix.resolve brokerRequest .windows).Requires "libffi" ∧
      (celix.resolve brokerRequest .windows).Requires "jansson" ∧
      (celix.resolve brokerRequest .windows).Requires "util-linux-libuuid" ∧
      (celix.resolve brokerRequest .windows).Requires "libzip" := by
  have hZeromq := requires_zeromq_brokerRequest
  obtain ⟨hBase, hZip, hTogether, hStack⟩ := required_packages_complete brokerRequest .windows
  have hFfi := (hStack hZeromq).1
  exact ⟨by decide, hZeromq, hTogether.mp hZeromq, hFfi, (hStack hZeromq).2,
    (hBase "zeromq" (by simp) hZeromq).1, hZip (.inr hFfi)⟩

end Catalog

end BuildOptions
