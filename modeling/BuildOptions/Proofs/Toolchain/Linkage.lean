import BuildOptions.Proofs.Identity.CanonicalText
import BuildOptions.Proofs.Resolution.Addition
import BuildOptions.Proofs.Validation.Requests
import BuildOptions.Toolchain.Package

/-! What is linked in, against the identity of a build.  The conditions on host packages read the
switches of the identity and one switch that is left out of it: the Bonjour shell, which is built
but not installed.  So the identity determines the host packages up to those of the Bonjour
shell. -/

namespace BuildOptions

/-- The packages that are linked into what is built. -/
def Configuration.hostPackages (config : Configuration) : List Package :=
  config.packages.filter (·.scope = .host)

namespace Package

/-- The switches that conditions on host packages read, but for the Bonjour shell. -/
def linkSwitches : List String :=
  ["build_utils", "build_framework", "build_pubsub", "framework_curlinit", "build_celix_etcdlib",
    "build_deployment_admin", "build_rsa_discovery_common", "build_rsa_remote_service_admin_dfi",
    "build_launcher", "enable_testing", "build_cxx_remote_service_admin", "build_pubsub_psa_zmq",
    "build_http_admin", "build_celix_dfi", "build_rsa_discovery_zeroconf"]

/-- The packages that the Bonjour shell is linked with. -/
def isOfBonjour (package : Package) : Bool :=
  package.name = "libxml2" || package.name = "mdnsresponder"

/-- Other switches ask for the packages of the Bonjour shell too. -/
def bonjourCovered (isOn : String → Bool) : Bool :=
  isOn "build_rsa_discovery_zeroconf" &&
    (isOn "build_rsa_discovery_common" ||
      isOn "build_rsa_remote_service_admin_dfi" && isOn "enable_testing")

def HostEntry.package (entry : HostEntry) : Package :=
  ⟨entry.reference, .host, entry.isShared, false, []⟩

theorem nodup_references : (hostEntries.map HostEntry.reference).Nodup := by decide

theorem mem_ofHost_iff {isOn : String → Bool} {entry : HostEntry} (hEntry : entry ∈ hostEntries) :
    entry.package ∈ ofHost isOn ↔ entry.needed isOn = true := by
  unfold ofHost
  rw [List.mem_map]
  constructor
  · rintro ⟨other, hOther, hSame⟩
    obtain ⟨hMem, hNeeded⟩ := List.mem_filter.mp hOther
    have hReference : other.reference = entry.reference := congrArg Package.reference hSame
    rwa [List.inj_on_of_nodup_map nodup_references hMem hEntry hReference] at hNeeded
  · intro hNeeded
    exact ⟨entry, List.mem_filter.mpr ⟨hEntry, hNeeded⟩, rfl⟩

theorem ofHost_eq_iff {isOn isOn' : String → Bool} :
    ofHost isOn = ofHost isOn' ↔
      ∀ entry ∈ hostEntries, entry.needed isOn = entry.needed isOn' := by
  constructor
  · intro hSame entry hEntry
    rw [Bool.eq_iff_iff, ← mem_ofHost_iff hEntry, ← mem_ofHost_iff hEntry, hSame]
  · intro hSame
    unfold ofHost
    rw [List.filter_congr hSame]

section Agreement

variable {isOn isOn' : String → Bool} (h : ∀ name ∈ linkSwitches, isOn name = isOn' name)
include h

theorem needsCurl_congr : needsCurl isOn = needsCurl isOn' := by
  simp only [linkSwitches, List.forall_mem_cons] at h
  simp only [needsCurl, h]

theorem needsCivetweb_congr : needsCivetweb isOn = needsCivetweb isOn' := by
  simp only [linkSwitches, List.forall_mem_cons] at h
  simp only [needsCivetweb, h]

theorem cryptography_congr : cryptography isOn = cryptography isOn' := by
  rw [cryptography, cryptography, needsCurl_congr h, needsCivetweb_congr h]

theorem needed_congr {entry : HostEntry} (hEntry : entry ∈ hostEntries)
    (hApart : isOfBonjour entry.package = false) : entry.needed isOn = entry.needed isOn' := by
  have hCurl := needsCurl_congr h
  have hCivetweb := needsCivetweb_congr h
  have hAll : ∀ entry ∈ hostEntries, isOfBonjour entry.package = false →
      entry.needed isOn = entry.needed isOn' := by
    simp only [linkSwitches, List.forall_mem_cons] at h
    simp only [hostEntries, List.forall_mem_cons, h, hCurl, hCivetweb, implies_true, true_and,
      List.not_mem_nil, false_implies, and_true]
    constructor
    · intro hLibxml2
      exact absurd hLibxml2 (by decide)
    · intro hMdns
      exact absurd hMdns (by decide)
  exact hAll entry hEntry hApart

theorem forall_needed_eq_iff :
    (∀ entry ∈ hostEntries, entry.needed isOn = entry.needed isOn') ↔
      isOn "build_shell_bonjour" = isOn' "build_shell_bonjour" ∨ bonjourCovered isOn = true := by
  have hCurl := needsCurl_congr h
  have hCivetweb := needsCivetweb_congr h
  simp only [linkSwitches, List.forall_mem_cons] at h
  simp only [hostEntries, List.forall_mem_cons, needsLibxml2, bonjourCovered, h, hCurl, hCivetweb,
    true_and, List.not_mem_nil, false_implies, implies_true, and_true]
  -- What is left reads six switches, those of the Bonjour shell apart in the two runs.
  generalize isOn "build_shell_bonjour" = bonjour, isOn' "build_shell_bonjour" = bonjour',
    isOn' "build_rsa_discovery_zeroconf" = zeroconf, isOn' "build_rsa_discovery_common" = common,
    isOn' "build_rsa_remote_service_admin_dfi" = dfi, isOn' "enable_testing" = testing
  revert bonjour bonjour' zeroconf common dfi testing
  decide

end Agreement

end Package

/-! ### Configurations of one identity -/

section OneIdentity

variable {a b : Configuration}

theorem Configuration.hostPackages_eq (config : Configuration) :
    config.hostPackages = Package.ofHost config.isOn ++ [Package.cryptography config.isOn] := by
  have hHost : (Package.ofHost config.isOn).filter (fun package => package.scope = .host) =
      Package.ofHost config.isOn := by
    refine List.filter_eq_self.mpr fun package hPackage => ?_
    obtain ⟨entry, -, rfl⟩ := List.mem_map.mp hPackage
    rfl
  have hTesting : (Package.ofTesting config.isOn).filter (fun package => package.scope = .host) =
      [] := by
    unfold Package.ofTesting
    split <;> rfl
  have hTools : (Package.ofTools config.isOn).filter (fun package => package.scope = .host) =
      [] := by
    unfold Package.ofTools
    split <;> rfl
  simp only [hostPackages, packages, List.filter_append, hHost, hTesting, hTools, List.append_nil]
  rfl

theorem isOn_eq_of_identity_eq (h : Catalog.celix.identity a = Catalog.celix.identity b) :
    ∀ name ∈ Package.linkSwitches, a.isOn name = b.isOn name := by
  have hCounts : ∀ name ∈ Package.linkSwitches, Catalog.celix.isExcluded name = false := by
    decide
  intro name hName
  have hValue : a.value? name = b.value? name :=
    (Catalog.identity_eq_iff.mp h).2 name (hCounts name hName)
  rw [Configuration.isOn, Configuration.isOn, Settings.isOn_eq_decide, Settings.isOn_eq_decide]
  exact congrArg (fun value => decide (value = some (FlagValue.switch true))) hValue

theorem hostPackages_eq_iff (h : Catalog.celix.identity a = Catalog.celix.identity b) :
    a.hostPackages = b.hostPackages ↔
      a.isOn "build_shell_bonjour" = b.isOn "build_shell_bonjour" ∨
        Package.bonjourCovered a.isOn = true := by
  have hSame := isOn_eq_of_identity_eq h
  rw [a.hostPackages_eq, b.hostPackages_eq, Package.cryptography_congr hSame,
    List.append_left_inj, Package.ofHost_eq_iff, Package.forall_needed_eq_iff hSame]

theorem hostPackages_filter_eq (h : Catalog.celix.identity a = Catalog.celix.identity b) :
    a.hostPackages.filter (!·.isOfBonjour) = b.hostPackages.filter (!·.isOfBonjour) := by
  have hSame := isOn_eq_of_identity_eq h
  have hOfHost : (Package.ofHost a.isOn).filter (!·.isOfBonjour) =
      (Package.ofHost b.isOn).filter (!·.isOfBonjour) := by
    simp only [Package.ofHost, List.filter_map, List.filter_filter]
    congr 1
    refine List.filter_congr fun entry hEntry => ?_
    change (!entry.package.isOfBonjour && entry.needed a.isOn) =
      (!entry.package.isOfBonjour && entry.needed b.isOn)
    cases hApart : entry.package.isOfBonjour with
    | true => rfl
    | false => rw [Package.needed_congr hSame hEntry hApart]
  rw [a.hostPackages_eq, b.hostPackages_eq, Package.cryptography_congr hSame, List.filter_append,
    List.filter_append, hOfHost]

end OneIdentity

namespace Catalog

/-- Configurations of one identity require the same host packages, but for those of the Bonjour
shell, which the identity leaves out.  The lists are the same exactly when the Bonjour shell is on
in both or in neither, or when what the identity shows asks for both of its packages anyway. -/
theorem identity_determines_linkage (a b : Configuration)
    (hIdentity : celix.identity a = celix.identity b) :
    a.hostPackages.filter (!·.isOfBonjour) = b.hostPackages.filter (!·.isOfBonjour) ∧
    (a.hostPackages = b.hostPackages ↔
      a.isOn "build_shell_bonjour" = b.isOn "build_shell_bonjour" ∨
        a.isOn "build_rsa_discovery_zeroconf" = true ∧
          (a.isOn "build_rsa_discovery_common" = true ∨
            a.isOn "build_rsa_remote_service_admin_dfi" = true ∧
              a.isOn "enable_testing" = true)) := by
  refine ⟨hostPackages_filter_eq hIdentity, ?_⟩
  rw [hostPackages_eq_iff hIdentity, Package.bonjourCovered, Bool.and_eq_true, Bool.or_eq_true,
    Bool.and_eq_true]

/-! ### With and without the Bonjour shell -/

/-- A shell is asked for. -/
def shellRequest : Overrides := .ofList [("build_shell", .switch true)]

/-- A shell is asked for, and the Bonjour shell beside it. -/
def bonjourRequest : Overrides := shellRequest.insert "build_shell_bonjour" (.switch true)

theorem addsNothing_shellRequest : celix.AddsNothing shellRequest "build_shell_bonjour" := by
  have hShell : "build_shell" ∈ (celix.cascade shellRequest).onSet :=
    initiallyOn_subset_cascade (mem_initiallyOn_of_requested (by decide))
  have hRules : ∀ rule ∈ celix.rules, "build_shell_bonjour" ∈ rule.trigger.flags →
      ∀ name ∈ rule.consequences, name = "build_shell" := by decide
  intro rule hRule hRead name hMem
  rw [hRules rule hRule hRead name hMem]
  exact hShell

theorem identity_bonjourRequest :
    celix.identity (celix.resolve bonjourRequest .linux) =
      celix.identity (celix.resolve shellRequest .linux) := by
  refine identity_eq_iff.mpr ⟨rfl, fun name hCounts => ?_⟩
  have hName : name ≠ "build_shell_bonjour" := by
    rintro rfl
    exact absurd hCounts (by decide)
  exact value?_resolve_insert (by decide) hazards_celix addsNothing_shellRequest hName

theorem isOn_linux_iff {overrides : Overrides} {name : String} :
    (celix.resolve overrides .linux).isOn name = true ↔ name ∈ (celix.cascade overrides).onSet := by
  have hFree : name ∉ celix.constrained .linux := by
    have hNone : ∀ constraint ∈ celix.constraints, constraint.scope.covers .linux = false := by
      decide
    rintro ⟨constraint, hMem, hCovers, -⟩
    rw [hNone constraint hMem] at hCovers
    cases hCovers
  rw [isOn_resolve_iff, Configuration.mem_onSet_iff, Settings.mem_onSet_iff,
    value?_resolve_of_notMem hFree]

theorem isOn_bonjourRequest :
    (celix.resolve bonjourRequest .linux).isOn "build_shell_bonjour" = true :=
  isOn_linux_iff.mpr (initiallyOn_subset_cascade (.inl (initialValue?_insert_self _)))

theorem isOn_shellRequest {name : String}
    (hInitial : celix.initialValue? shellRequest name ≠ some (.switch true))
    (hRules : ∀ rule ∈ celix.rules, name ∉ rule.consequences) :
    (celix.resolve shellRequest .linux).isOn name = false := by
  have hUmbrella : ¬celix.UmbrellaRequested shellRequest := by
    rw [← umbrellaIsOn_iff]
    decide
  rw [Bool.eq_false_iff, ne_eq, isOn_linux_iff]
  intro hOn
  rcases initiallyOn_of_mem_cascade hRules hOn with hStart | ⟨hRequested, -⟩
  · exact hInitial hStart
  · exact hUmbrella hRequested

theorem hostPackages_bonjourRequest_ne :
    (celix.resolve bonjourRequest .linux).hostPackages ≠
      (celix.resolve shellRequest .linux).hostPackages := by
  have hBonjour : (celix.resolve shellRequest .linux).isOn "build_shell_bonjour" = false :=
    isOn_shellRequest (by decide) (by decide +kernel)
  have hZeroconf :
      (celix.resolve shellRequest .linux).isOn "build_rsa_discovery_zeroconf" = false :=
    isOn_shellRequest (by decide) (by decide +kernel)
  intro hSame
  rcases (hostPackages_eq_iff identity_bonjourRequest.symm).mp hSame.symm with hOn | hCovered
  · rw [hBonjour, isOn_bonjourRequest] at hOn
    cases hOn
  · rw [Package.bonjourCovered, hZeroconf, Bool.false_and] at hCovered
    cases hCovered

/-- The Bonjour shell brings two packages along, and all other packages stay. -/
theorem identity_determines_linkage_bonjourRequest :
    celix.identity (celix.resolve bonjourRequest .linux) =
        celix.identity (celix.resolve shellRequest .linux) ∧
      (celix.resolve bonjourRequest .linux).hostPackages.filter (!·.isOfBonjour) =
        (celix.resolve shellRequest .linux).hostPackages.filter (!·.isOfBonjour) ∧
      (celix.resolve bonjourRequest .linux).hostPackages ≠
        (celix.resolve shellRequest .linux).hostPackages :=
  ⟨identity_bonjourRequest,
    (identity_determines_linkage _ _ identity_bonjourRequest).1, hostPackages_bonjourRequest_ne⟩

/-- Two accepted requests of one identity need not require the same host packages: on Linux the
Bonjour shell is left out of the identity and linked with packages of its own. -/
theorem linkage_not_determined :
    ¬∀ (first second : Overrides) (target other : Target),
      celix.Admits first → celix.Admits second →
        celix.violations (celix.resolve first target) target = [] →
          celix.violations (celix.resolve second other) other = [] →
            celix.identity (celix.resolve first target) =
                celix.identity (celix.resolve second other) →
              (celix.resolve first target).hostPackages =
                (celix.resolve second other).hostPackages := by
  intro hAll
  have hBonjour : celix.Admits bonjourRequest := by decide
  have hShell : celix.Admits shellRequest := by decide
  have hAccepted : celix.violations (celix.resolve bonjourRequest .linux) .linux = [] := by
    rw [violations_resolve requirementsEnforced_celix hBonjour]
    decide
  have hPlain : celix.violations (celix.resolve shellRequest .linux) .linux = [] := by
    rw [violations_resolve requirementsEnforced_celix hShell]
    decide
  exact hostPackages_bonjourRequest_ne
    (hAll bonjourRequest shellRequest .linux .linux hBonjour hShell hAccepted hPlain
      identity_bonjourRequest)

end Catalog

end BuildOptions
