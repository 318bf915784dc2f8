import BuildOptions.Proofs.Resolution.Growth
import BuildOptions.Toolchain.Package

/-! Growth of package lists.  No condition on a package asks for a switch to be off, so with more
switches on the names of the required packages are the same list with names put in. -/

namespace BuildOptions

namespace Package

variable {isOn isOn' : String → Bool} (h : ∀ name, isOn name = true → isOn' name = true)
include h

theorem needsCurl_mono (hNeeded : needsCurl isOn = true) : needsCurl isOn' = true := by
  simp only [needsCurl, Bool.or_eq_true, Bool.and_eq_true] at hNeeded ⊢
  grind

theorem needsLibxml2_mono (hNeeded : needsLibxml2 isOn = true) : needsLibxml2 isOn' = true := by
  simp only [needsLibxml2, Bool.or_eq_true, Bool.and_eq_true] at hNeeded ⊢
  grind

theorem needsCivetweb_mono (hNeeded : needsCivetweb isOn = true) : needsCivetweb isOn' = true := by
  simp only [needsCivetweb, Bool.or_eq_true] at hNeeded ⊢
  grind

theorem needed_mono {entry : HostEntry} (hEntry : entry ∈ hostEntries)
    (hNeeded : entry.needed isOn = true) : entry.needed isOn' = true := by
  have hAll : ∀ entry ∈ hostEntries, entry.needed isOn = true → entry.needed isOn' = true := by
    simp only [hostEntries, List.forall_mem_cons, Bool.or_eq_true]
    have hCurl := needsCurl_mono h
    have hLibxml2 := needsLibxml2_mono h
    have hCivetweb := needsCivetweb_mono h
    grind
  exact hAll entry hEntry hNeeded

theorem names_ofHost_sublist :
    ((ofHost isOn).map Package.name).Sublist ((ofHost isOn').map Package.name) := by
  have hFilter : hostEntries.filter (fun entry => entry.needed isOn) =
      (hostEntries.filter fun entry => entry.needed isOn').filter fun entry =>
        entry.needed isOn := by
    rw [List.filter_filter]
    refine List.filter_congr fun entry hEntry => ?_
    cases hNeeded : entry.needed isOn with
    | false => rfl
    | true => rw [needed_mono h hEntry hNeeded, Bool.and_self]
  unfold ofHost
  rw [hFilter]
  exact (List.filter_sublist.map _).map _

theorem names_ofTesting_sublist :
    ((ofTesting isOn).map Package.name).Sublist ((ofTesting isOn').map Package.name) := by
  unfold ofTesting
  by_cases hOn : isOn "enable_testing" = true
  · -- The options of a package may differ, its name does not.
    rw [if_pos hOn, if_pos (h _ hOn)]
    exact List.Sublist.refl _
  · rw [if_neg hOn]
    exact List.nil_sublist _

theorem names_ofTools_sublist :
    ((ofTools isOn).map Package.name).Sublist ((ofTools isOn').map Package.name) := by
  unfold ofTools
  by_cases hOn : isOn "enable_ccache" = true
  · rw [if_pos hOn, if_pos (h _ hOn)]
  · rw [if_neg hOn]
    exact List.nil_sublist _

end Package

theorem Configuration.names_packages_sublist {a b : Configuration} (h : a.onSet ⊆ b.onSet) :
    (a.packages.map Package.name).Sublist (b.packages.map Package.name) := by
  have hOn : ∀ name, a.isOn name = true → b.isOn name = true := fun _ hName => h hName
  simp only [packages, List.map_append]
  have hHost := Package.names_ofHost_sublist hOn
  have hTesting := Package.names_ofTesting_sublist hOn
  have hTools := Package.names_ofTools_sublist hOn
  exact ((hHost.append (List.Sublist.refl _)).append hTesting).append hTools

namespace Catalog

/-- If every switch that is on at first under one request is on at first under another, and the
other turns the umbrella on if the one does, then on every target the other has on what the one has
on, and requires the packages that the one requires, in the same order, and maybe more between
them. -/
theorem larger_request_requires_more (catalog : Catalog) (smaller larger : Overrides)
    (target : Target)
    (hInitial : ∀ name, catalog.initialValue? smaller name = some (.switch true) →
      catalog.initialValue? larger name = some (.switch true))
    (hUmbrella : catalog.UmbrellaRequested smaller → catalog.UmbrellaRequested larger) :
    (∀ name, (catalog.resolve smaller target).isOn name = true →
      (catalog.resolve larger target).isOn name = true) ∧
    ((catalog.resolve smaller target).packages.map Package.name).Sublist
      ((catalog.resolve larger target).packages.map Package.name) := by
  have hGrows : catalog.Grows smaller larger := ⟨hInitial, hUmbrella⟩
  have hOn := hGrows.onSet_resolve_subset target
  exact ⟨fun name hName => hOn hName, Configuration.names_packages_sublist hOn⟩

/-- A catalog whose first rule reads what its second rule switches on. -/
def misordered : Catalog where
  flags := [⟨"build_http_admin", .switch false⟩, ⟨"build_framework", .switch false⟩,
    ⟨"build_utils", .switch false⟩]
  rules := [⟨"framework", .any ["build_framework"], ["build_utils"]⟩,
    ⟨"http-admin", .any ["build_http_admin"], ["build_framework"]⟩]
  constraints := []
  requirements := []
  exclusions := []
  umbrella := none
  featureStem := "build_"
  consistent := by decide

/-- The web server is asked for, and what it rests on is refused. -/
def serverRequest : Overrides :=
  .ofList [("build_http_admin", .switch true), ("build_framework", .switch false)]

/-- The first rule is missed under the one request and fires under the other, which so requires one
package more. -/
theorem larger_request_requires_more_serverRequest :
    misordered.hazards ≠ [] ∧
      (∀ name, misordered.initialValue? serverRequest name = some (.switch true) →
        misordered.initialValue? (serverRequest.insert "build_framework" (.switch true)) name =
          some (.switch true)) ∧
      (misordered.resolve serverRequest .linux).packages.map Package.name =
        ["util-linux-libuuid", "civetweb", "openssl"] ∧
      ["util-linux-libuuid", "civetweb", "openssl"].Sublist
        ((misordered.resolve (serverRequest.insert "build_framework" (.switch true))
          .linux).packages.map Package.name) := by
  have hInitial : ∀ name, misordered.initialValue? serverRequest name = some (.switch true) →
      misordered.initialValue? (serverRequest.insert "build_framework" (.switch true)) name =
        some (.switch true) :=
    (grows_insert misordered serverRequest "build_framework").initial
  have hNames : (misordered.resolve serverRequest .linux).packages.map Package.name =
      ["util-linux-libuuid", "civetweb", "openssl"] := by decide
  have hMore := larger_request_requires_more misordered serverRequest
    (serverRequest.insert "build_framework" (.switch true)) .linux hInitial
    (grows_insert misordered serverRequest "build_framework").umbrella
  rw [hNames] at hMore
  exact ⟨by decide, hInitial, hNames, hMore.2⟩

end Catalog

end BuildOptions
