import BuildOptions.Identity
import BuildOptions.Proofs.Catalog.Console
import BuildOptions.Proofs.Json.Compact
import BuildOptions.Proofs.Resolution.Typing
import BuildOptions.Proofs.Sha256.Digest

/-! The canonical text of a configuration's identity says exactly what counts for the build: two
configurations have one text when their targets and the values of all flags that are not excluded
are the same, and only then. -/

namespace BuildOptions

/-! ### Documents -/

theorem FlagValue.toJson_inj {a b : FlagValue} (h : a.toJson = b.toJson) : a = b := by
  cases a with
  | switch on =>
    cases b with
    | switch other => exact congrArg FlagValue.switch (Json.bool.inj h)
    | scalar text => cases h
  | scalar text =>
    cases b with
    | switch on => cases h
    | scalar other => exact congrArg FlagValue.scalar (Json.string.inj h)

theorem Target.name_inj {a b : Target} (h : a.name = b.name) : a = b := by
  have hRead := congrArg Target.ofName? h
  rw [Target.ofName?_name, Target.ofName?_name] at hRead
  exact Option.some.inj hRead

theorem NameMap.toList_inj {α : Type} {a b : NameMap α} (h : a.toList = b.toList) : a = b := by
  cases a
  cases b
  simpa [NameMap.toList] using h

theorem NameMap.toJsonMembers_inj {a b : NameMap FlagValue}
    (h : a.toJsonMembers = b.toJsonMembers) :
    a = b := by
  have hEntry : Function.Injective fun entry : String × FlagValue => (entry.1, entry.2.toJson) := by
    intro x y hSame
    obtain ⟨hName, hValue⟩ := Prod.mk.inj hSame
    exact Prod.ext hName (FlagValue.toJson_inj hValue)
  exact NameMap.toList_inj (hEntry.list_map h)

theorem valuesDocument_inj {s t : Target} {a b : NameMap FlagValue}
    (h : valuesDocument s a = valuesDocument t b) : s = t ∧ a = b := by
  simp only [valuesDocument, Json.object.injEq, List.cons.injEq, Prod.mk.injEq, true_and,
    and_true] at h
  exact ⟨Target.name_inj (Json.string.inj h.1), NameMap.toJsonMembers_inj h.2⟩

theorem Identity.canonicalText_inj {a b : Identity} (h : a.canonicalText = b.canonicalText) :
    a = b := by
  cases a
  cases b
  obtain ⟨rfl, rfl⟩ := valuesDocument_inj (Json.compact_injective h)
  rfl

/-! ### Configurations -/

namespace Catalog

/-- Same target, and same values of all flags that count for the identity. -/
def SameBuild (catalog : Catalog) (a b : Configuration) : Prop :=
  a.target = b.target ∧ ∀ name, catalog.isExcluded name = false → a.value? name = b.value? name

/-- Overrides that are built for the catalog lead to the configuration. -/
def Reaches (catalog : Catalog) (config : Configuration) : Prop :=
  ∃ overrides target, catalog.Admits overrides ∧ catalog.resolve overrides target = config

variable {catalog : Catalog} {a b : Configuration} {name : String}

theorem get?_identity (config : Configuration) (name : String) :
    (catalog.identity config).options.get? name =
      if catalog.isExcluded name = true then none else config.value? name := by
  rw [identity, NameMap.get?_filter, Configuration.get?_values]
  cases config.value? name <;> cases catalog.isExcluded name <;> rfl

theorem identity_eq_iff : catalog.identity a = catalog.identity b ↔ catalog.SameBuild a b := by
  constructor
  · intro h
    refine ⟨congrArg Identity.target h, fun name hCounts => ?_⟩
    have hGet := congrArg (fun identity => identity.options.get? name) h
    simpa [get?_identity, hCounts] using hGet
  · rintro ⟨hTarget, hValues⟩
    have hOptions : (catalog.identity a).options = (catalog.identity b).options := by
      apply NameMap.ext_get?
      intro name
      rw [get?_identity, get?_identity]
      split
      · rfl
      · rename_i hCounts
        exact hValues name (by simpa using hCounts)
    exact (Identity.mk.injEq ..).mpr ⟨hTarget, hOptions⟩

theorem canonicalText_eq_iff :
    (catalog.identity a).canonicalText = (catalog.identity b).canonicalText ↔
      catalog.SameBuild a b := by
  constructor
  · intro h
    exact identity_eq_iff.mp (Identity.canonicalText_inj h)
  · intro h
    rw [identity_eq_iff.mpr h]

theorem Reaches.value?_eq_none (h : catalog.Reaches a)
    (hUndeclared : ¬∃ flag ∈ catalog.flags, flag.name = name) : a.value? name = none := by
  obtain ⟨overrides, target, hAdmits, rfl⟩ := h
  refine Option.eq_none_iff_forall_ne_some.mpr fun value hValue => hUndeclared ?_
  obtain ⟨flag, hFlag, hName, -⟩ := hAdmits.takes_resolve hValue
  exact ⟨flag, hFlag, hName⟩

theorem sameBuild_iff_of_reaches (hA : catalog.Reaches a) (hB : catalog.Reaches b) :
    catalog.SameBuild a b ↔
      a.target = b.target ∧ ∀ flag ∈ catalog.flags, catalog.isExcluded flag.name = false →
        a.value? flag.name = b.value? flag.name := by
  constructor
  · rintro ⟨hTarget, hValues⟩
    exact ⟨hTarget, fun flag _ hCounts => hValues flag.name hCounts⟩
  · rintro ⟨hTarget, hValues⟩
    refine ⟨hTarget, fun name hCounts => ?_⟩
    by_cases hDeclared : ∃ flag ∈ catalog.flags, flag.name = name
    · obtain ⟨flag, hFlag, rfl⟩ := hDeclared
      exact hValues flag hFlag hCounts
    · rw [hA.value?_eq_none hDeclared, hB.value?_eq_none hDeclared]

/-- The canonical texts of two configurations are equal exactly when the configurations are the same
build.  Their digests are equal then, and otherwise only if the bytes of the texts collide. -/
theorem canonicalText_exact (catalog : Catalog) (a b : Configuration) :
    ((catalog.identity a).canonicalText = (catalog.identity b).canonicalText ↔
      catalog.SameBuild a b) ∧
    (catalog.Reaches a → catalog.Reaches b →
      (catalog.SameBuild a b ↔
        a.target = b.target ∧ ∀ flag ∈ catalog.flags, catalog.isExcluded flag.name = false →
          a.value? flag.name = b.value? flag.name)) ∧
    (catalog.SameBuild a b → (catalog.identity a).digest = (catalog.identity b).digest) ∧
    ((catalog.identity a).digest = (catalog.identity b).digest → ¬catalog.SameBuild a b →
      Sha256.Collision (catalog.identity a).canonicalText.toUTF8.toList
        (catalog.identity b).canonicalText.toUTF8.toList) := by
  refine ⟨canonicalText_eq_iff, sameBuild_iff_of_reaches, fun hSame => ?_, fun hDigest hOther => ?_⟩
  · rw [identity_eq_iff.mpr hSame]
  · exact Sha256.collision_of_digest_eq hDigest fun hText => hOther (canonicalText_eq_iff.mp hText)

/-- On Linux, asking for everything and asking for the console are one build, since the umbrella
does not count; on another target they are not. -/
theorem canonicalText_exact_wholeRequest :
    console.Reaches (console.resolve wholeRequest .linux) ∧
      console.Reaches (console.resolve consoleRequest .linux) ∧
      (console.resolve wholeRequest .linux).value? "with_all" ≠
        (console.resolve consoleRequest .linux).value? "with_all" ∧
      (console.identity (console.resolve wholeRequest .linux)).canonicalText =
        (console.identity (console.resolve consoleRequest .linux)).canonicalText ∧
      (console.identity (console.resolve wholeRequest .linux)).canonicalText ≠
        (console.identity (console.resolve consoleRequest .macos)).canonicalText := by
  have hWhole : console.Reaches (console.resolve wholeRequest .linux) :=
    ⟨wholeRequest, .linux, by decide +kernel, rfl⟩
  have hConsole : console.Reaches (console.resolve consoleRequest .linux) :=
    ⟨consoleRequest, .linux, by decide +kernel, rfl⟩
  refine ⟨hWhole, hConsole, by decide +kernel, ?_, fun hText => ?_⟩
  · have hExact := canonicalText_exact console (console.resolve wholeRequest .linux)
      (console.resolve consoleRequest .linux)
    refine hExact.1.mpr ((hExact.2.1 hWhole hConsole).mpr ⟨rfl, ?_⟩)
    decide +kernel
  · have hExact := canonicalText_exact console (console.resolve wholeRequest .linux)
      (console.resolve consoleRequest .macos)
    have hTarget : Target.linux = Target.macos := (hExact.1.mp hText).1
    cases hTarget

end Catalog

end BuildOptions
