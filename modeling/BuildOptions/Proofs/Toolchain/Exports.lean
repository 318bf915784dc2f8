import BuildOptions.Catalog.Celix
import BuildOptions.Proofs.Identity.CanonicalText
import BuildOptions.Proofs.Overrides.Built
import BuildOptions.Proofs.Text.Bytes
import BuildOptions.Proofs.Text.Capitals
import BuildOptions.Toolchain.Projection

/-! The exported variables, entry by entry.  Where the names of the flags stay apart in capitals and
keep clear of the names that are exported beside them, no variable replaces another: the map holds
what it is built from and nothing else, and the values of all flags can be read off it. -/

namespace BuildOptions

theorem NameMap.mem_toList_ofList {α : Type} {entries : List (String × α)}
    (h : (entries.map Prod.fst).Nodup) {entry : String × α} :
    entry ∈ (NameMap.ofList entries).toList ↔ entry ∈ entries := by
  obtain ⟨name, value⟩ := entry
  have hDistinct : entries.reverse.Pairwise fun a b => a.1 ≠ b.1 :=
    List.pairwise_reverse.mpr ((List.pairwise_map.mp h).imp Ne.symm)
  rw [← get?_eq_some_iff_mem, ofList, get?_insertAll, get?_empty, Option.or_none,
    lookup_eq_some_iff_mem hDistinct, List.mem_reverse]

/-- Values of one kind are told apart by how they are exported. -/
theorem FlagValue.eq_of_exported_eq {a b : FlagValue} (hKind : a.kind = b.kind)
    (h : a.exported = b.exported) : a = b := by
  cases a with
  | switch on =>
    cases b with
    | switch other =>
      revert h
      cases on <;> cases other <;> decide
    | scalar text => cases hKind
  | scalar text =>
    cases b with
    | switch on => cases hKind
    | scalar other => exact congrArg scalar h

namespace Variables

/-- A configuration and a version export the value under the name. -/
inductive Exports (config : Configuration) (version : Version) : String → String → Prop where
  | on {flag : String} : config.value? flag = some (.switch true) →
      Exports config version (Text.upper flag) "ON"
  | off {flag : String} : config.value? flag = some (.switch false) →
      Exports config version (Text.upper flag) "OFF"
  | text {flag text : String} : config.value? flag = some (.scalar text) →
      Exports config version (Text.upper flag) text
  | errorInjector {package : Package} : config.isOn "enable_testing" = true →
      package ∈ config.packages → package.scope = .host → package.name = "mdnsresponder" →
      Exports config version "BUILD_ERROR_INJECTOR_MDNSRESPONDER" "ON"
  | linux : config.target = .linux →
      Exports config version "CMAKE_EXE_LINKER_FLAGS"
        "-Wl,--unresolved-symbols=ignore-in-shared-libs"
  | macos : config.target = .macos →
      Exports config version "CMAKE_EXE_LINKER_FLAGS" "-Wl,-undefined -Wl,dynamic_lookup"
  | major : Exports config version "CELIX_MAJOR" (Text.decimal version.major.toNat)
  | minor : Exports config version "CELIX_MINOR" (Text.decimal version.minor.toNat)
  | micro : Exports config version "CELIX_MICRO" (Text.decimal version.micro.toNat)

/-- The names that are exported beside those of the flags. -/
def reserved : List String :=
  ["BUILD_ERROR_INJECTOR_MDNSRESPONDER", "CMAKE_EXE_LINKER_FLAGS", "CELIX_MAJOR", "CELIX_MINOR",
    "CELIX_MICRO"]

/-- What is exported beside the flags. -/
def additions (config : Configuration) (version : Version) : List (String × String) :=
  ofErrorInjector config ++ (ofLinker config.target ++ version.exported)

variable {config : Configuration} {version : Version} {name value : String}

theorem ofConfiguration_eq (config : Configuration) (version : Version) :
    ofConfiguration config version =
      NameMap.ofList (ofFlags config ++ additions config version) := by
  rw [ofConfiguration, additions, List.append_assoc, List.append_assoc]

/-! ### What each part exports -/

theorem mem_ofFlags_iff :
    (name, value) ∈ ofFlags config ↔
      ∃ flag found, config.value? flag = some found ∧ Text.upper flag = name ∧
        found.exported = value := by
  simp only [ofFlags, List.mem_map, Prod.exists, Prod.mk.injEq, ← NameMap.get?_eq_some_iff_mem,
    Configuration.get?_values]

theorem requiresHost_iff {packages : List Package} :
    requiresHost packages name = true ↔
      ∃ package ∈ packages, package.scope = .host ∧ package.name = name := by
  simp [requiresHost]

theorem mem_ofErrorInjector_iff :
    (name, value) ∈ ofErrorInjector config ↔
      (config.isOn "enable_testing" = true ∧
        ∃ package ∈ config.packages, package.scope = .host ∧ package.name = "mdnsresponder") ∧
      name = "BUILD_ERROR_INJECTOR_MDNSRESPONDER" ∧ value = "ON" := by
  rw [← requiresHost_iff, ← Bool.and_eq_true, ofErrorInjector]
  split
  · rename_i h
    simp [h, errorInjectorName]
  · rename_i h
    simp [h]

theorem mem_ofLinker_iff {target : Target} :
    (name, value) ∈ ofLinker target ↔
      name = "CMAKE_EXE_LINKER_FLAGS" ∧
        (target = .linux ∧ value = "-Wl,--unresolved-symbols=ignore-in-shared-libs" ∨
          target = .macos ∧ value = "-Wl,-undefined -Wl,dynamic_lookup") := by
  cases target <;> simp [ofLinker, Target.linkerFlags?, linkerFlagsName]

theorem mem_exported_iff :
    (name, value) ∈ version.exported ↔
      name = "CELIX_MAJOR" ∧ value = Text.decimal version.major.toNat ∨
      name = "CELIX_MINOR" ∧ value = Text.decimal version.minor.toNat ∨
      name = "CELIX_MICRO" ∧ value = Text.decimal version.micro.toNat := by
  simp [Version.exported]

theorem exports_of_value {flag : String} {found : FlagValue} (h : config.value? flag = some found) :
    Exports config version (Text.upper flag) found.exported := by
  cases found with
  | switch on =>
    cases on with
    | true => exact .on h
    | false => exact .off h
  | scalar text => exact .text h

theorem Exports.name_cases (h : Exports config version name value) :
    (∃ flag found, config.value? flag = some found ∧ Text.upper flag = name) ∨ name ∈ reserved := by
  cases h with
  | on hValue => exact .inl ⟨_, _, hValue, rfl⟩
  | off hValue => exact .inl ⟨_, _, hValue, rfl⟩
  | text hValue => exact .inl ⟨_, _, hValue, rfl⟩
  | _ => exact .inr (by simp [reserved])

theorem exports_iff_mem :
    Exports config version name value ↔
      (name, value) ∈ ofFlags config ++ additions config version := by
  simp only [additions, List.mem_append, mem_ofFlags_iff, mem_ofErrorInjector_iff,
    mem_ofLinker_iff, mem_exported_iff]
  constructor
  · intro h
    cases h with
    | on hValue => exact .inl ⟨_, _, hValue, rfl, rfl⟩
    | off hValue => exact .inl ⟨_, _, hValue, rfl, rfl⟩
    | text hValue => exact .inl ⟨_, _, hValue, rfl, rfl⟩
    | errorInjector hOn hMem hScope hName =>
      exact .inr (.inl ⟨⟨hOn, _, hMem, hScope, hName⟩, rfl, rfl⟩)
    | linux hTarget => exact .inr (.inr (.inl ⟨rfl, .inl ⟨hTarget, rfl⟩⟩))
    | macos hTarget => exact .inr (.inr (.inl ⟨rfl, .inr ⟨hTarget, rfl⟩⟩))
    | major => exact .inr (.inr (.inr (.inl ⟨rfl, rfl⟩)))
    | minor => exact .inr (.inr (.inr (.inr (.inl ⟨rfl, rfl⟩))))
    | micro => exact .inr (.inr (.inr (.inr (.inr ⟨rfl, rfl⟩))))
  · rintro (hFlag | hInjector | hLinker | hVersion)
    · obtain ⟨flag, found, hValue, rfl, rfl⟩ := hFlag
      exact exports_of_value hValue
    · obtain ⟨⟨hOn, package, hMem, hScope, hName⟩, rfl, rfl⟩ := hInjector
      exact .errorInjector hOn hMem hScope hName
    · obtain ⟨rfl, ⟨hTarget, rfl⟩ | ⟨hTarget, rfl⟩⟩ := hLinker
      · exact .linux hTarget
      · exact .macos hTarget
    · rcases hVersion with ⟨rfl, rfl⟩ | ⟨rfl, rfl⟩ | ⟨rfl, rfl⟩
      · exact .major
      · exact .minor
      · exact .micro

/-! ### No two parts under one name -/

theorem names_additions_sublist :
    ((additions config version).map Prod.fst).Sublist reserved := by
  have hInjector : ((ofErrorInjector config).map Prod.fst).Sublist
      ["BUILD_ERROR_INJECTOR_MDNSRESPONDER"] := by
    unfold ofErrorInjector
    split
    · exact List.Sublist.refl _
    · exact List.nil_sublist _
  have hLinker : ((ofLinker config.target).map Prod.fst).Sublist ["CMAKE_EXE_LINKER_FLAGS"] := by
    cases config.target <;> decide
  rw [additions, List.map_append, List.map_append]
  exact hInjector.append (hLinker.append (List.Sublist.refl _))

end Variables

theorem Configuration.project_eq {config : Configuration} {version : Version} {text : String}
    (h : Version.read text = .ok version) :
    config.project text = .ok ⟨config.packages, .ofConfiguration config version⟩ := by
  rw [project, h]
  rfl

namespace Catalog

open Variables (Exports reserved)

/-- In capitals the names of the flags differ from each other and from the names that are exported
beside them. -/
structure ExportsApart (catalog : Catalog) : Prop where
  distinct : (catalog.flags.map fun flag => Text.upper flag.name).Nodup
  unreserved : ∀ flag ∈ catalog.flags, Text.upper flag.name ∉ reserved

variable {catalog : Catalog} {config : Configuration} {version : Version} {name value : String}

/-- Names without capitals stay apart if none of them is a reserved name in small letters. -/
theorem exportsApart_of_noCapitals (hSmall : ∀ flag ∈ catalog.flags, Text.NoCapitals flag.name)
    (hClear : ∀ flag ∈ catalog.flags, flag.name ∉ reserved.map Text.lower) :
    catalog.ExportsApart where
  distinct := by
    have hCapitals : (catalog.flags.map fun flag => Text.upper flag.name) =
        (catalog.flags.map Flag.name).map Text.upper := by
      rw [List.map_map]
      rfl
    rw [hCapitals]
    refine List.Nodup.map_on (fun a ha b hb hSame => ?_) catalog.nodup_names
    obtain ⟨first, hFirst, rfl⟩ := List.mem_map.mp ha
    obtain ⟨second, hSecond, rfl⟩ := List.mem_map.mp hb
    exact Text.upper_inj (hSmall first hFirst) (hSmall second hSecond) hSame
  unreserved := by
    intro flag hFlag hReserved
    refine hClear flag hFlag (List.mem_map.mpr ⟨_, hReserved, ?_⟩)
    exact Text.lower_upper (hSmall flag hFlag)

theorem exportsApart_celix : celix.ExportsApart := by
  have hBytes : ∀ flag ∈ celix.flags, (flag.name.toByteArray.data.toList.all fun b =>
      b.toNat ≤ 127 && !(Char.ofNat b.toNat).isUpper) = true := by
    decide
  have hSmall : ∀ flag ∈ celix.flags, Text.NoCapitals flag.name := by
    intro flag hFlag c hChar
    have hNot : (!c.isUpper) = true :=
      Text.forall_char_of_all_bytes (p := fun c => !c.isUpper) (hBytes flag hFlag) c hChar
    rwa [Bool.not_eq_true'] at hNot
  have hReserved : reserved.map Text.lower = ["build_error_injector_mdnsresponder",
      "cmake_exe_linker_flags", "celix_major", "celix_minor", "celix_micro"] := by
    decide
  refine exportsApart_of_noCapitals hSmall ?_
  rw [hReserved]
  decide

theorem Reaches.exists_flag {found : FlagValue} (h : catalog.Reaches config)
    (hValue : config.value? name = some found) : ∃ flag ∈ catalog.flags, flag.name = name := by
  by_contra hUndeclared
  rw [h.value?_eq_none hUndeclared] at hValue
  cases hValue

theorem Reaches.exists_value (h : catalog.Reaches config) {flag : Flag}
    (hFlag : flag ∈ catalog.flags) :
    ∃ found, config.value? flag.name = some found ∧ found.kind = flag.kind := by
  obtain ⟨overrides, target, hAdmits, rfl⟩ := h
  obtain ⟨setting, hGet⟩ := get?_resolve_isSome overrides target hFlag
  have hValue : (catalog.resolve overrides target).value? flag.name = some setting.value := by
    rw [Configuration.value?, hGet, Option.map_some]
  exact ⟨setting.value, hValue, (hAdmits.takes_resolve hValue).kind_eq hFlag⟩

section Apart

variable (hApart : catalog.ExportsApart) (hReaches : catalog.Reaches config)
include hApart

theorem ExportsApart.upper_inj {a b : Flag} (ha : a ∈ catalog.flags) (hb : b ∈ catalog.flags)
    (h : Text.upper a.name = Text.upper b.name) : a = b :=
  List.inj_on_of_nodup_map hApart.distinct ha hb h

include hReaches

theorem ExportsApart.nodup_ofFlags : ((Variables.ofFlags config).map Prod.fst).Nodup := by
  have hNames : (config.values.toList.map Prod.fst).Nodup :=
    List.pairwise_map.mpr (NameMap.distinct_of_ascending config.values.ascending)
  have hCapitals : (Variables.ofFlags config).map Prod.fst =
      (config.values.toList.map Prod.fst).map Text.upper := by
    simp [Variables.ofFlags]
  have hDeclared : ∀ name ∈ config.values.toList.map Prod.fst,
      ∃ flag ∈ catalog.flags, flag.name = name := by
    intro name hName
    obtain ⟨⟨_, found⟩, hEntry, rfl⟩ := List.mem_map.mp hName
    rw [← NameMap.get?_eq_some_iff_mem, Configuration.get?_values] at hEntry
    exact hReaches.exists_flag hEntry
  rw [hCapitals]
  refine List.Nodup.map_on (fun a ha b hb hSame => ?_) hNames
  obtain ⟨first, hFirst, rfl⟩ := hDeclared a ha
  obtain ⟨second, hSecond, rfl⟩ := hDeclared b hb
  rw [hApart.upper_inj hFirst hSecond hSame]

theorem ExportsApart.nodup_exported :
    ((Variables.ofFlags config ++ Variables.additions config version).map Prod.fst).Nodup := by
  have hReserved : reserved.Nodup := by decide
  rw [List.map_append, List.nodup_append]
  refine ⟨hApart.nodup_ofFlags hReaches, hReserved.sublist Variables.names_additions_sublist, ?_⟩
  intro a ha b hb hSame
  obtain ⟨⟨_, found⟩, hEntry, rfl⟩ := List.mem_map.mp ha
  obtain ⟨flag, value, hValue, rfl, -⟩ := Variables.mem_ofFlags_iff.mp hEntry
  obtain ⟨declared, hFlag, rfl⟩ := hReaches.exists_flag hValue
  refine hApart.unreserved declared hFlag ?_
  rw [show Text.upper declared.name = b from hSame]
  exact Variables.names_additions_sublist.subset hb

theorem ExportsApart.mem_exported_iff :
    (name, value) ∈ (Variables.ofConfiguration config version).toList ↔
      Exports config version name value := by
  rw [Variables.ofConfiguration_eq, NameMap.mem_toList_ofList (hApart.nodup_exported hReaches),
    Variables.exports_iff_mem]

theorem ExportsApart.get?_exported {found : FlagValue} (hValue : config.value? name = some found) :
    (Variables.ofConfiguration config version).get? (Text.upper name) = some found.exported := by
  rw [NameMap.get?_eq_some_iff_mem, hApart.mem_exported_iff hReaches]
  exact Variables.exports_of_value hValue

end Apart

theorem ExportsApart.values_eq {a b : Configuration} {other : Version}
    (hApart : catalog.ExportsApart) (hA : catalog.Reaches a) (hB : catalog.Reaches b)
    (hSame : Variables.ofConfiguration a version = Variables.ofConfiguration b other) :
    a.values = b.values := by
  apply NameMap.ext_get?
  intro name
  rw [Configuration.get?_values, Configuration.get?_values]
  by_cases hDeclared : ∃ flag ∈ catalog.flags, flag.name = name
  · obtain ⟨flag, hFlag, rfl⟩ := hDeclared
    obtain ⟨first, hFirst, hFirstKind⟩ := hA.exists_value hFlag
    obtain ⟨second, hSecond, hSecondKind⟩ := hB.exists_value hFlag
    have hExported : (Variables.ofConfiguration a version).get? (Text.upper flag.name) =
        some first.exported := hApart.get?_exported hA hFirst
    rw [hSame, hApart.get?_exported hB hSecond, Option.some.injEq] at hExported
    rw [hFirst, hSecond,
      FlagValue.eq_of_exported_eq (hFirstKind.trans hSecondKind.symm) hExported.symm]
  · rw [hA.value?_eq_none hDeclared, hB.value?_eq_none hDeclared]

theorem exists_ofConfiguration_of_project {text : String} {projection : Projection}
    (h : config.project text = .ok projection) :
    ∃ version, projection.exported = Variables.ofConfiguration config version := by
  unfold Configuration.project at h
  obtain ⟨version, -, hResult⟩ := bind_eq_ok_iff.mp h
  cases hResult
  exact ⟨version, rfl⟩

/-- Where the names of the flags stay apart in capitals, as in the Celix catalog, a configuration is
projected for every version, and the variables are the flags in capitals with their values, the
numbers of the version, the linker's flags on the two targets that have them, and the error injector
if tests are built against its library.  Equal variables come from equal values of all flags. -/
theorem exported_exact :
    celix.ExportsApart ∧
    ∀ catalog : Catalog, catalog.ExportsApart →
      (∀ config text version, catalog.Reaches config → Version.read text = .ok version →
        ∃ projection, config.project text = .ok projection ∧
          (∀ name value, (name, value) ∈ projection.exported.toList ↔
            Exports config version name value) ∧
          ∀ flag ∈ catalog.flags, ∃ found, config.value? flag.name = some found ∧
            projection.exported.get? (Text.upper flag.name) = some found.exported) ∧
      ∀ a b text other first second, catalog.Reaches a → catalog.Reaches b →
        Configuration.project a text = .ok first → Configuration.project b other = .ok second →
          first.exported = second.exported → a.values = b.values := by
  refine ⟨exportsApart_celix, fun catalog hApart => ⟨?_, ?_⟩⟩
  · intro config text version hReaches hRead
    refine ⟨_, Configuration.project_eq hRead,
      fun name value => hApart.mem_exported_iff hReaches, fun flag hFlag => ?_⟩
    obtain ⟨found, hValue, -⟩ := hReaches.exists_value hFlag
    exact ⟨found, hValue, hApart.get?_exported hReaches hValue⟩
  · intro a b text other first second hA hB hFirst hSecond hSame
    obtain ⟨version, hVersion⟩ := exists_ofConfiguration_of_project hFirst
    obtain ⟨later, hLater⟩ := exists_ofConfiguration_of_project hSecond
    rw [hVersion, hLater] at hSame
    exact hApart.values_eq hA hB hSame

/-- The console exports its size as it was asked for and the linker's flags for macOS; on the two
targets without such flags it exports the same variables, and so it has the same values there. -/
theorem exported_exact_consoleRequest :
    console.ExportsApart ∧
      console.Reaches (console.resolve consoleRequest .macos) ∧
      (∃ projection,
        (console.resolve consoleRequest .macos).project Version.ofPackage = .ok projection ∧
        ("LOG_SIZE", "4") ∈ projection.exported.toList ∧
        ("WITH_LOG", "OFF") ∈ projection.exported.toList ∧
        ("CMAKE_EXE_LINKER_FLAGS", "-Wl,-undefined -Wl,dynamic_lookup") ∈
          projection.exported.toList) ∧
      (console.resolve consoleRequest .windows).values =
        (console.resolve consoleRequest .freebsd).values := by
  have hApart : console.ExportsApart := ⟨by decide +kernel, by decide +kernel⟩
  have hReaches : ∀ target, console.Reaches (console.resolve consoleRequest target) :=
    fun target => ⟨consoleRequest, target, by decide +kernel, rfl⟩
  have hRead : Version.read Version.ofPackage = .ok ⟨2, 3, 0⟩ := by decide +kernel
  obtain ⟨hEntries, hValues⟩ := exported_exact.2 console hApart
  obtain ⟨projection, hProject, hExports, -⟩ := hEntries _ _ _ (hReaches .macos) hRead
  have hSize : Text.upper "log_size" = "LOG_SIZE" := by decide +kernel
  have hLog : Text.upper "with_log" = "WITH_LOG" := by decide +kernel
  refine ⟨hApart, hReaches .macos, ⟨projection, hProject, ?_, ?_, ?_⟩, ?_⟩
  · rw [hExports, ← hSize]
    exact .text (by decide +kernel)
  · rw [hExports, ← hLog]
    exact .off (by decide +kernel)
  · rw [hExports]
    exact .macos rfl
  · refine hValues _ _ _ _ _ _ (hReaches .windows) (hReaches .freebsd)
      (Configuration.project_eq hRead) (Configuration.project_eq hRead) ?_
    decide +kernel

end Catalog

end BuildOptions
