import BuildOptions.Proofs.Catalog.Console
import BuildOptions.Proofs.Resolution.Typing

/-! Overrides that calls build, in any order and with failing calls in between.  Every call keeps to
values that the catalog takes, so nothing that is built can lead to a configuration that lacks a
flag, has one that is not declared, or has a value of the wrong kind. -/

namespace BuildOptions

/-- The overrides after a call: what it returns, or as they were if it fails. -/
def Overrides.after (overrides : Overrides) (result : Except OptionError Overrides) : Overrides :=
  match result with
  | .ok changed => changed
  | .error _ => overrides

namespace Catalog

/-- The overrides that calls build for a catalog, beginning with none.  What is merged over others
is itself built, and so is what a configuration that is fed back was resolved from. -/
inductive Built (catalog : Catalog) : Overrides → Prop where
  | empty : Built catalog ∅
  | set {overrides : Overrides} (name : String) (value : FlagValue) : Built catalog overrides →
      Built catalog (overrides.after (overrides.set catalog name value))
  | assign {overrides : Overrides} (text : String) : Built catalog overrides →
      Built catalog (overrides.after (overrides.assign catalog text))
  | ofPairs {overrides : Overrides} (pairs : List (String × FlagValue)) :
      Built catalog overrides →
      Built catalog (overrides.after (Overrides.ofPairs catalog pairs))
  | extend {overrides newer : Overrides} : Built catalog overrides → Built catalog newer →
      Built catalog (overrides.merge newer)
  | feedBack {overrides : Overrides} (target : Target) : Built catalog overrides →
      Built catalog (catalog.resolve overrides target).values

/-- A configuration has a value and an origin for exactly the declared flags, and each value is of
its flag's kind. -/
structure Fits (catalog : Catalog) (config : Configuration) : Prop where
  valued : ∀ name, (∃ value, config.value? name = some value) ↔
    ∃ flag ∈ catalog.flags, flag.name = name
  explained : ∀ name, (∃ origin, config.origin? name = some origin) ↔
    ∃ flag ∈ catalog.flags, flag.name = name
  typed : ∀ flag ∈ catalog.flags, ∀ value, config.value? flag.name = some value →
    value.kind = flag.kind

variable {catalog : Catalog} {overrides : Overrides} {name : String}

/-! ### What is built -/

theorem Admits.after {result : Except OptionError Overrides} (h : catalog.Admits overrides)
    (hResult : ∀ changed, result = .ok changed → catalog.Admits changed) :
    catalog.Admits (overrides.after result) := by
  unfold Overrides.after
  split
  · rename_i changed
    exact hResult changed rfl
  · exact h

theorem Built.admits (h : catalog.Built overrides) : catalog.Admits overrides := by
  -- Induction on the calls; a call that fails leaves what the calls before it built.
  induction h with
  | empty => exact admits_empty
  | set name value _ ih => exact ih.after fun _ hSet => ih.set hSet
  | assign text _ ih => exact ih.after fun _ hAssign => ih.assign hAssign
  | ofPairs pairs _ ih => exact ih.after fun _ hRun => admits_of_ofPairs hRun
  | extend _ _ ih ihNewer => exact ih.merge ihNewer
  | feedBack target _ ih => exact ih.values target

theorem Admits.built (h : catalog.Admits overrides) : catalog.Built overrides := by
  obtain ⟨pairs, hRun⟩ := admits_iff_exists_ofPairs.mp h
  have hBuilt : catalog.Built (Overrides.after ∅ (Overrides.ofPairs catalog pairs)) :=
    .ofPairs pairs .empty
  rw [hRun] at hBuilt
  exact hBuilt

/-! ### What it leads to -/

theorem Admits.exists_setting_iff (h : catalog.Admits overrides) (target : Target) :
    (∃ setting, (catalog.resolve overrides target).settings.get? name = some setting) ↔
      ∃ flag ∈ catalog.flags, flag.name = name := by
  constructor
  · rintro ⟨setting, hGet⟩
    have hValue : (catalog.resolve overrides target).value? name = some setting.value := by
      rw [Configuration.value?, hGet, Option.map_some]
    obtain ⟨flag, hFlag, hName, -⟩ := h.takes_resolve hValue
    exact ⟨flag, hFlag, hName⟩
  · rintro ⟨flag, hFlag, rfl⟩
    exact get?_resolve_isSome overrides target hFlag

theorem Admits.fits (h : catalog.Admits overrides) (target : Target) :
    catalog.Fits (catalog.resolve overrides target) where
  valued := by
    intro name
    rw [← h.exists_setting_iff target]
    simp [Configuration.value?]
  explained := by
    intro name
    rw [← h.exists_setting_iff target]
    simp [Configuration.origin?]
  typed := by
    intro flag hFlag value hValue
    exact (h.takes_resolve hValue).kind_eq hFlag

/-- Calls build exactly the overrides whose values the catalog takes.  On every target these lead to
a configuration that fits the catalog and keeps beside it what was asked for. -/
theorem built_overrides_fit (catalog : Catalog) (overrides : Overrides) :
    (catalog.Built overrides ↔ ∀ name value, overrides.get? name = some value →
      ∃ flag ∈ catalog.flags, flag.name = name ∧ value.kind = flag.kind) ∧
    (catalog.Built overrides → ∀ target,
      catalog.Fits (catalog.resolve overrides target) ∧
        ∀ name, (catalog.resolve overrides target).requested.get? name = overrides.get? name) := by
  constructor
  · constructor
    · intro hBuilt
      exact admits_iff.mp hBuilt.admits
    · intro hTaken
      exact (admits_iff.mpr hTaken).built
  · intro hBuilt target
    exact ⟨hBuilt.admits.fits target, fun name => rfl⟩

/-- The console is switched on by a word, its shell is given a word that is none, and the values of
the configuration on macOS are asked for. -/
def editedRequest : Overrides :=
  let asked := Overrides.after ∅ (Overrides.set console ∅ "with_console" (.scalar " ON "))
  let refused := asked.after (asked.assign console "with_shell=maybe")
  (console.resolve refused .macos).values

/-- The refused word leaves no trace; the shell comes from the rule, and the log stays off on Linux
because it was off on macOS. -/
theorem built_overrides_fit_editedRequest :
    console.Built editedRequest ∧
      editedRequest.get? "with_shell" = some (.switch true) ∧
      editedRequest.get? "with_log" = some (.switch false) ∧
      (∃ flag ∈ console.flags, flag.name = "with_log" ∧ flag.kind = .switch) ∧
      console.Fits (console.resolve editedRequest .linux) := by
  have hBuilt : console.Built editedRequest :=
    .feedBack .macos (.assign "with_shell=maybe" (.set "with_console" (.scalar " ON ") .empty))
  have hLog : editedRequest.get? "with_log" = some (.switch false) := by decide +kernel
  obtain ⟨hTaken, hLeads⟩ := built_overrides_fit console editedRequest
  obtain ⟨flag, hFlag, hName, hKind⟩ := hTaken.mp hBuilt "with_log" _ hLog
  exact ⟨hBuilt, by decide +kernel, hLog, ⟨flag, hFlag, hName, hKind.symm⟩,
    (hLeads hBuilt .linux).1⟩

end Catalog

end BuildOptions
