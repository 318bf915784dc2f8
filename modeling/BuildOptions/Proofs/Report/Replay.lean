import BuildOptions.Proofs.Overrides.Assignment
import BuildOptions.Proofs.Resolution.Provenance
import BuildOptions.Proofs.Resolution.Stability
import BuildOptions.Proofs.Resolution.Typing
import BuildOptions.Proofs.Text.Lines
import BuildOptions.Report.Resolution

/-! Reports that are read back.  The lines of a report on a configuration are assignments; made one
after another they ask for the values that the report shows, and since what it hides is at its
default, they lead to the configuration that it reports on. -/

namespace BuildOptions

/-- The text is on one line, and it is not blank at either end. -/
def Text.IsTidy (s : String) : Prop := '\n' ∉ s.toList ∧ Text.trim s = s

instance (s : String) : Decidable (Text.IsTidy s) := inferInstanceAs (Decidable (_ ∧ _))

theorem FlagValue.isTidy_switch (on : Bool) : Text.IsTidy (FlagValue.switch on).render := by
  cases on <;> decide

namespace Report

/-- The values that a view of a configuration shows, as overrides. -/
def shownValues (config : Configuration) (view : View) : Overrides :=
  (config.settings.filter fun _ setting => !view.changedOnly || setting.origin ≠ .default).map
    (·.value)

variable {config : Configuration} {view : View} {name : String}

theorem toList_shownValues :
    (shownValues config view).toList =
      (visible config view).map fun entry => (entry.1, entry.2.value) :=
  rfl

theorem get?_shownValues :
    (shownValues config view).get? name =
      ((config.settings.get? name).filter fun setting =>
        !view.changedOnly || setting.origin ≠ .default).map (·.value) := by
  rw [shownValues, NameMap.get?_map, NameMap.get?_filter]

theorem value?_of_get?_shownValues {value : FlagValue}
    (h : (shownValues config view).get? name = some value) : config.value? name = some value := by
  rw [get?_shownValues] at h
  obtain ⟨setting, hFilter, hValue⟩ := Option.map_eq_some_iff.mp h
  obtain ⟨hGet, -⟩ := Option.filter_eq_some_iff.mp hFilter
  rw [Configuration.value?, hGet, Option.map_some, hValue]

theorem shownValues_of_all (h : view.changedOnly = false) :
    shownValues config view = config.values := by
  apply NameMap.ext_get?
  intro name
  rw [get?_shownValues, Configuration.get?_values, Configuration.value?, h]
  cases config.settings.get? name <;> rfl

/-! ### The lines of a report -/

/-- The assignment that a report writes for a name and a value. -/
def assignment (entry : String × FlagValue) : String := entry.1 ++ " = " ++ entry.2.render

theorem lines_configurationText (hPlain : view.explain = false)
    (h : ∀ entry ∈ (shownValues config view).toList, '\n' ∉ (assignment entry).toList) :
    Text.lines (configurationText view config) =
      ("# target: " ++ config.target.name) :: (shownValues config view).toList.map assignment := by
  have hTarget : '\n' ∉ ("# target: " ++ config.target.name).toList := by
    cases config.target <;> decide
  have hLines : (visible config view).map (fun entry => settingLine view entry.1 entry.2) =
      ((shownValues config view).toList.map assignment).map (· ++ "\n") := by
    rw [toList_shownValues, List.map_map, List.map_map]
    refine List.map_congr_left fun entry _ => ?_
    simp only [settingLine, hPlain, Bool.false_eq_true, if_false]
    rfl
  rw [configurationText, hLines, Text.lines_append hTarget, Text.lines_join]
  intro line hLine
  obtain ⟨entry, hEntry, rfl⟩ := List.mem_map.mp hLine
  exact h entry hEntry

end Report

namespace Catalog

variable {catalog : Catalog} {overrides : Overrides} {target : Target} {view : View} {name : String}

/-- Names and defaults of the catalog stand in assignments as they are. -/
def WritesTidily (catalog : Catalog) : Prop :=
  ∀ flag ∈ catalog.flags, Overrides.IsAssignable flag.name ∧ '\n' ∉ flag.name.toList ∧
    Text.IsTidy flag.default.render

theorem writesTidily_celix : celix.WritesTidily := by
  have hDefault : ∀ flag ∈ celix.flags, Text.IsTidy flag.default.render := by decide
  intro flag hFlag
  have hNewline : '\n' ∉ flag.name.toList := by
    intro hMem
    have hBlank := (solidNames_celix flag hFlag _ hMem).2
    cases hBlank
  exact ⟨isAssignable_celix hFlag, hNewline, hDefault flag hFlag⟩

/-- The flag takes the value, and the assignment of the one to the other can be read back from a
line of its own. -/
structure Writes (catalog : Catalog) (entry : String × FlagValue) : Prop where
  takes : catalog.Takes entry.1 entry.2
  name : Overrides.IsAssignable entry.1
  oneLine : '\n' ∉ entry.1.toList
  value : Text.IsTidy entry.2.render

theorem Writes.newline_notMem {entry : String × FlagValue} (h : catalog.Writes entry) :
    '\n' ∉ (Report.assignment entry).toList := by
  have hName := h.oneLine
  have hValue := h.value.1
  simp [Report.assignment, hName, hValue]

/-! ### Making the assignments -/

theorem foldlM_assign_map (start : Overrides) {entries : List (String × FlagValue)}
    (h : ∀ entry ∈ entries, catalog.Writes entry) :
    (entries.map Report.assignment).foldlM (Overrides.assign catalog) start =
      .ok (start.insertAll entries) := by
  refine NameMap.foldlM_map_eq_insertAll Report.assignment (fun entry hEntry acc => ?_) start
  exact (h entry hEntry).takes.assign_render (h entry hEntry).name (h entry hEntry).value.2 acc

section Values

variable (hTidy : catalog.WritesTidily)
  (hTexts : ∀ entry ∈ overrides.toList, ∀ text ∈ entry.2.text?, Text.IsTidy text)
include hTidy hTexts

theorem isTidy_initialValue? {value : FlagValue}
    (h : catalog.initialValue? overrides name = some value) : Text.IsTidy value.render := by
  unfold initialValue? at h
  cases hGet : overrides.get? name with
  | some given =>
    rw [hGet, Option.some_or] at h
    cases h
    cases value with
    | switch on => exact FlagValue.isTidy_switch on
    | scalar text => exact hTexts _ ((NameMap.get?_eq_some_iff_mem _).mp hGet) text rfl
  | none =>
    rw [hGet, Option.none_or, Option.map_eq_some_iff] at h
    obtain ⟨flag, hFind, rfl⟩ := h
    exact (hTidy flag (flag?_eq_some_iff.mp hFind).1).2.2

theorem isTidy_resolve (hAdmits : catalog.Admits overrides) {value : FlagValue}
    (h : (catalog.resolve overrides target).value? name = some value) :
    Text.IsTidy value.render := by
  cases hValue : value with
  | switch on => exact FlagValue.isTidy_switch on
  | scalar text =>
    -- Resolution makes no texts of its own.
    obtain ⟨flag, hFlag, rfl, hKind⟩ := hAdmits.takes_resolve h
    have hScalar : flag.kind = .scalar := by rw [← hKind, hValue, FlagValue.kind]
    rw [value?_resolve_of_scalar hFlag hScalar, hValue] at h
    exact isTidy_initialValue? hTidy hTexts h

theorem writes_shownValues (hAdmits : catalog.Admits overrides) :
    ∀ entry ∈ (Report.shownValues (catalog.resolve overrides target) view).toList,
      catalog.Writes entry := by
  rintro ⟨name, value⟩ hEntry
  have hValue : (catalog.resolve overrides target).value? name = some value :=
    Report.value?_of_get?_shownValues ((NameMap.get?_eq_some_iff_mem _).mpr hEntry)
  obtain ⟨flag, hFlag, rfl, -⟩ := hAdmits.takes_resolve hValue
  obtain ⟨hName, hLine, -⟩ := hTidy flag hFlag
  exact ⟨hAdmits.takes_resolve hValue, hName, hLine, isTidy_resolve hTidy hTexts hAdmits hValue⟩

end Values

/-! ### Where the assignments lead -/

theorem initialValue?_shownValues (hAdmits : catalog.Admits overrides) :
    catalog.initialValue? (Report.shownValues (catalog.resolve overrides target) view) name =
      (catalog.resolve overrides target).value? name := by
  rw [initialValue?]
  cases hShown : (Report.shownValues (catalog.resolve overrides target) view).get? name with
  | some value => rw [Option.some_or, Report.value?_of_get?_shownValues hShown]
  | none =>
    rw [Option.none_or]
    cases hFind : catalog.flag? name with
    | none =>
      cases hValue : (catalog.resolve overrides target).value? name with
      | none => rfl
      | some value =>
        obtain ⟨flag, hFlag, rfl, -⟩ := hAdmits.takes_resolve hValue
        rw [flag?_name hFlag] at hFind
        cases hFind
    | some flag =>
      obtain ⟨hFlag, rfl⟩ := flag?_eq_some_iff.mp hFind
      obtain ⟨setting, hGet, hExplains⟩ := explains_resolve overrides target hFlag
      rw [Report.get?_shownValues, hGet, Option.map_eq_none_iff,
        Option.filter_eq_none_iff] at hShown
      -- What a report hides is at its default, and its flag starts there again.
      have hHidden := hShown setting rfl
      have hDefault : setting.origin = .default := by
        rw [Bool.not_eq_true, Bool.or_eq_false_iff, decide_eq_false_iff_not, not_not] at hHidden
        exact hHidden.2
      have hValue : setting.value = flag.default := by
        by_contra hOther
        exact hExplains.origin_ne_default hOther hDefault
      rw [Configuration.value?, hGet, Option.map_some, Option.map_some, hValue]

theorem agrees_shownValues (hAdmits : catalog.Admits overrides) (hHazards : catalog.hazards = [])
    (hOff : catalog.ConstraintsSwitchOff target) (hUmbrella : catalog.UmbrellaOnRequestOnly) :
    (catalog.resolve (Report.shownValues (catalog.resolve overrides target) view) target).Agrees
      (catalog.resolve overrides target) := by
  refine ⟨rfl, NameMap.ext_get? fun name => ?_⟩
  rw [Configuration.get?_values, Configuration.get?_values]
  refine value?_resolve_again hOff hHazards hUmbrella (fun other hOn => ?_)
    (initialValue?_shownValues hAdmits)
  rw [initialValue?_shownValues hAdmits] at hOn
  exact Configuration.mem_onSet_iff.mpr hOn

/-- The lines of a report on a Celix configuration, in order, are assignments that succeed and lead
to the configuration again, with the unchanged settings in the report or without.  With them, the
assignments ask for exactly its values. -/
theorem report_replays (overrides : Overrides) (target : Target) (version : String)
    (changedOnly : Bool) (hAdmits : celix.Admits overrides)
    (hTexts : ∀ entry ∈ overrides.toList, ∀ text ∈ entry.2.text?,
      '\n' ∉ text.toList ∧ Text.trim text = text) :
    ∃ settings replayed,
      Text.lines (Report.resolution celix ⟨overrides, target, version⟩ ⟨false, changedOnly, false⟩
        .text) = ("# target: " ++ target.name) :: settings ∧
      settings.foldlM (Overrides.assign celix) ∅ = .ok replayed ∧
      (celix.resolve replayed target).Agrees (celix.resolve overrides target) ∧
      (changedOnly = false → replayed = (celix.resolve overrides target).values) := by
  let view : View := ⟨false, changedOnly, false⟩
  let shown := Report.shownValues (celix.resolve overrides target) view
  have hWrites : ∀ entry ∈ shown.toList, celix.Writes entry :=
    writes_shownValues writesTidily_celix hTexts hAdmits
  refine ⟨shown.toList.map Report.assignment, shown, ?_, ?_, ?_, fun hAll => ?_⟩
  · have hText : Report.resolution celix ⟨overrides, target, version⟩ view .text =
        Report.configurationText view (celix.resolve overrides target) := by
      change "\n".intercalate [Report.configurationText view (celix.resolve overrides target)] = _
      rw [String.intercalate_singleton]
    rw [hText]
    exact Report.lines_configurationText rfl fun entry hEntry =>
      (hWrites entry hEntry).newline_notMem
  · have hRun := foldlM_assign_map ∅ hWrites
    rw [← NameMap.ofList, NameMap.ofList_toList] at hRun
    exact hRun
  · exact agrees_shownValues hAdmits hazards_celix (constraintsSwitchOff_celix target)
      umbrellaOnRequestOnly_celix
  · have hView : view.changedOnly = false := hAll
    exact Report.shownValues_of_all hView

/-- A switch that the target does not have, and a text that looks like an assignment. -/
def oddRequest : Overrides :=
  .ofList [("build_shell_bonjour", .switch true), ("celix_err_buffer_size", .scalar "a=b # c")]

theorem report_replays_oddRequest :
    celix.Admits oddRequest ∧
      (∀ entry ∈ oddRequest.toList, ∀ text ∈ entry.2.text?,
        '\n' ∉ text.toList ∧ Text.trim text = text) ∧
      ∃ settings replayed,
        Text.lines (Report.resolution celix ⟨oddRequest, .macos, Version.ofPackage⟩
          ⟨false, true, false⟩ .text) = ("# target: " ++ Target.macos.name) :: settings ∧
        settings.foldlM (Overrides.assign celix) ∅ = .ok replayed ∧
        (celix.resolve replayed .macos).Agrees (celix.resolve oddRequest .macos) := by
  have hAdmits : celix.Admits oddRequest := by decide
  have hTexts : ∀ entry ∈ oddRequest.toList, ∀ text ∈ entry.2.text?,
      '\n' ∉ text.toList ∧ Text.trim text = text := by decide
  obtain ⟨settings, replayed, hLines, hRun, hAgrees, -⟩ :=
    report_replays oddRequest .macos Version.ofPackage true hAdmits hTexts
  exact ⟨hAdmits, hTexts, settings, replayed, hLines, hRun, hAgrees⟩

end Catalog

end BuildOptions
