import BuildOptions.Proofs.Resolution.Steps

/-! The settings that the rules start from: for each flag its override, else its default, and every
feature flag on if an override turns the umbrella on. -/

namespace BuildOptions.Catalog

variable (catalog : Catalog) (overrides : Overrides)

/-- The value of a flag before anything is switched on for it: its override, else its default. -/
def initialValue? (name : String) : Option FlagValue :=
  (overrides.get? name).or ((catalog.flag? name).map Flag.default)

/-- An override turns the umbrella on. -/
def UmbrellaRequested : Prop :=
  ∃ umbrella, catalog.umbrella = some umbrella ∧ overrides.get? umbrella = some (.switch true)

/-- The switches that are on before the rules are read: those whose initial value is on, and all
feature flags if the umbrella is requested. -/
def initiallyOn : Set String :=
  {name | catalog.initialValue? overrides name = some (.switch true) ∨
    catalog.UmbrellaRequested overrides ∧
      ∃ flag ∈ catalog.flags, catalog.isFeature flag = true ∧ flag.name = name}

/-- The umbrella is off by default and no rule switches it on. -/
def UmbrellaOnRequestOnly : Prop :=
  ∀ umbrella ∈ catalog.umbrella,
    (∀ flag ∈ catalog.flags, flag.name = umbrella → flag.default = .switch false) ∧
      ∀ rule ∈ catalog.rules, umbrella ∉ rule.consequences

instance : Decidable catalog.UmbrellaOnRequestOnly :=
  inferInstanceAs (Decidable (∀ umbrella ∈ catalog.umbrella, _))

/-- The switches that do not count for the identity are off by default. -/
def ExclusionsOffByDefault : Prop :=
  ∀ flag ∈ catalog.flags, flag.kind = .switch → catalog.isExcluded flag.name = true →
    flag.default = .switch false

instance : Decidable catalog.ExclusionsOffByDefault :=
  inferInstanceAs (Decidable (∀ flag ∈ catalog.flags, _ → _ → _))

theorem get?_defaults (name : String) :
    catalog.defaults.get? name =
      (catalog.flag? name).map fun flag => ⟨flag.default, .default⟩ := by
  have hDistinct : catalog.flags.Pairwise fun a b => a.name ≠ b.name :=
    List.pairwise_map.mp catalog.nodup_names
  apply Option.ext
  intro setting
  rw [defaults, NameMap.ofList, NameMap.get?_insertAll, NameMap.get?_empty, Option.or_none,
    NameMap.lookup_eq_some_iff_mem]
  · simp only [List.mem_reverse, List.mem_map, Prod.mk.injEq, Option.map_eq_some_iff,
      flag?_eq_some_iff]
    constructor
    · rintro ⟨flag, hMem, hName, hSetting⟩
      exact ⟨flag, ⟨hMem, hName⟩, hSetting⟩
    · rintro ⟨flag, ⟨hMem, hName⟩, hSetting⟩
      exact ⟨flag, hMem, hName, hSetting⟩
  · exact List.pairwise_reverse.mpr (List.pairwise_map.mpr (hDistinct.imp Ne.symm))

theorem get?_overridden (name : String) :
    (catalog.overridden overrides).get? name =
      ((overrides.get? name).map fun value => ⟨value, .explicit⟩).or
        ((catalog.flag? name).map fun flag => ⟨flag.default, .default⟩) := by
  rw [overridden, NameMap.get?_merge, NameMap.get?_map, get?_defaults]

theorem value?_overridden (name : String) :
    (catalog.overridden overrides).value? name = catalog.initialValue? overrides name := by
  rw [Settings.value?, get?_overridden, initialValue?]
  cases overrides.get? name <;> simp [Function.comp_def]

theorem umbrellaIsOn_iff :
    catalog.umbrellaIsOn overrides = true ↔ catalog.UmbrellaRequested overrides := by
  unfold umbrellaIsOn UmbrellaRequested
  cases catalog.umbrella with
  | none => simp
  | some umbrella =>
    cases hGet : overrides.get? umbrella with
    | none => simp [hGet]
    | some value => simp [hGet, FlagValue.isOn_iff]

theorem mem_features_iff {name : String} :
    name ∈ catalog.features ↔
      ∃ flag ∈ catalog.flags, catalog.isFeature flag = true ∧ flag.name = name := by
  simp only [features, List.mem_map, List.mem_filter, and_assoc]

theorem get?_start (name : String) :
    (catalog.start overrides).get? name =
      if catalog.umbrellaIsOn overrides = true ∧ name ∈ catalog.features ∧
          (catalog.overridden overrides).isOn name = false then
        some ⟨.switch true, .bulk⟩
      else (catalog.overridden overrides).get? name := by
  unfold start
  split
  · rename_i hUmbrella
    rw [Settings.get?_switchOnAll]
    simp [hUmbrella]
  · rename_i hUmbrella
    rw [if_neg fun h => hUmbrella h.1]

theorem onSet_start : (catalog.start overrides).onSet = catalog.initiallyOn overrides := by
  ext name
  rw [Settings.mem_onSet_iff, Settings.value?, get?_start, initiallyOn, Set.mem_ofPred_eq,
    ← umbrellaIsOn_iff, ← mem_features_iff, ← value?_overridden]
  split
  · rename_i h
    simp [h.1, h.2.1]
  · rename_i h
    rw [← Settings.value?]
    constructor
    · exact .inl
    · rintro (hOn | ⟨hUmbrella, hFeature⟩)
      · exact hOn
      · refine Settings.mem_onSet_iff.mp (Classical.not_not.mp fun hOff => h ?_)
        exact ⟨hUmbrella, hFeature, Settings.notMem_onSet_iff.mp hOff⟩

variable {catalog overrides}

theorem value?_start_of_notMem {name : String} (h : name ∉ catalog.initiallyOn overrides) :
    (catalog.start overrides).value? name = catalog.initialValue? overrides name := by
  rw [← value?_overridden, Settings.value?, get?_start, if_neg, ← Settings.value?]
  rintro ⟨hUmbrella, hFeature, -⟩
  exact h (.inr ⟨(umbrellaIsOn_iff ..).mp hUmbrella, (mem_features_iff ..).mp hFeature⟩)

theorem origin_start_ne_implied {name : String} {setting : Setting}
    (hGet : (catalog.start overrides).get? name = some setting) (ruleName : String) :
    setting.origin ≠ .implied ruleName := by
  rw [get?_start, get?_overridden] at hGet
  rintro hImplied
  split at hGet
  · cases hGet
    cases hImplied
  · cases hOverride : overrides.get? name with
    | some value =>
      rw [hOverride] at hGet
      cases hGet
      cases hImplied
    | none =>
      rw [hOverride, Option.map_none, Option.none_or] at hGet
      obtain ⟨flag, -, rfl⟩ := Option.map_eq_some_iff.mp hGet
      cases hImplied

/-- A flag starts at its default, at its override, or switched on with the feature flags. -/
theorem get?_start_cases {flag : Flag} (hFlag : flag ∈ catalog.flags) :
    (overrides.get? flag.name = none ∧
        (catalog.start overrides).get? flag.name = some ⟨flag.default, .default⟩) ∨
      (∃ value, overrides.get? flag.name = some value ∧
        (catalog.start overrides).get? flag.name = some ⟨value, .explicit⟩) ∨
      (catalog.UmbrellaRequested overrides ∧ catalog.isFeature flag = true ∧
        catalog.initialValue? overrides flag.name ≠ some (.switch true) ∧
        (catalog.start overrides).get? flag.name = some ⟨.switch true, .bulk⟩) := by
  rw [get?_start]
  split
  · rename_i h
    obtain ⟨hUmbrella, hFeature, hOff⟩ := h
    obtain ⟨other, hOther, hIs, hName⟩ := (mem_features_iff _).mp hFeature
    obtain rfl : other = flag := eq_of_name_eq hOther hFlag hName
    rw [Settings.isOn_eq_decide, value?_overridden, decide_eq_false_iff_not] at hOff
    exact .inr (.inr ⟨(umbrellaIsOn_iff ..).mp hUmbrella, hIs, hOff, rfl⟩)
  · rw [get?_overridden, flag?_name hFlag]
    cases overrides.get? flag.name with
    | none => exact .inl ⟨rfl, rfl⟩
    | some value => exact .inr (.inl ⟨value, rfl, rfl⟩)

/-- A flag that is off by default has the initial value on only if an override gives it. -/
theorem requested_of_initialValue?_on {name : String}
    (hDefault : ∀ flag ∈ catalog.flags, flag.name = name → flag.default = .switch false)
    (hOn : catalog.initialValue? overrides name = some (.switch true)) :
    overrides.get? name = some (.switch true) := by
  unfold initialValue? at hOn
  cases hGet : overrides.get? name with
  | some value =>
    rw [hGet, Option.some_or] at hOn
    exact hOn
  | none =>
    rw [hGet, Option.none_or] at hOn
    obtain ⟨flag, hFind, hFlagOn⟩ := Option.map_eq_some_iff.mp hOn
    obtain ⟨hFlag, hName⟩ := flag?_eq_some_iff.mp hFind
    rw [hDefault flag hFlag hName] at hFlagOn
    cases hFlagOn

theorem kind_of_isFeature {flag : Flag} (h : catalog.isFeature flag = true) :
    flag.kind = .switch := by
  simp only [isFeature, Flag.isSwitch, Bool.and_eq_true, decide_eq_true_eq] at h
  exact h.1

/-- A scalar is no feature flag, so the umbrella does not reach it. -/
theorem value?_start_of_scalar {flag : Flag} (hFlag : flag ∈ catalog.flags)
    (hScalar : flag.kind = .scalar) :
    (catalog.start overrides).value? flag.name = catalog.initialValue? overrides flag.name := by
  rw [← value?_overridden, Settings.value?, get?_start, if_neg, ← Settings.value?]
  rintro ⟨-, hFeature, -⟩
  obtain ⟨other, hOther, hIs, hName⟩ := (mem_features_iff _).mp hFeature
  exact ne_name_of_switch hFlag hScalar ⟨other, hOther, hName, kind_of_isFeature hIs⟩ rfl

end BuildOptions.Catalog
