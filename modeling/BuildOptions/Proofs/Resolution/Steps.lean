import BuildOptions.Proofs.Catalog.Consistency
import BuildOptions.Resolution
import Mathlib.Data.Set.Basic

/-! What each step of resolution does to one flag.  A step has one lemma, which gives a look-up
after the step by look-ups before it; proofs on resolution use these and do not unfold the steps. -/

namespace BuildOptions

namespace Settings

/-- The value of a flag. -/
def value? (settings : Settings) (name : String) : Option FlagValue :=
  (settings.get? name).map (·.value)

/-- The switches that are on. -/
def onSet (settings : Settings) : Set String := {name | settings.isOn name = true}

variable (settings : Settings)

theorem isOn_eq_decide (name : String) :
    settings.isOn name = decide (settings.value? name = some (.switch true)) := by
  unfold isOn value?
  cases settings.get? name with
  | none => rfl
  | some setting =>
    rw [Bool.eq_iff_iff]
    simp [FlagValue.isOn_iff]

theorem mem_onSet_iff {settings : Settings} {name : String} :
    name ∈ settings.onSet ↔ settings.value? name = some (.switch true) := by
  simp [onSet, isOn_eq_decide]

theorem notMem_onSet_iff {settings : Settings} {name : String} :
    name ∉ settings.onSet ↔ settings.isOn name = false := by
  simp [onSet]

/-! ### Switching on -/

theorem get?_switchOn (name key : String) (origin : Origin) :
    (settings.switchOn name origin).get? key =
      if key = name ∧ settings.isOn key = false then some ⟨.switch true, origin⟩
      else settings.get? key := by
  unfold switchOn
  by_cases hOn : settings.isOn name = true
  · rw [if_pos hOn, if_neg]
    rintro ⟨rfl, hOff⟩
    rw [hOn] at hOff
    cases hOff
  · rw [if_neg hOn, NameMap.get?_insert]
    by_cases hKey : key = name
    · subst hKey
      rw [if_pos rfl, if_pos ⟨rfl, by simpa using hOn⟩]
    · rw [if_neg hKey, if_neg fun h => hKey h.1]

theorem isOn_switchOn (name key : String) (origin : Origin) :
    (settings.switchOn name origin).isOn key = (settings.isOn key || decide (key = name)) := by
  rw [isOn_eq_decide, value?, get?_switchOn]
  split
  · rename_i h
    simp [h.1]
  · rename_i h
    have hValue := isOn_eq_decide settings key
    unfold value? at hValue
    rw [← hValue]
    by_cases hKey : key = name
    · simp [hKey] at h ⊢
      exact h
    · simp [hKey]

/-- Flags that are on stay as they are; the others among `names` are switched on. -/
theorem get?_switchOnAll (names : List String) (key : String) (origin : Origin) :
    (settings.switchOnAll names origin).get? key =
      if key ∈ names ∧ settings.isOn key = false then some ⟨.switch true, origin⟩
      else settings.get? key := by
  induction names generalizing settings with
  | nil => simp [switchOnAll]
  | cons name rest ih =>
    have hStep : settings.switchOnAll (name :: rest) origin =
        (settings.switchOn name origin).switchOnAll rest origin := rfl
    rw [hStep, ih, isOn_switchOn, get?_switchOn]
    by_cases hOn : settings.isOn key = true
    · simp [hOn]
    · by_cases hKey : key = name
      · simp [hKey]
      · simp [hOn, hKey]

/-! ### Rules -/

theorem get?_applyRule (rule : Rule) (key : String) :
    (settings.applyRule rule).get? key =
      if rule.trigger.holds settings.isOn = true ∧ key ∈ rule.consequences ∧
          settings.isOn key = false then
        some ⟨.switch true, .implied rule.name⟩
      else settings.get? key := by
  unfold applyRule
  split
  · rename_i hHolds
    rw [get?_switchOnAll]
    simp [hHolds]
  · rename_i hHolds
    rw [if_neg fun h => hHolds h.1]

theorem applyRules_cons (rule : Rule) (rules : List Rule) :
    settings.applyRules (rule :: rules) = (settings.applyRule rule).applyRules rules := rfl

theorem applyRules_append (before after : List Rule) :
    settings.applyRules (before ++ after) = (settings.applyRules before).applyRules after :=
  List.foldl_append

/-! ### Constraints -/

theorem get?_applyConstraint (constraint : PlatformConstraint) (key : String) :
    (settings.applyConstraint constraint).get? key =
      if key = constraint.flag ∧ settings.value? key ≠ some (.switch constraint.value) then
        some ⟨.switch constraint.value, .platform constraint.name⟩
      else settings.get? key := by
  unfold applyConstraint
  by_cases hSame : settings.value? constraint.flag = some (.switch constraint.value)
  · rw [if_pos (show (settings.get? constraint.flag).map (·.value) = _ from hSame), if_neg]
    rintro ⟨rfl, hNe⟩
    exact hNe hSame
  · rw [if_neg (show ¬(settings.get? constraint.flag).map (·.value) = _ from hSame),
      NameMap.get?_insert]
    by_cases hKey : key = constraint.flag
    · subst hKey
      rw [if_pos rfl, if_pos ⟨rfl, hSame⟩]
    · rw [if_neg hKey, if_neg fun h => hKey h.1]

theorem value?_applyConstraint (constraint : PlatformConstraint) (key : String) :
    (settings.applyConstraint constraint).value? key =
      if key = constraint.flag then some (.switch constraint.value) else settings.value? key := by
  rw [value?, get?_applyConstraint]
  by_cases hKey : key = constraint.flag
  · by_cases hSame : settings.value? key = some (.switch constraint.value)
    · rw [if_neg fun h => h.2 hSame, if_pos hKey]
      exact hSame
    · rw [if_pos ⟨hKey, hSame⟩, if_pos hKey]
      rfl
  · rw [if_neg fun h => hKey h.1, if_neg hKey]
    rfl

/-- A flag ends with the position that the last constraint on it asks for, and where none is on it
with the value it had. -/
theorem value?_applyConstraints (constraints : List PlatformConstraint) (target : Target)
    (key : String) :
    (settings.applyConstraints constraints target).value? key =
      (((constraints.filter (·.scope.covers target)).filter (·.flag = key)).getLast?.map
        fun constraint => .switch constraint.value).or (settings.value? key) := by
  unfold applyConstraints
  induction constraints.filter (·.scope.covers target) generalizing settings with
  | nil => rfl
  | cons constraint rest ih =>
    rw [List.foldl_cons, ih, value?_applyConstraint]
    by_cases hKey : constraint.flag = key
    · rw [List.filter_cons_of_pos (by simpa using hKey), List.getLast?_cons, if_pos hKey.symm]
      cases (rest.filter (·.flag = key)).getLast? <;> rfl
    · rw [List.filter_cons_of_neg (by simpa using hKey), if_neg (Ne.symm hKey)]

theorem get?_foldl_applyConstraint_cases (constraints : List PlatformConstraint) (key : String) :
    (constraints.foldl applyConstraint settings).get? key = settings.get? key ∨
      ∃ constraint ∈ constraints, constraint.flag = key ∧
        (constraints.foldl applyConstraint settings).get? key =
          some ⟨.switch constraint.value, .platform constraint.name⟩ := by
  induction constraints generalizing settings with
  | nil => exact .inl rfl
  | cons first rest ih =>
    rw [List.foldl_cons]
    rcases ih (settings.applyConstraint first) with hSame | ⟨c, hMem, hLater⟩
    · rw [hSame, get?_applyConstraint]
      split
      · rename_i h
        exact .inr ⟨first, List.mem_cons_self, h.1.symm, rfl⟩
      · exact .inl rfl
    · exact .inr ⟨c, List.mem_cons_of_mem _ hMem, hLater⟩

/-- The constraints of a target leave a flag's setting alone, or the setting is that of one of
them. -/
theorem get?_applyConstraints_cases (constraints : List PlatformConstraint) (target : Target)
    (key : String) :
    (settings.applyConstraints constraints target).get? key = settings.get? key ∨
      ∃ constraint ∈ constraints, constraint.scope.covers target = true ∧ constraint.flag = key ∧
        (settings.applyConstraints constraints target).get? key =
          some ⟨.switch constraint.value, .platform constraint.name⟩ := by
  rcases get?_foldl_applyConstraint_cases settings (constraints.filter (·.scope.covers target)) key
    with hSame | ⟨c, hMem, hLater⟩
  · exact .inl hSame
  · obtain ⟨hConstraint, hCovers⟩ := List.mem_filter.mp hMem
    exact .inr ⟨c, hConstraint, hCovers, hLater⟩

end Settings

end BuildOptions
