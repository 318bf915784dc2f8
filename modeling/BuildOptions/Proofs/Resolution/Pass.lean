import BuildOptions.Proofs.Resolution.Steps
import BuildOptions.Proofs.Rule.Closed

/-! One pass over rules.  It switches flags on and does nothing else, and it stays within every
closed set that holds what was on before it. -/

namespace BuildOptions.Settings

variable {settings : Settings} {name : String}

/-! ### One rule -/

theorem holds_iff {trigger : Trigger} :
    trigger.holds settings.isOn = true ↔ trigger.HoldsIn settings.onSet :=
  Trigger.holds_iff_holdsIn

theorem mem_onSet_applyRule_iff {rule : Rule} :
    name ∈ (settings.applyRule rule).onSet ↔
      name ∈ settings.onSet ∨ rule.trigger.HoldsIn settings.onSet ∧ name ∈ rule.consequences := by
  rw [mem_onSet_iff, value?, get?_applyRule, ← holds_iff]
  split
  · rename_i h
    simp [h.1, h.2.1]
  · rename_i h
    rw [← value?, ← mem_onSet_iff]
    constructor
    · exact .inl
    · rintro (hOn | ⟨hHolds, hMem⟩)
      · exact hOn
      · by_contra hOff
        exact h ⟨hHolds, hMem, notMem_onSet_iff.mp hOff⟩

theorem get?_applyRule_cases (settings : Settings) (rule : Rule) (name : String) :
    (settings.applyRule rule).get? name = settings.get? name ∨
      name ∉ settings.onSet ∧ rule.trigger.HoldsIn settings.onSet ∧ name ∈ rule.consequences ∧
        (settings.applyRule rule).get? name = some ⟨.switch true, .implied rule.name⟩ := by
  rw [get?_applyRule]
  split
  · rename_i h
    exact .inr ⟨notMem_onSet_iff.mpr h.2.2, holds_iff.mp h.1, h.2.1, rfl⟩
  · exact .inl rfl

theorem onSet_subset_applyRule (rule : Rule) :
    settings.onSet ⊆ (settings.applyRule rule).onSet :=
  fun _ hOn => mem_onSet_applyRule_iff.mpr (.inl hOn)

/-! ### All rules -/

variable {rules : List Rule}

/-- A pass leaves a flag alone, or switches on a flag that was not on before. -/
theorem get?_applyRules_cases (settings : Settings) (rules : List Rule) (name : String) :
    (settings.applyRules rules).get? name = settings.get? name ∨
      name ∉ settings.onSet ∧ name ∈ (settings.applyRules rules).onSet := by
  induction rules generalizing settings with
  | nil => exact .inl rfl
  | cons rule rest ih =>
    rw [applyRules_cons]
    rcases ih (settings.applyRule rule) with hSame | ⟨hOff, hOn⟩
    · rcases get?_applyRule_cases settings rule name with hFirst | ⟨hOff, -, -, hSwitched⟩
      · exact .inl (hSame.trans hFirst)
      · exact .inr ⟨hOff, mem_onSet_iff.mpr (by rw [value?, hSame, hSwitched]; rfl)⟩
    · exact .inr ⟨fun h => hOff (onSet_subset_applyRule rule h), hOn⟩

theorem get?_applyRules_of_mem (h : name ∈ settings.onSet) :
    (settings.applyRules rules).get? name = settings.get? name :=
  (get?_applyRules_cases settings rules name).resolve_right fun hCase => hCase.1 h

theorem get?_applyRules_of_notMem (h : name ∉ (settings.applyRules rules).onSet) :
    (settings.applyRules rules).get? name = settings.get? name :=
  (get?_applyRules_cases settings rules name).resolve_right fun hCase => h hCase.2

theorem onSet_subset_applyRules : settings.onSet ⊆ (settings.applyRules rules).onSet := by
  intro name hOn
  rw [mem_onSet_iff, value?, get?_applyRules_of_mem hOn]
  exact mem_onSet_iff.mp hOn

theorem mem_onSet_of_applyRules (h : name ∈ (settings.applyRules rules).onSet) :
    name ∈ settings.onSet ∨ ∃ rule ∈ rules, name ∈ rule.consequences := by
  induction rules generalizing settings with
  | nil => exact .inl h
  | cons rule rest ih =>
    rcases ih h with hOn | ⟨later, hLater, hMem⟩
    · rcases mem_onSet_applyRule_iff.mp hOn with hOn | ⟨-, hMem⟩
      · exact .inl hOn
      · exact .inr ⟨rule, List.mem_cons_self, hMem⟩
    · exact .inr ⟨later, List.mem_cons_of_mem _ hLater, hMem⟩

/-- A pass does not leave a closed set that it starts in. -/
theorem onSet_applyRules_subset {on : Set String} (hStart : settings.onSet ⊆ on)
    (hClosed : ClosedUnder rules on) : (settings.applyRules rules).onSet ⊆ on := by
  induction rules generalizing settings with
  | nil => exact hStart
  | cons rule rest ih =>
    refine ih (fun name hOn => ?_) fun later hLater => hClosed later (List.mem_cons_of_mem _ hLater)
    rcases mem_onSet_applyRule_iff.mp hOn with hOn | ⟨hHolds, hMem⟩
    · exact hStart hOn
    · exact hClosed rule List.mem_cons_self (hHolds.mono hStart) name hMem

theorem applyRules_eq_self (h : (settings.applyRules rules).onSet ⊆ settings.onSet) :
    settings.applyRules rules = settings :=
  NameMap.ext_get? fun name =>
    (get?_applyRules_cases settings rules name).resolve_right fun hCase => hCase.1 (h hCase.2)

theorem mem_onSet_of_fires {before after : List Rule} {rule : Rule}
    (hHolds : rule.trigger.HoldsIn (settings.applyRules before).onSet)
    (hMem : name ∈ rule.consequences) :
    name ∈ (settings.applyRules (before ++ rule :: after)).onSet := by
  rw [applyRules_append, applyRules_cons]
  exact onSet_subset_applyRules (mem_onSet_applyRule_iff.mpr (.inr ⟨hHolds, hMem⟩))

theorem closedUnder_of_applyRules_eq (h : settings.applyRules rules = settings) :
    ClosedUnder rules settings.onSet := by
  intro rule hRule hHolds name hMem
  obtain ⟨before, after, rfl⟩ := List.append_of_mem hRule
  rw [← h]
  exact mem_onSet_of_fires (hHolds.mono onSet_subset_applyRules) hMem

end BuildOptions.Settings
