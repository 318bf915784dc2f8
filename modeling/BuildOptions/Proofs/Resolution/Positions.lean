import BuildOptions.Proofs.Catalog.Console

/-! The pass over rules position by position, for any rules and any settings to start from.  What
the pass switches on, a rule at some position fired for.  A rule whose trigger came to hold only
after the rule was read is missed, and then a rule that fired later forced a flag that it reads,
which is a hazard.  So without hazards no rule is missed. -/

namespace BuildOptions

namespace Settings

/-- The settings in which the pass reads the rule at a position. -/
def readAt (settings : Settings) (rules : List Rule) (position : Nat) : Settings :=
  settings.applyRules (rules.take position)

/-- The rule stands at the position, and its trigger holds when the pass reads it. -/
def Fires (settings : Settings) (rules : List Rule) (position : Nat) (rule : Rule) : Prop :=
  rules[position]? = some rule ∧ rule.trigger.HoldsIn (settings.readAt rules position).onSet

variable {settings : Settings} {rules : List Rule} {position later : Nat} {rule : Rule}
  {name : String}

/-! ### From one position to the next -/

theorem readAt_length : settings.readAt rules rules.length = settings.applyRules rules := by
  rw [readAt, List.take_length]

theorem applyRules_eq_applyRules_drop (position : Nat) :
    settings.applyRules rules =
      (settings.readAt rules position).applyRules (rules.drop position) := by
  rw [readAt, ← applyRules_append, List.take_append_drop]

theorem readAt_succ (h : rules[position]? = some rule) :
    settings.readAt rules (position + 1) = (settings.readAt rules position).applyRule rule := by
  rw [readAt, List.take_add_one, h, applyRules_append]
  rfl

theorem readAt_succ_of_none (h : rules[position]? = none) :
    settings.readAt rules (position + 1) = settings.readAt rules position := by
  rw [readAt, List.take_add_one, h, Option.toList_none, List.append_nil, readAt]

/-- Reading one rule switches on its consequences if it fires, and nothing else. -/
theorem mem_onSet_readAt_succ_iff :
    name ∈ (settings.readAt rules (position + 1)).onSet ↔
      name ∈ (settings.readAt rules position).onSet ∨
        ∃ rule, settings.Fires rules position rule ∧ name ∈ rule.consequences := by
  cases hRule : rules[position]? with
  | none => simp [readAt_succ_of_none hRule, Fires, hRule]
  | some rule => simp [readAt_succ hRule, mem_onSet_applyRule_iff, Fires, hRule]

theorem onSet_readAt_mono (h : position ≤ later) :
    (settings.readAt rules position).onSet ⊆ (settings.readAt rules later).onSet := by
  induction h with
  | refl => exact subset_rfl
  | step _ ih => exact fun name hOn => mem_onSet_readAt_succ_iff.mpr (.inl (ih hOn))

theorem Fires.mem_onSet (h : settings.Fires rules position rule) (hMem : name ∈ rule.consequences)
    (hLater : position < later) : name ∈ (settings.readAt rules later).onSet :=
  onSet_readAt_mono (Nat.succ_le_of_lt hLater)
    (mem_onSet_readAt_succ_iff.mpr (.inr ⟨rule, h, hMem⟩))

/-! ### From any position to the end -/

/-- A flag that comes on between two positions is forced by a rule that fires between them. -/
theorem exists_fires_between (h : position ≤ later)
    (hOff : name ∉ (settings.readAt rules position).onSet)
    (hOn : name ∈ (settings.readAt rules later).onSet) :
    ∃ between, position ≤ between ∧ ∃ rule, settings.Fires rules between rule ∧
      name ∈ rule.consequences := by
  induction h with
  | refl => exact absurd hOn hOff
  | @step last hLast ih =>
    rcases mem_onSet_readAt_succ_iff.mp hOn with hBefore | hForced
    · exact ih hBefore
    · exact ⟨last, hLast, hForced⟩

/-- A rule that is missed reads a flag that was off then and was forced by a later rule. -/
theorem exists_fires_of_missed (hRule : rules[position]? = some rule)
    (hHolds : rule.trigger.HoldsIn (settings.applyRules rules).onSet)
    (hMem : name ∈ rule.consequences) (hOff : name ∉ (settings.applyRules rules).onSet) :
    ∃ flag ∈ rule.trigger.flags, flag ∉ (settings.readAt rules position).onSet ∧
      flag ∈ (settings.applyRules rules).onSet ∧
      ∃ later laterRule, position < later ∧ settings.Fires rules later laterRule ∧
        flag ∈ laterRule.consequences := by
  have hLength : position < rules.length := (List.getElem?_eq_some_iff.mp hRule).1
  rw [← readAt_length] at hHolds hOff ⊢
  -- Had the rule fired, its consequences would be on.
  have hNot : ¬rule.trigger.HoldsIn (settings.readAt rules position).onSet := by
    intro hFired
    exact hOff (Fires.mem_onSet ⟨hRule, hFired⟩ hMem hLength)
  obtain ⟨flag, hRead, hWasOff, hOn⟩ := Trigger.exists_mem_of_not_holdsIn hNot hHolds
  obtain ⟨later, hLe, laterRule, hFires, hForced⟩ :=
    exists_fires_between (Nat.le_of_lt hLength) hWasOff hOn
  refine ⟨flag, hRead, hWasOff, hOn, later, laterRule, ?_, hFires, hForced⟩
  refine Nat.lt_of_le_of_ne hLe ?_
  rintro rfl
  obtain rfl : laterRule = rule := Option.some.inj (hFires.1.symm.trans hRule)
  exact hNot hFires.2

/-- Without hazards one pass is enough. -/
theorem closedUnder_applyRules (h : orderHazards rules = []) :
    ClosedUnder rules (settings.applyRules rules).onSet := by
  intro rule hRule hHolds name hMem
  by_contra hOff
  obtain ⟨position, hPosition⟩ := List.mem_iff_getElem?.mp hRule
  obtain ⟨flag, hRead, -, -, later, laterRule, hLater, hFires, hForced⟩ :=
    exists_fires_of_missed hPosition hHolds hMem hOff
  have hHazard : ⟨rule.name, flag, laterRule.name⟩ ∈ orderHazards rules :=
    mem_orderHazards_iff.mpr
      ⟨position, later, rule, laterRule, hLater, hPosition, hFires.1, flag, hRead, hForced, rfl⟩
  simp [h] at hHazard

end Settings

/-- Whatever the rules and whatever settings the pass starts from, a rule whose trigger holds after
the pass and whose consequences are not all on is reported: there is a hazard of this rule with a
flag of its trigger, off when the rule was read and on after the pass, and with a rule at a later
position that fired and has the flag among its consequences. -/
theorem missed_rule_reported (rules : List Rule) (settings : Settings) (position : Nat)
    (rule : Rule) (hRule : rules[position]? = some rule)
    (hHolds : rule.trigger.HoldsIn (settings.applyRules rules).onSet)
    (hMissed : ∃ name ∈ rule.consequences, name ∉ (settings.applyRules rules).onSet) :
    ∃ hazard ∈ orderHazards rules, hazard.rule = rule.name ∧
      hazard.trigger ∈ rule.trigger.flags ∧
      hazard.trigger ∉ (settings.readAt rules position).onSet ∧
      hazard.trigger ∈ (settings.applyRules rules).onSet ∧
      ∃ later laterRule, position < later ∧ settings.Fires rules later laterRule ∧
        hazard.forcedBy = laterRule.name ∧ hazard.trigger ∈ laterRule.consequences := by
  obtain ⟨name, hMem, hOff⟩ := hMissed
  obtain ⟨flag, hRead, hWasOff, hOn, later, laterRule, hLater, hFires, hForced⟩ :=
    Settings.exists_fires_of_missed hRule hHolds hMem hOff
  refine ⟨⟨rule.name, flag, laterRule.name⟩, ?_, rfl, hRead, hWasOff, hOn, later, laterRule,
    hLater, hFires, rfl, hForced⟩
  exact mem_orderHazards_iff.mpr
    ⟨position, later, rule, laterRule, hLater, hRule, hFires.1, flag, hRead, hForced, rfl⟩

namespace Catalog

/-- The console is asked for, and its rules are read in the wrong order. -/
def lateShell : Settings := (console.start consoleRequest).applyRules console.rules.reverse

/-- The shell comes too late for the log, and the one hazard says so. -/
theorem missed_rule_reported_lateShell :
    console.rules.reverse[0]? =
        some ⟨"log", .all ["with_console", "with_shell"], ["with_log"]⟩ ∧
      (Trigger.all ["with_console", "with_shell"]).HoldsIn lateShell.onSet ∧
      (∃ name ∈ ["with_log"], name ∉ lateShell.onSet) ∧
      orderHazards console.rules.reverse = [⟨"log", "with_shell", "console"⟩] ∧
      "with_shell" ∉ ((console.start consoleRequest).readAt console.rules.reverse 0).onSet ∧
      ∃ later laterRule, 0 < later ∧
        (console.start consoleRequest).Fires console.rules.reverse later laterRule ∧
        laterRule.name = "console" ∧ "with_shell" ∈ laterRule.consequences := by
  have hRule : console.rules.reverse[0]? =
      some ⟨"log", .all ["with_console", "with_shell"], ["with_log"]⟩ := by decide
  have hHolds : (Trigger.all ["with_console", "with_shell"]).HoldsIn lateShell.onSet :=
    Settings.holds_iff.mp (by decide +kernel)
  have hMissed : ∃ name ∈ ["with_log"], name ∉ lateShell.onSet :=
    ⟨"with_log", List.mem_singleton_self _, Settings.notMem_onSet_iff.mpr (by decide +kernel)⟩
  have hHazards : orderHazards console.rules.reverse = [⟨"log", "with_shell", "console"⟩] := by
    decide
  obtain ⟨hazard, hHazard, -, -, hWasOff, -, later, laterRule, hLater, hFires, hName, hForced⟩ :=
    missed_rule_reported _ (console.start consoleRequest) 0 _ hRule hHolds hMissed
  rw [hHazards, List.mem_singleton] at hHazard
  subst hHazard
  exact ⟨hRule, hHolds, hMissed, hHazards, hWasOff, later, laterRule, hLater, hFires, hName.symm,
    hForced⟩

end Catalog

end BuildOptions
