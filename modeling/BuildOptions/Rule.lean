/-! Implication rules: when a trigger holds, the consequences are switched on.  Rules are read once,
in order, so a rule whose trigger can still be switched on by a later rule may be missed; each such
pair is a hazard. -/

namespace BuildOptions

/-- The condition of a rule on the switches that are on. -/
inductive Trigger where
  | any (flags : List String)
  | all (flags : List String)
deriving DecidableEq, Repr

namespace Trigger

/-- The flags that a trigger reads. -/
def flags : Trigger → List String
  | any flags => flags
  | all flags => flags

/-- The trigger holds when `isOn` tells which flags are on. -/
def holds (isOn : String → Bool) : Trigger → Bool
  | any flags => flags.any isOn
  | all flags => flags.all isOn

/-- Whether a trigger holds depends on the flags that it reads and on no others. -/
theorem holds_congr {isOn isOn' : String → Bool} {trigger : Trigger}
    (h : ∀ f ∈ trigger.flags, isOn f = isOn' f) : trigger.holds isOn = trigger.holds isOn' := by
  have hEq : ∀ l : List String, (∀ f ∈ l, isOn f = isOn' f) →
      l.any isOn = l.any isOn' ∧ l.all isOn = l.all isOn' := by
    intro l hl
    induction l with
    | nil => exact ⟨rfl, rfl⟩
    | cons f l ih =>
      have := ih fun g hg => hl g (List.mem_cons_of_mem _ hg)
      simp [hl f List.mem_cons_self, this.1, this.2]
  cases trigger with
  | any flags => exact (hEq flags h).1
  | all flags => exact (hEq flags h).2

end Trigger

/-- When the trigger holds, the consequences are switched on. -/
structure Rule where
  name : String
  trigger : Trigger
  consequences : List String
deriving DecidableEq, Repr

/-- A rule reads a flag that a later rule may still switch on. -/
structure Hazard where
  rule : String
  trigger : String
  forcedBy : String
deriving DecidableEq, Repr

/-- The hazards of a rule that the rules `later` follow. -/
def Rule.hazards (rule : Rule) (later : List Rule) : List Hazard :=
  rule.trigger.flags.flatMap fun flag =>
    (later.filter fun l => l.consequences.contains flag).map fun l => ⟨rule.name, flag, l.name⟩

/-- The hazards of a list of rules: by rule, then by the flags it reads, then by the later rule. -/
def orderHazards : List Rule → List Hazard
  | [] => []
  | rule :: later => rule.hazards later ++ orderHazards later

end BuildOptions
