import BuildOptions.Catalog.Basic
import Mathlib.Data.List.Nodup

/-! What it means that tables have no defect: no flag is declared twice, so that a declaration is
found by its name, and whatever a rule, a constraint, a requirement or the umbrella names is a
declared switch.  Tables with repeated declarations have kinds too, and there the last declaration
of a name decides. -/

namespace BuildOptions

namespace Tables

variable {tables : Tables} {name : String} {flag : Flag} {kind : FlagKind}

/-! ### Declarations -/

/-- A flag of this name and kind is declared. -/
def Declares (tables : Tables) (name : String) (kind : FlagKind) : Prop :=
  ∃ flag ∈ tables.flags, flag.name = name ∧ flag.kind = kind

instance (tables : Tables) (name : String) (kind : FlagKind) :
    Decidable (tables.Declares name kind) :=
  inferInstanceAs (Decidable (∃ flag ∈ tables.flags, _))

/-- No flag of this name is declared. -/
def Unknown (tables : Tables) (name : String) : Prop := ∀ flag ∈ tables.flags, flag.name ≠ name

instance (tables : Tables) (name : String) : Decidable (tables.Unknown name) :=
  inferInstanceAs (Decidable (∀ flag ∈ tables.flags, _))

/-- No flag of the same name is declared after this one. -/
def DeclaresLast (tables : Tables) (flag : Flag) : Prop :=
  ∃ before after, tables.flags = before ++ flag :: after ∧ ∀ later ∈ after, later.name ≠ flag.name

theorem kind?_eq_none_iff : tables.kind? name = none ↔ tables.Unknown name := by
  simp [kind?, Unknown]

theorem kind?_eq_some_iff :
    tables.kind? name = some kind ↔
      ∃ flag, tables.DeclaresLast flag ∧ flag.name = name ∧ flag.kind = kind := by
  simp only [kind?, Option.map_eq_some_iff, List.find?_eq_some_iff_append]
  constructor
  · rintro ⟨flag, ⟨hName, after, before, hFlags, hAfter⟩, hKind⟩
    have hName : flag.name = name := of_decide_eq_true hName
    refine ⟨flag, ⟨before.reverse, after.reverse, ?_, fun later hLater => ?_⟩, hName, hKind⟩
    · simpa using congrArg List.reverse hFlags
    · simpa [hName] using hAfter later (List.mem_reverse.mp hLater)
  · rintro ⟨flag, ⟨before, after, hFlags, hAfter⟩, rfl, hKind⟩
    refine ⟨flag, ⟨by simp, after.reverse, before.reverse, by simp [hFlags], ?_⟩, hKind⟩
    intro later hLater
    simpa using hAfter later (List.mem_reverse.mp hLater)

/-- The name does not stand for a switch: it is unknown, or its last declaration is a scalar. -/
def Offends (tables : Tables) (name : String) : Prop :=
  tables.Unknown name ∨ ∃ flag, tables.DeclaresLast flag ∧ flag.name = name ∧ flag.kind = .scalar

theorem offends_iff : tables.Offends name ↔ tables.kind? name ≠ some .switch := by
  rw [Offends, ← kind?_eq_none_iff, ← kind?_eq_some_iff]
  cases tables.kind? name with
  | none => simp
  | some kind => cases kind <;> simp

instance (tables : Tables) (name : String) : Decidable (tables.Offends name) :=
  decidable_of_iff _ offends_iff.symm

/-! ### Tables that fit together -/

/-- No flag is declared twice, and what the tables mention is declared as they need it. -/
structure Consistent (tables : Tables) : Prop where
  distinct : (tables.flags.map Flag.name).Nodup
  triggers : ∀ rule ∈ tables.rules, ∀ name ∈ rule.trigger.flags, tables.Declares name .switch
  consequences : ∀ rule ∈ tables.rules, ∀ name ∈ rule.consequences, tables.Declares name .switch
  constraints : ∀ constraint ∈ tables.constraints, tables.Declares constraint.flag .switch
  requirements : ∀ requirement ∈ tables.requirements, tables.Declares requirement.flag .switch
  umbrella : ∀ name ∈ tables.umbrella, tables.Declares name .switch
  exclusions : ∀ name ∈ tables.exclusions, ∃ kind, tables.Declares name kind

/-- No declaration repeats a name exactly when the names differ from those before and from one
another. -/
theorem repeats_eq_nil_iff {before : List String} {flags : List Flag} :
    repeats before flags = [] ↔
      (∀ flag ∈ flags, flag.name ∉ before) ∧ (flags.map Flag.name).Nodup := by
  induction flags generalizing before with
  | nil => simp [repeats]
  | cons flag rest ih =>
    rw [repeats, List.append_eq_nil_iff, ih, List.map_cons, List.nodup_cons, List.forall_mem_cons]
    simp only [List.mem_cons, List.mem_map, not_or]
    constructor
    · rintro ⟨hHead, hRest, hNodup⟩
      refine ⟨⟨fun hMem => by simp [hMem] at hHead, fun f hf => (hRest f hf).2⟩, ?_, hNodup⟩
      rintro ⟨f, hf, hName⟩
      exact (hRest f hf).1 hName
    · rintro ⟨⟨hHead, hRest⟩, hNew, hNodup⟩
      exact ⟨by simp [hHead], fun f hf => ⟨fun hName => hNew ⟨f, hf, hName⟩, hRest f hf⟩, hNodup⟩

theorem forall_mentions_iff (P : String → Prop) :
    (∀ mention ∈ tables.mentions, P mention.2) ↔
      (∀ rule ∈ tables.rules, (∀ name ∈ rule.trigger.flags, P name) ∧
        ∀ name ∈ rule.consequences, P name) ∧
      (∀ constraint ∈ tables.constraints, P constraint.flag) ∧
      (∀ requirement ∈ tables.requirements, P requirement.flag) ∧
      ∀ name ∈ tables.umbrella, P name := by
  simp only [mentions, List.forall_mem_append, List.forall_mem_flatMap, List.forall_mem_map,
    Option.mem_toList, Option.mem_def, and_assoc]

theorem declaresLast_of_mem (hDistinct : (tables.flags.map Flag.name).Nodup)
    (h : flag ∈ tables.flags) : tables.DeclaresLast flag := by
  obtain ⟨before, after, hFlags⟩ := List.append_of_mem h
  refine ⟨before, after, hFlags, fun later hLater hName => ?_⟩
  rw [hFlags, List.map_append, List.map_cons, List.nodup_append, List.nodup_cons] at hDistinct
  exact hDistinct.2.1.1 (hName ▸ List.mem_map_of_mem hLater)

theorem mentionDefect?_eq_none_iff {mention : Mention × String} :
    tables.mentionDefect? mention = none ↔ ¬tables.Offends mention.2 := by
  rw [offends_iff, not_not, mentionDefect?]
  split <;> simp_all

theorem exclusionDefect?_eq_none_iff :
    tables.exclusionDefect? name = none ↔ ¬tables.Unknown name := by
  rw [← kind?_eq_none_iff, exclusionDefect?]
  split <;> simp_all

theorem not_offends_iff (hDistinct : (tables.flags.map Flag.name).Nodup) :
    ¬tables.Offends name ↔ tables.Declares name .switch := by
  rw [offends_iff, not_not, kind?_eq_some_iff]
  constructor
  · rintro ⟨flag, ⟨before, after, hFlags, -⟩, hName, hKind⟩
    exact ⟨flag, by simp [hFlags], hName, hKind⟩
  · rintro ⟨flag, hFlag, hName, hKind⟩
    exact ⟨flag, declaresLast_of_mem hDistinct hFlag, hName, hKind⟩

theorem not_unknown_iff : ¬tables.Unknown name ↔ ∃ kind, tables.Declares name kind := by
  simp [Unknown, Declares]

theorem defects_eq_nil_iff : tables.defects = [] ↔ tables.Consistent := by
  simp only [defects, List.append_eq_nil_iff, List.filterMap_eq_nil_iff, repeats_eq_nil_iff,
    mentionDefect?_eq_none_iff, exclusionDefect?_eq_none_iff, not_unknown_iff]
  constructor
  · rintro ⟨⟨⟨-, hDistinct⟩, hMentions⟩, hExclusions⟩
    simp only [not_offends_iff hDistinct] at hMentions
    obtain ⟨hRules, hConstraints, hRequirements, hUmbrella⟩ :=
      (forall_mentions_iff (tables.Declares · .switch)).mp hMentions
    exact ⟨hDistinct, fun rule h => (hRules rule h).1, fun rule h => (hRules rule h).2,
      hConstraints, hRequirements, hUmbrella, hExclusions⟩
  · intro h
    have hRules := fun rule hRule => And.intro (h.triggers rule hRule) (h.consequences rule hRule)
    have hMentions := (forall_mentions_iff (tables.Declares · .switch)).mpr
      ⟨hRules, h.constraints, h.requirements, h.umbrella⟩
    simp only [not_offends_iff h.distinct]
    exact ⟨⟨⟨by simp, h.distinct⟩, hMentions⟩, h.exclusions⟩

end Tables

namespace Catalog

variable (catalog : Catalog)

theorem tables_consistent : catalog.Consistent := Tables.defects_eq_nil_iff.mp catalog.consistent

theorem nodup_names : (catalog.flags.map Flag.name).Nodup := catalog.tables_consistent.distinct

variable {catalog}

theorem eq_of_name_eq {a b : Flag} (ha : a ∈ catalog.flags) (hb : b ∈ catalog.flags)
    (h : a.name = b.name) : a = b :=
  List.inj_on_of_nodup_map catalog.nodup_names ha hb h

theorem flag?_eq_some_iff {name : String} {flag : Flag} :
    catalog.flag? name = some flag ↔ flag ∈ catalog.flags ∧ flag.name = name := by
  constructor
  · intro h
    exact ⟨List.mem_of_find?_eq_some h, by simpa using List.find?_some h⟩
  · rintro ⟨hMem, rfl⟩
    cases hFind : catalog.flag? flag.name with
    | none => simpa using List.find?_eq_none.mp hFind flag hMem
    | some other =>
      have hOther : other.name = flag.name := by simpa using List.find?_some hFind
      rw [eq_of_name_eq (List.mem_of_find?_eq_some hFind) hMem hOther]

theorem flag?_name {flag : Flag} (h : flag ∈ catalog.flags) :
    catalog.flag? flag.name = some flag :=
  flag?_eq_some_iff.mpr ⟨h, rfl⟩

theorem ne_name_of_switch {flag : Flag} {name : String} (hFlag : flag ∈ catalog.flags)
    (hScalar : flag.kind = .scalar) (hSwitch : catalog.Declares name .switch) :
    flag.name ≠ name := by
  rintro rfl
  obtain ⟨other, hOther, hName, hKind⟩ := hSwitch
  rw [eq_of_name_eq hOther hFlag hName, hScalar] at hKind
  cases hKind

end Catalog

end BuildOptions
