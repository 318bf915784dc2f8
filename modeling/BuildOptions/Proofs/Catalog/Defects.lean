import BuildOptions.Proofs.Catalog.Consistency
import Mathlib.Algebra.GroupWithZero.Nat
import Mathlib.Data.Finset.Card
import Mathlib.Data.Finset.SDiff

/-! How many defects tables have.  Each declaration beyond the first of its name counts, and each
mention that has no switch behind it, as often as it occurs, so that no defect hides another. -/

namespace BuildOptions

namespace Tables

variable {tables : Tables}

theorem length_repeats (before : List String) (flags : List Flag) :
    (repeats before flags).length + ((flags.map Flag.name).toFinset \ before.toFinset).card =
      flags.length := by
  induction flags generalizing before with
  | nil => simp [repeats]
  | cons flag rest ih =>
    have hRest := ih (flag.name :: before)
    rw [List.toFinset_cons, Finset.sdiff_insert] at hRest
    rw [repeats, List.map_cons, List.toFinset_cons, List.length_append, List.length_cons]
    by_cases hSeen : flag.name ∈ before
    · have hSeen' : flag.name ∈ before.toFinset := List.mem_toFinset.mpr hSeen
      rw [Finset.insert_sdiff_of_mem _ hSeen']
      rw [Finset.erase_eq_of_notMem (by simp [hSeen])] at hRest
      simp only [if_pos hSeen, List.length_singleton]
      omega
    · have hNew : flag.name ∉ before.toFinset := by simpa using hSeen
      rw [Finset.insert_sdiff_of_notMem _ hNew,
        ← Finset.card_erase_add_one (Finset.mem_insert_self _ _), Finset.erase_insert_eq_erase]
      simp only [if_neg hSeen, List.length_nil]
      omega

/-- The mentions that have no switch behind them, and the exclusions of unknown flags. -/
def offences (tables : Tables) : Nat :=
  (tables.rules.map fun rule =>
    rule.trigger.flags.countP (tables.Offends ·) +
      rule.consequences.countP (tables.Offends ·)).sum +
  tables.constraints.countP (tables.Offends ·.flag) +
  tables.requirements.countP (tables.Offends ·.flag) +
  tables.umbrella.toList.countP (tables.Offends ·) +
  tables.exclusions.countP (tables.Unknown ·)

theorem isSome_mentionDefect? (mention : Mention × String) :
    (tables.mentionDefect? mention).isSome = decide (tables.Offends mention.2) := by
  rw [Bool.eq_iff_iff, decide_eq_true_iff, ← not_iff_not, ← mentionDefect?_eq_none_iff]
  simp

theorem isSome_exclusionDefect? (name : String) :
    (tables.exclusionDefect? name).isSome = decide (tables.Unknown name) := by
  rw [Bool.eq_iff_iff, decide_eq_true_iff, ← not_iff_not, ← exclusionDefect?_eq_none_iff]
  simp

theorem length_defects :
    tables.defects.length =
      (tables.flags.length - (tables.flags.map Flag.name).toFinset.card) + tables.offences := by
  have hRepeats := length_repeats [] tables.flags
  rw [List.toFinset_nil, Finset.sdiff_empty] at hRepeats
  have hMentions : (tables.mentions.filterMap tables.mentionDefect?).length +
      (tables.exclusions.filterMap tables.exclusionDefect?).length = tables.offences := by
    simp only [List.length_filterMap_eq_countP, isSome_mentionDefect?, isSome_exclusionDefect?,
      mentions, offences, List.countP_append, List.countP_flatMap, List.countP_map,
      Function.comp_def]
  rw [defects, List.length_append, List.length_append]
  omega

theorem exists_ofTables_eq_ok_iff :
    (∃ catalog, Catalog.ofTables tables = .ok catalog) ↔ tables.defects = [] := by
  rw [Catalog.ofTables]
  split
  case isTrue h => simp [h]
  case isFalse h => simp [h]

theorem ofTables_eq_error_iff {defects : List Defect} :
    Catalog.ofTables tables = .error defects ↔ tables.defects ≠ [] ∧ defects = tables.defects := by
  rw [Catalog.ofTables]
  split
  case isTrue h => simp [h]
  case isFalse h => simp only [Except.error.injEq, ne_eq, h, not_false_eq_true, true_and, eq_comm]

/-- Tables make a catalog exactly if they fit together, tables that do not are refused with all
their defects, and there is one defect for each declaration beyond the first of its name and for
each offending mention. -/
theorem defects_complete (tables : Tables) :
    (tables.defects = [] ↔ tables.Consistent) ∧
      ((∃ catalog, Catalog.ofTables tables = .ok catalog) ↔ tables.Consistent) ∧
      (∀ defects, Catalog.ofTables tables = .error defects ↔
        ¬tables.Consistent ∧ defects = tables.defects) ∧
      tables.defects.length =
        (tables.flags.length - (tables.flags.map Flag.name).toFinset.card) + tables.offences := by
  refine ⟨defects_eq_nil_iff, ?_, fun defects => ?_, length_defects⟩
  · rw [exists_ofTables_eq_ok_iff, defects_eq_nil_iff]
  · rw [ofTables_eq_error_iff, ne_eq, defects_eq_nil_iff]

-- The name is declared twice, last as a scalar, and each of the two mentions counts.
example :
    let tables : Tables :=
      { flags := [⟨"a", .switch false⟩, ⟨"a", .scalar "1" .positiveInteger⟩]
        rules := [⟨"r", .any ["a"], ["a"]⟩]
        constraints := [], requirements := [], exclusions := ["a", "b"]
        umbrella := none, featureStem := "" }
    tables.defects.length = 4 ∧ tables.offences = 3 := by
  decide

end Tables

end BuildOptions
