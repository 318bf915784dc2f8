import BuildOptions.Proofs.Overrides.AssignmentText
import BuildOptions.Proofs.Overrides.Pairs
import BuildOptions.Session

/-! What the assignments of a command line ask for.  Each is read and set on its own, so a command
line is taken exactly if each of its assignments is, and the last assignment for an option
decides. -/

namespace BuildOptions

namespace Overrides

variable {catalog : Catalog} {overrides : Overrides} {name text word : String} {value : FlagValue}
  {assignments : List String}

/-- The name of an assignment with the value that the flag takes from it. -/
def readAssigned (catalog : Catalog) (text : String) : Except Failure (String × FlagValue) :=
  (do let (name, word) ← readAssignment text
      readPair catalog (name, .scalar word)).mapError (.assignment text)

theorem readAssigned_eq_ok_iff :
    readAssigned catalog text = .ok (name, value) ↔
      ∃ word, Assigns text name word ∧ catalog.Coerces name (.scalar word) value := by
  rw [readAssigned, mapError_eq_ok_iff, bind_eq_ok_iff]
  constructor
  · rintro ⟨⟨_, word⟩, hRead, hPair⟩
    obtain ⟨rfl, hCoerces⟩ := readPair_eq_ok_iff.mp hPair
    exact ⟨word, readAssignment_eq_ok_iff.mp hRead, hCoerces⟩
  · rintro ⟨word, hAssigns, hCoerces⟩
    exact ⟨(name, word), hAssigns.readAssignment_eq, readPair_eq_ok_iff.mpr ⟨rfl, hCoerces⟩⟩

theorem reads_readAssigned :
    NameMap.Reads (readAssigned catalog) Assigns
      fun name word => catalog.Coerces name (.scalar word) where
  eq_ok_iff := readAssigned_eq_ok_iff
  name_eq := fun h hOther => (h.unique hOther).1

theorem assign_eq_fill : Session.assign catalog = NameMap.fill (readAssigned catalog) := by
  funext overrides text
  rw [Session.assign, assign, NameMap.fill, readAssigned]
  cases readAssignment text with
  | error refusal => rfl
  | ok parts =>
    change (Overrides.set catalog overrides parts.1 (.scalar parts.2)).mapError _ =
      ((readPair catalog (parts.1, .scalar parts.2)).mapError _).map _
    rw [Overrides.set, readPair]
    cases catalog.accept parts.1 (.scalar parts.2) <;> rfl

theorem exists_assign_iff_fill :
    (∃ single, Overrides.assign catalog ∅ text = .ok single) ↔
      ∃ single, NameMap.fill (readAssigned catalog) ∅ text = .ok single := by
  simp only [← assign_eq_fill, Session.assign, mapError_eq_ok_iff]

theorem exists_foldlM_assign_iff :
    (∃ overrides, assignments.foldlM (Session.assign catalog) ∅ = .ok overrides) ↔
      ∀ text ∈ assignments, ∃ single, Overrides.assign catalog ∅ text = .ok single := by
  simp only [assign_eq_fill, NameMap.exists_foldlM_fill_iff, exists_assign_iff_fill]

/-- The last assignment for an option gives it this word. -/
def LastAssigned (assignments : List String) (name word : String) : Prop :=
  ∃ before text after, assignments = before ++ text :: after ∧ Assigns text name word ∧
    ∀ later ∈ after, ∀ other, ¬Assigns later name other

section CommandLine

variable (h : assignments.foldlM (Session.assign catalog) ∅ = .ok overrides)
include h

theorem get?_of_foldlM_assign :
    overrides.get? name = some value ↔
      ∃ word, LastAssigned assignments name word ∧ catalog.Coerces name (.scalar word) value := by
  rw [assign_eq_fill] at h
  exact reads_readAssigned.get?_eq_some_iff h

theorem get?_of_foldlM_assign_eq_none :
    overrides.get? name = none ↔ ∀ text ∈ assignments, ∀ word, ¬Assigns text name word := by
  rw [assign_eq_fill] at h
  exact reads_readAssigned.get?_eq_none_iff h

end CommandLine

theorem exists_assign_iff (h : Assigns text name word) :
    (∃ single, Overrides.assign catalog ∅ text = .ok single) ↔
      ∃ value, catalog.Coerces name (.scalar word) value := by
  simp only [h.assign_eq, Overrides.set, exists_map_eq_ok_iff, Catalog.accept_eq_ok_iff]

theorem foldlM_assign_cons (h : Assigns text name word)
    (hCoerces : catalog.Coerces name (.scalar word) value) :
    (text :: assignments).foldlM (Session.assign catalog) ∅ =
      (assignments.foldlM (Session.assign catalog) ∅).map
        ((∅ : Overrides).insert name value).merge := by
  have hRead : readAssigned catalog text = .ok (name, value) :=
    readAssigned_eq_ok_iff.mpr ⟨word, h, hCoerces⟩
  rw [assign_eq_fill, ← List.singleton_append, NameMap.foldlM_fill_append]
  simp only [List.foldlM_cons, NameMap.fill, hRead]
  rfl

end Overrides

end BuildOptions
