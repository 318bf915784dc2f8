import BuildOptions.Overrides
import BuildOptions.Proofs.Catalog.Consistency
import BuildOptions.Proofs.NameMap.Filling

/-! Overrides that fit a catalog: each value is for a declared flag and of the flag's kind.  Setting
values one by one leads to such overrides only, and their entries lead to them again. -/

namespace BuildOptions

theorem Flag.coerce_eq_self {flag : Flag} {value : FlagValue} (h : value.kind = flag.kind) :
    flag.coerce value = .ok value := by
  unfold coerce
  rw [← h]
  cases value <;> rfl

namespace Catalog

/-- The flag is declared and takes values of this kind. -/
def Takes (catalog : Catalog) (name : String) (value : FlagValue) : Prop :=
  ∃ flag ∈ catalog.flags, flag.name = name ∧ value.kind = flag.kind

/-- The overrides are built for the catalog: it takes each of their values. -/
def Admits (catalog : Catalog) (overrides : Overrides) : Prop :=
  ∀ entry ∈ overrides.toList, catalog.Takes entry.1 entry.2

instance (catalog : Catalog) (overrides : Overrides) : Decidable (catalog.Admits overrides) :=
  inferInstanceAs (Decidable (∀ entry ∈ overrides.toList, ∃ flag ∈ catalog.flags, _ ∧ _))

variable {catalog : Catalog} {overrides result : Overrides} {name : String}
  {value taken : FlagValue}

/-! ### One value -/

theorem accept_name {flag : Flag} (hFlag : flag ∈ catalog.flags) (given : FlagValue) :
    catalog.accept flag.name given = flag.coerce given := by
  rw [accept, flag?_name hFlag]

theorem takes_switch (on : Bool) (h : catalog.Declares name .switch) :
    catalog.Takes name (.switch on) := by
  obtain ⟨flag, hFlag, hName, hKind⟩ := h
  exact ⟨flag, hFlag, hName, hKind.symm⟩

theorem Takes.kind_eq {flag : Flag} (h : catalog.Takes flag.name value)
    (hFlag : flag ∈ catalog.flags) : value.kind = flag.kind := by
  obtain ⟨other, hOther, hName, hKind⟩ := h
  rw [hKind, eq_of_name_eq hOther hFlag hName]

theorem takes_of_accept (h : catalog.accept name value = .ok taken) : catalog.Takes name taken := by
  unfold accept at h
  cases hFind : catalog.flag? name with
  | none => simp [hFind] at h
  | some flag =>
    rw [hFind] at h
    obtain ⟨hFlag, hName⟩ := flag?_eq_some_iff.mp hFind
    exact ⟨flag, hFlag, hName, Flag.kind_of_coerce h⟩

theorem Takes.accept (h : catalog.Takes name value) : catalog.accept name value = .ok value := by
  obtain ⟨flag, hFlag, rfl, hKind⟩ := h
  rw [accept_name hFlag]
  exact Flag.coerce_eq_self hKind

/-! ### All values -/

theorem admits_iff :
    catalog.Admits overrides ↔
      ∀ name value, overrides.get? name = some value → catalog.Takes name value := by
  constructor
  · intro h name value hGet
    exact h (name, value) ((NameMap.get?_eq_some_iff_mem _).mp hGet)
  · intro h entry hEntry
    exact h entry.1 entry.2 ((NameMap.get?_eq_some_iff_mem _).mpr hEntry)

theorem Admits.takes (h : catalog.Admits overrides) (hGet : overrides.get? name = some value) :
    catalog.Takes name value :=
  admits_iff.mp h name value hGet

theorem admits_empty : catalog.Admits ∅ := by
  intro entry hEntry
  cases hEntry

theorem Admits.insert (h : catalog.Admits overrides) (hTakes : catalog.Takes name value) :
    catalog.Admits (overrides.insert name value) := by
  refine admits_iff.mpr fun key found hGet => ?_
  rw [NameMap.get?_insert] at hGet
  split at hGet
  · rename_i hKey
    cases hGet
    exact hKey ▸ hTakes
  · exact h.takes hGet

theorem Admits.filter (h : catalog.Admits overrides) (keep : String → FlagValue → Bool) :
    catalog.Admits (overrides.filter keep) :=
  fun entry hEntry => h entry (List.mem_filter.mp hEntry).1

theorem Admits.set (h : catalog.Admits overrides)
    (hSet : overrides.set catalog name value = .ok result) : catalog.Admits result := by
  rw [Overrides.set, map_eq_ok_iff] at hSet
  obtain ⟨taken, hAccept, rfl⟩ := hSet
  exact h.insert (takes_of_accept hAccept)

theorem Admits.assign {text : String} (h : catalog.Admits overrides)
    (hAssign : overrides.assign catalog text = .ok result) : catalog.Admits result := by
  unfold Overrides.assign at hAssign
  obtain ⟨⟨name, word⟩, -, hSet⟩ := bind_eq_ok_iff.mp hAssign
  exact h.set hSet

theorem Admits.merge {newer : Overrides} (h : catalog.Admits overrides)
    (hNewer : catalog.Admits newer) : catalog.Admits (overrides.merge newer) := by
  refine admits_iff.mpr fun name value hGet => ?_
  rw [NameMap.get?_merge, Option.or_eq_some_iff] at hGet
  rcases hGet with hGet | ⟨-, hGet⟩
  · exact hNewer.takes hGet
  · exact h.takes hGet

theorem Admits.foldlM_set {pairs : List (String × FlagValue)} (h : catalog.Admits overrides)
    (hRun : pairs.foldlM (fun acc pair => Overrides.set catalog acc pair.1 pair.2) overrides =
      .ok result) : catalog.Admits result := by
  induction pairs generalizing overrides with
  | nil =>
    cases hRun
    exact h
  | cons pair rest ih =>
    rw [List.foldlM_cons] at hRun
    obtain ⟨next, hSet, hRest⟩ := bind_eq_ok_iff.mp hRun
    exact ih (h.set hSet) hRest

theorem admits_of_ofPairs {pairs : List (String × FlagValue)}
    (h : Overrides.ofPairs catalog pairs = .ok result) : catalog.Admits result :=
  admits_empty.foldlM_set h

theorem foldlM_set_of_takes (start : Overrides) {pairs : List (String × FlagValue)}
    (h : ∀ pair ∈ pairs, catalog.Takes pair.1 pair.2) :
    pairs.foldlM (fun acc pair => Overrides.set catalog acc pair.1 pair.2) start =
      .ok (start.insertAll pairs) := by
  have hRun : (pairs.map id).foldlM (fun acc pair => Overrides.set catalog acc pair.1 pair.2)
      start = .ok (start.insertAll pairs) := by
    refine NameMap.foldlM_map_eq_insertAll id (fun pair hPair acc => ?_) start
    rw [id_eq, Overrides.set, (h pair hPair).accept, Except.map]
  rwa [List.map_id] at hRun

theorem Admits.ofPairs_toList (h : catalog.Admits overrides) :
    Overrides.ofPairs catalog overrides.toList = .ok overrides := by
  have hRun := foldlM_set_of_takes ∅ h
  rw [← NameMap.ofList, NameMap.ofList_toList] at hRun
  exact hRun

/-- The overrides that fit a catalog are those that pairs of names and values make. -/
theorem admits_iff_exists_ofPairs :
    catalog.Admits overrides ↔ ∃ pairs, Overrides.ofPairs catalog pairs = .ok overrides := by
  constructor
  · intro h
    exact ⟨overrides.toList, h.ofPairs_toList⟩
  · rintro ⟨pairs, hRun⟩
    exact admits_of_ofPairs hRun

end Catalog

end BuildOptions
