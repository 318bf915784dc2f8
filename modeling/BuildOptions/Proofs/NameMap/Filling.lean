import BuildOptions.NameMap
import Mathlib.Data.List.Basic

/-! Maps that are filled item by item.  Each item is read as a name and a value or is refused, and
what is read is inserted.  Reading does not look at the map, so all items are taken exactly if each
of them can be read, the first one that cannot decides how the filling fails, and of several items
for one name the last decides. -/

namespace BuildOptions

variable {ε ε' ι α β γ : Type}

/-! ### Steps that may fail -/

theorem bind_eq_ok_iff {first : Except ε α} {next : α → Except ε β} {b : β} :
    (first >>= next) = .ok b ↔ ∃ a, first = .ok a ∧ next a = .ok b := by
  cases first <;> simp [bind, Except.bind]

theorem bind_eq_error_iff {first : Except ε α} {next : α → Except ε β} {e : ε} :
    (first >>= next) = .error e ↔ first = .error e ∨ ∃ a, first = .ok a ∧ next a = .error e := by
  cases first <;> simp [bind, Except.bind]

theorem map_eq_ok_iff {result : Except ε α} {f : α → β} {b : β} :
    result.map f = .ok b ↔ ∃ a, result = .ok a ∧ f a = b := by
  cases result <;> simp [Except.map]

theorem exists_map_eq_ok_iff {result : Except ε α} {f : α → β} :
    (∃ b, result.map f = .ok b) ↔ ∃ a, result = .ok a := by
  cases result <;> simp [Except.map]

theorem map_eq_error_iff {result : Except ε α} {f : α → β} {e : ε} :
    result.map f = .error e ↔ result = .error e := by
  cases result <;> simp [Except.map]

theorem mapError_eq_ok_iff {result : Except ε α} {f : ε → ε'} {a : α} :
    result.mapError f = .ok a ↔ result = .ok a := by
  cases result <;> simp [Except.mapError]

/-! ### Items that are read one after another -/

section Reading

variable {read : ι → Except ε β} {items : List ι}

theorem mapM_eq_ok_iff {results : List β} :
    items.mapM read = .ok results ↔ items.map read = results.map .ok := by
  induction items generalizing results with
  | nil => cases results <;> simp [pure, Except.pure]
  | cons item rest ih =>
    simp only [List.mapM_cons, bind_eq_ok_iff, ih, pure, Except.pure, Except.ok.injEq]
    cases results with
    | nil => simp
    | cons result results =>
      simp only [List.map_cons, List.cons.injEq]
      constructor
      · rintro ⟨_, hItem, _, hRest, rfl, rfl⟩
        exact ⟨hItem, hRest⟩
      · rintro ⟨hItem, hRest⟩
        exact ⟨result, hItem, results, hRest, rfl, rfl⟩

theorem exists_mapM_eq_ok_iff :
    (∃ results, items.mapM read = .ok results) ↔
      ∀ item ∈ items, ∃ result, read item = .ok result := by
  induction items with
  | nil => simp [pure, Except.pure]
  | cons item rest ih =>
    rw [List.forall_mem_cons, ← ih]
    simp only [List.mapM_cons, bind_eq_ok_iff, pure, Except.pure, Except.ok.injEq]
    constructor
    · rintro ⟨_, result, hItem, results, hRest, -⟩
      exact ⟨⟨result, hItem⟩, results, hRest⟩
    · rintro ⟨⟨result, hItem⟩, results, hRest⟩
      exact ⟨_, result, hItem, results, hRest, rfl⟩

/-- The first item that cannot be read is the one whose refusal is reported. -/
theorem mapM_eq_error_iff {refusal : ε} :
    items.mapM read = .error refusal ↔
      ∃ before item after, items = before ++ item :: after ∧
        (∀ earlier ∈ before, ∃ result, read earlier = .ok result) ∧
        read item = .error refusal := by
  induction items with
  | nil => simp [pure, Except.pure]
  | cons item rest ih =>
    simp only [List.mapM_cons, bind_eq_error_iff, ih, pure, Except.pure, reduceCtorEq, and_false,
      exists_false, or_false]
    constructor
    · rintro (hItem | ⟨result, hItem, before, found, after, rfl, hBefore, hFound⟩)
      · exact ⟨[], item, rest, rfl, by simp, hItem⟩
      · exact ⟨item :: before, found, after, rfl,
          List.forall_mem_cons.mpr ⟨⟨result, hItem⟩, hBefore⟩, hFound⟩
    · rintro ⟨before, found, after, hItems, hBefore, hFound⟩
      cases before with
      | nil =>
        cases hItems
        exact .inl hFound
      | cons first before =>
        cases hItems
        obtain ⟨⟨result, hFirst⟩, hBefore⟩ := List.forall_mem_cons.mp hBefore
        exact .inr ⟨result, hFirst, before, found, after, rfl, hBefore, hFound⟩

end Reading

namespace NameMap

/-! ### The last entry for a name -/

theorem get?_ofList (entries : List (String × α)) (name : String) :
    (ofList entries).get? name = entries.reverse.lookup name := by
  rw [ofList, get?_insertAll, get?_empty, Option.or_none]

/-- Of several entries for one name the last one counts. -/
theorem get?_ofList_eq_some_iff {entries : List (String × α)} {name : String} {value : α} :
    (ofList entries).get? name = some value ↔
      ∃ before after, entries = before ++ (name, value) :: after ∧
        ∀ later ∈ after, later.1 ≠ name := by
  simp only [get?_ofList, List.lookup_eq_some_iff, bne_iff_ne, ne_comm (a := name)]
  constructor
  · rintro ⟨after, before, hEntries, hAfter⟩
    refine ⟨before.reverse, after.reverse, ?_, fun later hLater => ?_⟩
    · simpa using congrArg List.reverse hEntries
    · exact hAfter later (List.mem_reverse.mp hLater)
  · rintro ⟨before, after, rfl, hAfter⟩
    refine ⟨after.reverse, before.reverse, by simp, fun later hLater => ?_⟩
    exact hAfter later (List.mem_reverse.mp hLater)

theorem get?_ofList_eq_none_iff {entries : List (String × α)} {name : String} :
    (ofList entries).get? name = none ↔ ∀ entry ∈ entries, entry.1 ≠ name := by
  simp only [get?_ofList, List.lookup_eq_none_iff, List.mem_reverse, bne_iff_ne,
    ne_comm (a := name)]

theorem ofList_toList (m : NameMap α) : ofList m.toList = m := by
  apply ext_get?
  intro name
  have hMerge : (ofList m.toList).get? name = ((∅ : NameMap α).merge m).get? name := rfl
  rw [hMerge, get?_merge, get?_empty, Option.or_none]

theorem ofList_append (older newer : List (String × α)) :
    ofList (older ++ newer) = (ofList older).merge (ofList newer) := by
  apply ext_get?
  intro name
  rw [get?_merge, get?_ofList, get?_ofList, get?_ofList, List.reverse_append, List.lookup_append]

/-- What an insertion leads to: one value, and all else as it was. -/
theorem insert_eq_iff {m changed : NameMap α} {name : String} {value : α} :
    m.insert name value = changed ↔
      changed.get? name = some value ∧
        ∀ other, other ≠ name → changed.get? other = m.get? other := by
  constructor
  · rintro rfl
    exact ⟨get?_insert_self m name value, fun other hOther => get?_insert_of_ne m value hOther⟩
  · rintro ⟨hName, hOthers⟩
    apply ext_get?
    intro key
    rw [get?_insert]
    split
    · rename_i hKey
      rw [hKey, hName]
    · rename_i hKey
      exact (hOthers key hKey).symm

theorem insert_merge (m newer : NameMap α) (name : String) (value : α) :
    (m.insert name value).merge newer =
      m.merge (((∅ : NameMap α).insert name value).merge newer) := by
  apply ext_get?
  intro key
  simp only [get?_merge, get?_insert, get?_empty]
  by_cases hKey : key = name <;> cases newer.get? key <;> simp [hKey]

/-- Steps that each insert the entry that was written lead to all of the entries. -/
theorem foldlM_map_eq_insertAll {step : NameMap α → ι → Except ε (NameMap α)}
    {entries : List (String × α)} (write : String × α → ι)
    (h : ∀ entry ∈ entries, ∀ m, step m (write entry) = .ok (m.insert entry.1 entry.2))
    (start : NameMap α) :
    (entries.map write).foldlM step start = .ok (start.insertAll entries) := by
  induction entries generalizing start with
  | nil => rfl
  | cons entry rest ih =>
    obtain ⟨hEntry, hRest⟩ := List.forall_mem_cons.mp h
    rw [List.map_cons, List.foldlM_cons, hEntry]
    exact ih hRest _

/-! ### Filling -/

/-- The map with what is read from an item. -/
def fill (read : ι → Except ε (String × α)) (m : NameMap α) (item : ι) : Except ε (NameMap α) :=
  (read item).map fun entry => m.insert entry.1 entry.2

variable {read : ι → Except ε (String × α)} {items : List ι}

/-- Filling is reading all items first and inserting what they are read as. -/
theorem foldlM_fill (start : NameMap α) (items : List ι) :
    items.foldlM (fill read) start = (items.mapM read).map start.insertAll := by
  induction items generalizing start with
  | nil => rfl
  | cons item rest ih =>
    rw [List.foldlM_cons, List.mapM_cons, fill]
    cases hItem : read item with
    | error refusal => rfl
    | ok entry =>
      change rest.foldlM (fill read) (start.insert entry.1 entry.2) = _
      rw [ih]
      cases rest.mapM read <;> rfl

theorem exists_foldlM_fill_iff :
    (∃ m, items.foldlM (fill read) ∅ = .ok m) ↔
      ∀ item ∈ items, ∃ single, fill read ∅ item = .ok single := by
  simp only [foldlM_fill, fill, exists_map_eq_ok_iff, exists_mapM_eq_ok_iff]

theorem foldlM_fill_eq_error_iff {refusal : ε} :
    items.foldlM (fill read) ∅ = .error refusal ↔
      ∃ before item after, items = before ++ item :: after ∧
        (∀ earlier ∈ before, ∃ single, fill read ∅ earlier = .ok single) ∧
        fill read ∅ item = .error refusal := by
  simp only [foldlM_fill, fill, map_eq_error_iff, mapM_eq_error_iff, exists_map_eq_ok_iff]

theorem foldlM_fill_append (xs ys : List ι) :
    (xs ++ ys).foldlM (fill read) ∅ = do
      let older ← xs.foldlM (fill read) ∅
      let newer ← ys.foldlM (fill read) ∅
      return older.merge newer := by
  simp only [foldlM_fill, List.mapM_append]
  cases xs.mapM read with
  | error refusal => rfl
  | ok older =>
    cases ys.mapM read with
    | error refusal => rfl
    | ok newer => exact congrArg Except.ok (ofList_append older newer)

/-! ### What a filled map holds -/

/-- An item gives something to one name, and reading the item is taking what it gives. -/
structure Reads (read : ι → Except ε (String × α)) (Gives : ι → String → γ → Prop)
    (Takes : String → γ → α → Prop) : Prop where
  eq_ok_iff : ∀ {item name value},
    read item = .ok (name, value) ↔ ∃ given, Gives item name given ∧ Takes name given value
  name_eq : ∀ {item name other a b}, Gives item name a → Gives item other b → name = other

/-- The last item for the name gives it this. -/
def LastGives (Gives : ι → String → γ → Prop) (items : List ι) (name : String) (given : γ) : Prop :=
  ∃ before item after, items = before ++ item :: after ∧ Gives item name given ∧
    ∀ later ∈ after, ∀ other, ¬Gives later name other

namespace Reads

variable {Gives : ι → String → γ → Prop} {Takes : String → γ → α → Prop} {name : String}

theorem forall_not_gives_iff (hReads : Reads read Gives Takes) {entries : List (String × α)}
    (h : items.map read = entries.map .ok) :
    (∀ item ∈ items, ∀ given, ¬Gives item name given) ↔ ∀ entry ∈ entries, entry.1 ≠ name := by
  induction items generalizing entries with
  | nil =>
    cases entries with
    | nil => simp
    | cons entry entries => cases h
  | cons item rest ih =>
    cases entries with
    | nil => cases h
    | cons entry entries =>
      obtain ⟨hItem, hRest⟩ := List.cons.inj h
      obtain ⟨given, hGives, -⟩ := hReads.eq_ok_iff.mp hItem
      rw [List.forall_mem_cons, List.forall_mem_cons, ih hRest]
      refine and_congr_left fun _ => ⟨?_, fun hName other hOther => hName ?_⟩
      · rintro hNone rfl
        exact hNone given hGives
      · exact hReads.name_eq hGives hOther

variable (hReads : Reads read Gives Takes) {m : NameMap α}
  (h : items.foldlM (fill read) ∅ = .ok m)
include hReads h

/-- In a map that is filled, a name has what the last item for it gives. -/
theorem get?_eq_some_iff {value : α} :
    m.get? name = some value ↔
      ∃ given, LastGives Gives items name given ∧ Takes name given value := by
  rw [foldlM_fill, map_eq_ok_iff] at h
  obtain ⟨entries, hEntries, rfl⟩ := h
  rw [mapM_eq_ok_iff] at hEntries
  change (ofList entries).get? name = some value ↔ _
  rw [get?_ofList_eq_some_iff]
  constructor
  · rintro ⟨before, after, rfl, hAfter⟩
    rw [List.map_append, List.map_cons, List.map_eq_append_iff] at hEntries
    obtain ⟨itemsBefore, rest, rfl, -, hRest⟩ := hEntries
    obtain ⟨item, itemsAfter, rfl, hItem, hItemsAfter⟩ := List.map_eq_cons_iff.mp hRest
    obtain ⟨given, hGives, hTakes⟩ := hReads.eq_ok_iff.mp hItem
    exact ⟨given, ⟨itemsBefore, item, itemsAfter, rfl, hGives,
      (hReads.forall_not_gives_iff hItemsAfter).mpr hAfter⟩, hTakes⟩
  · rintro ⟨given, ⟨itemsBefore, item, itemsAfter, rfl, hGives, hItemsAfter⟩, hTakes⟩
    have hItem : read item = .ok (name, value) := hReads.eq_ok_iff.mpr ⟨given, hGives, hTakes⟩
    rw [List.map_append, List.map_cons, hItem, List.append_eq_map_iff] at hEntries
    obtain ⟨before, rest, rfl, -, hRest⟩ := hEntries
    obtain ⟨entry, after, rfl, hEntry, hAfter⟩ := List.map_eq_cons_iff.mp hRest
    cases hEntry
    exact ⟨before, after, rfl, (hReads.forall_not_gives_iff hAfter.symm).mp hItemsAfter⟩

theorem get?_eq_none_iff :
    m.get? name = none ↔ ∀ item ∈ items, ∀ given, ¬Gives item name given := by
  rw [foldlM_fill, map_eq_ok_iff] at h
  obtain ⟨entries, hEntries, rfl⟩ := h
  rw [hReads.forall_not_gives_iff (mapM_eq_ok_iff.mp hEntries)]
  exact get?_ofList_eq_none_iff

end Reads

/-- The entry gives its value to its name. -/
def EntryGives (entry : String × γ) (name : String) (given : γ) : Prop := entry = (name, given)

theorem EntryGives.name_eq {entry : String × γ} {name other : String} {a b : γ}
    (h : EntryGives entry name a) (hOther : EntryGives entry other b) : name = other :=
  congrArg Prod.fst (h.symm.trans hOther)

theorem lastGives_entryGives_iff {entries : List (String × γ)} {name : String} {given : γ} :
    LastGives EntryGives entries name given ↔ (ofList entries).get? name = some given := by
  rw [get?_ofList_eq_some_iff]
  constructor
  · rintro ⟨before, _, after, rfl, rfl, hAfter⟩
    refine ⟨before, after, rfl, fun later hLater hName => hAfter later hLater later.2 ?_⟩
    exact Prod.ext hName rfl
  · rintro ⟨before, after, rfl, hAfter⟩
    exact ⟨before, _, after, rfl, rfl, fun later hLater other hGives =>
      hAfter later hLater (congrArg Prod.fst hGives)⟩

end NameMap

end BuildOptions
