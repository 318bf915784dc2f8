/-! Finite maps from names, kept in ascending order of the names' code points.  A map is determined
by its look-ups (`NameMap.ext_get?`), and each operation has one lemma that says what it does to
them. -/

namespace BuildOptions

/-- A finite map from names, as its entries in strictly ascending order of name. -/
structure NameMap (α : Type) where
  entries : List (String × α)
  ascending : entries.Pairwise fun a b => a.1 < b.1

namespace NameMap

variable {α β : Type}

/-! ### Entries -/

/-- The entries with `value` at `name`, in place of what was there. -/
def insertEntry (name : String) (value : α) : List (String × α) → List (String × α)
  | [] => [(name, value)]
  | entry :: rest =>
    if name < entry.1 then (name, value) :: entry :: rest
    else if name = entry.1 then (name, value) :: rest
    else entry :: insertEntry name value rest

theorem mem_insertEntry {name : String} {value : α} {e : String × α} {l : List (String × α)}
    (h : e ∈ insertEntry name value l) : e = (name, value) ∨ e ∈ l := by
  induction l with
  | nil => simpa [insertEntry] using h
  | cons entry rest ih =>
    simp only [insertEntry] at h
    split at h
    · simpa using h
    · split at h
      · rcases List.mem_cons.mp h with h | h
        · exact .inl h
        · exact .inr (List.mem_cons_of_mem _ h)
      · rcases List.mem_cons.mp h with h | h
        · exact .inr (h ▸ List.mem_cons_self)
        · exact (ih h).imp_right (List.mem_cons_of_mem _)

theorem lt_of_not_lt_of_ne {a b : String} (h : ¬ a < b) (hne : a ≠ b) : b < a :=
  String.not_le.mp fun hle => hne (String.le_antisymm hle (String.not_lt.mp h))

theorem ascending_insertEntry (name : String) (value : α) {l : List (String × α)}
    (h : l.Pairwise fun a b => a.1 < b.1) :
    (insertEntry name value l).Pairwise fun a b => a.1 < b.1 := by
  induction l with
  | nil => simp [insertEntry]
  | cons entry rest ih =>
    obtain ⟨hHead, hRest⟩ := List.pairwise_cons.mp h
    simp only [insertEntry]
    split
    · rename_i hlt
      refine List.pairwise_cons.mpr ⟨fun e he => ?_, h⟩
      rcases List.mem_cons.mp he with rfl | he
      · exact hlt
      · exact String.lt_trans hlt (hHead e he)
    · split
      · rename_i _ heq
        exact List.pairwise_cons.mpr ⟨fun e he => by simpa [heq] using hHead e he, hRest⟩
      · rename_i hlt hne
        refine List.pairwise_cons.mpr ⟨fun e he => ?_, ih hRest⟩
        rcases mem_insertEntry he with rfl | he
        · exact lt_of_not_lt_of_ne hlt hne
        · exact hHead e he

theorem lookup_cons (key : String) (e : String × α) (l : List (String × α)) :
    (e :: l).lookup key = if key = e.1 then some e.2 else l.lookup key := by
  obtain ⟨name, value⟩ := e
  by_cases h : key = name
  · simp [h]
  · have hb : (key == name) = false := by simpa using h
    simp [List.lookup_cons, hb, h]

theorem lookup_insertEntry (name key : String) (value : α) (l : List (String × α)) :
    (insertEntry name value l).lookup key = if key = name then some value else l.lookup key := by
  induction l with
  | nil => simp [insertEntry, lookup_cons]
  | cons entry rest ih =>
    simp only [insertEntry]
    split
    · simp [lookup_cons]
    · split
      · rename_i _ heq
        by_cases hk : key = name <;> simp [lookup_cons, hk, ← heq]
      · rename_i _ hne
        by_cases hk : key = entry.1
        · simp [lookup_cons, hk, Ne.symm hne]
        · simp [lookup_cons, hk, ih]

theorem lookup_eq_none_of_lt {key : String} {l : List (String × α)}
    (h : ∀ e ∈ l, key < e.1) : l.lookup key = none := by
  rw [List.lookup_eq_none_iff]
  intro e he
  have := h e he
  simp only [bne_iff_ne, ne_eq]
  exact fun heq => String.lt_irrefl _ (heq ▸ this)

/-- Where no name occurs twice, looking up finds the entry that is there. -/
theorem lookup_eq_some_iff_mem {key : String} {value : α} {l : List (String × α)}
    (h : l.Pairwise fun a b => a.1 ≠ b.1) : l.lookup key = some value ↔ (key, value) ∈ l := by
  induction l with
  | nil => simp
  | cons e r ih =>
    obtain ⟨hHead, hRest⟩ := List.pairwise_cons.mp h
    rw [lookup_cons, List.mem_cons]
    split
    · rename_i hk
      have hNot : (key, value) ∉ r := fun hm => hHead _ hm hk.symm
      simp only [hNot, or_false, Option.some.injEq]
      exact ⟨fun hv => Prod.ext hk hv.symm, fun he => (congrArg Prod.snd he).symm⟩
    · rename_i hk
      have hNe : (key, value) ≠ e := fun he => hk (congrArg Prod.fst he)
      simp only [hNe, false_or]
      exact ih hRest

theorem distinct_of_ascending {l : List (String × α)} (h : l.Pairwise fun a b => a.1 < b.1) :
    l.Pairwise fun a b => a.1 ≠ b.1 :=
  h.imp fun {a b} (hlt : a.1 < b.1) (heq : a.1 = b.1) => String.lt_irrefl b.1 (heq ▸ hlt)

/-- Entries in ascending order are determined by the look-ups in them. -/
theorem eq_of_lookup_eq {l₁ l₂ : List (String × α)} (h₁ : l₁.Pairwise fun a b => a.1 < b.1)
    (h₂ : l₂.Pairwise fun a b => a.1 < b.1) (h : ∀ key, l₁.lookup key = l₂.lookup key) :
    l₁ = l₂ := by
  induction l₁ generalizing l₂ with
  | nil =>
    cases l₂ with
    | nil => rfl
    | cons e₂ r₂ => simpa [lookup_cons] using h e₂.1
  | cons e₁ r₁ ih =>
    obtain ⟨hHead₁, hRest₁⟩ := List.pairwise_cons.mp h₁
    cases l₂ with
    | nil => simpa [lookup_cons] using h e₁.1
    | cons e₂ r₂ =>
      obtain ⟨hHead₂, hRest₂⟩ := List.pairwise_cons.mp h₂
      have hBelow : ∀ {x y : String × α} {r : List (String × α)}, (∀ e ∈ r, y.1 < e.1) →
          x.1 < y.1 → (y :: r).lookup x.1 = none := fun hHead hlt =>
        lookup_eq_none_of_lt fun e he => by
          rcases List.mem_cons.mp he with rfl | he
          · exact hlt
          · exact String.lt_trans hlt (hHead e he)
      have hName : e₁.1 = e₂.1 := by
        by_cases hne : e₁.1 = e₂.1
        · exact hne
        · by_cases hlt : e₁.1 < e₂.1
          · have := h e₁.1
            simp [hBelow hHead₂ hlt, lookup_cons] at this
          · have := h e₂.1
            simp [hBelow hHead₁ (lt_of_not_lt_of_ne hlt hne), lookup_cons] at this
      have hValue : e₁.2 = e₂.2 := by
        simpa [lookup_cons, hName] using h e₁.1
      have hRest : r₁ = r₂ := by
        refine ih hRest₁ hRest₂ fun key => ?_
        by_cases hk : key = e₁.1
        · rw [hk, lookup_eq_none_of_lt hHead₁, lookup_eq_none_of_lt (hName ▸ hHead₂)]
        · simpa [lookup_cons, hk, hName ▸ hk] using h key
      rw [Prod.ext hName hValue, hRest]

/-! ### Maps -/

/-- The map without entries. -/
def empty : NameMap α := ⟨[], .nil⟩

instance : EmptyCollection (NameMap α) := ⟨empty⟩

instance : Inhabited (NameMap α) := ⟨empty⟩

/-- The value at `name`, if there is one. -/
def get? (m : NameMap α) (name : String) : Option α := m.entries.lookup name

/-- There is a value at `name`. -/
def contains (m : NameMap α) (name : String) : Bool := (m.get? name).isSome

/-- The map with `value` at `name`, in place of what was there. -/
def insert (m : NameMap α) (name : String) (value : α) : NameMap α :=
  ⟨insertEntry name value m.entries, ascending_insertEntry name value m.ascending⟩

/-- The entries in ascending order of name. -/
def toList (m : NameMap α) : List (String × α) := m.entries

/-- The number of entries. -/
def size (m : NameMap α) : Nat := m.entries.length

/-- There are no entries. -/
def isEmpty (m : NameMap α) : Bool := m.entries.isEmpty

/-- The map with every value replaced by its image. -/
def map (f : α → β) (m : NameMap α) : NameMap β :=
  ⟨m.entries.map fun e => (e.1, f e.2), List.pairwise_map.mpr m.ascending⟩

/-- The entries that pass a test. -/
def filter (keep : String → α → Bool) (m : NameMap α) : NameMap α :=
  ⟨m.entries.filter fun e => keep e.1 e.2, m.ascending.sublist List.filter_sublist⟩

/-- The map with the given entries inserted from left to right. -/
def insertAll (m : NameMap α) (l : List (String × α)) : NameMap α :=
  l.foldl (fun acc e => acc.insert e.1 e.2) m

/-- The map of the given entries; of two entries for one name the later one stays. -/
def ofList (l : List (String × α)) : NameMap α := (∅ : NameMap α).insertAll l

/-- Both maps' entries; where both have a name, the second map's value. -/
def merge (m newer : NameMap α) : NameMap α := m.insertAll newer.entries

instance [DecidableEq α] : DecidableEq (NameMap α) := fun a b =>
  if h : a.entries = b.entries then
    .isTrue (by cases a; cases b; simpa using h)
  else .isFalse fun h' => h (h' ▸ rfl)

/-! ### Look-ups -/

/-- Two maps with the same look-ups are equal. -/
theorem ext_get? {a b : NameMap α} (h : ∀ name, a.get? name = b.get? name) : a = b := by
  have := eq_of_lookup_eq a.ascending b.ascending h
  cases a
  cases b
  simpa using this

@[simp] theorem get?_empty (name : String) : (∅ : NameMap α).get? name = none := rfl

theorem get?_insert (m : NameMap α) (name key : String) (value : α) :
    (m.insert name value).get? key = if key = name then some value else m.get? key :=
  lookup_insertEntry name key value m.entries

@[simp] theorem get?_insert_self (m : NameMap α) (name : String) (value : α) :
    (m.insert name value).get? name = some value := by
  simp [get?_insert]

theorem get?_insert_of_ne (m : NameMap α) {name key : String} (value : α) (h : key ≠ name) :
    (m.insert name value).get? key = m.get? key := by
  simp [get?_insert, h]

@[simp] theorem get?_map (f : α → β) (m : NameMap α) (name : String) :
    (m.map f).get? name = (m.get? name).map f := by
  simp only [get?, map]
  induction m.entries with
  | nil => rfl
  | cons e r ih =>
    simp only [List.map_cons, lookup_cons, ih]
    split <;> rfl

theorem get?_eq_some_iff_mem (m : NameMap α) {name : String} {value : α} :
    m.get? name = some value ↔ (name, value) ∈ m.toList :=
  lookup_eq_some_iff_mem (distinct_of_ascending m.ascending)

theorem get?_filter (keep : String → α → Bool) (m : NameMap α) (name : String) :
    (m.filter keep).get? name = (m.get? name).filter (keep name) := by
  apply Option.ext
  intro v
  rw [get?_eq_some_iff_mem, Option.filter_eq_some_iff, get?_eq_some_iff_mem]
  simp [toList, filter]

theorem get?_insertAll (m : NameMap α) (l : List (String × α)) (name : String) :
    (m.insertAll l).get? name = (l.reverse.lookup name).or (m.get? name) := by
  induction l generalizing m with
  | nil => rfl
  | cons e r ih =>
    simp only [insertAll, List.foldl_cons] at ih ⊢
    rw [ih, List.reverse_cons, List.lookup_append, get?_insert, lookup_cons]
    cases r.reverse.lookup name with
    | some v => simp
    | none => by_cases h : name = e.1 <;> simp [h]

/-- The second map's value wins where both have one. -/
theorem get?_merge (m newer : NameMap α) (name : String) :
    (m.merge newer).get? name = (newer.get? name).or (m.get? name) := by
  have h : newer.entries.reverse.lookup name = newer.get? name := Option.ext fun v => by
    rw [get?_eq_some_iff_mem, lookup_eq_some_iff_mem, List.mem_reverse, toList]
    exact List.pairwise_reverse.mpr ((distinct_of_ascending newer.ascending).imp Ne.symm)
  rw [merge, get?_insertAll, h]

theorem contains_iff (m : NameMap α) (name : String) :
    m.contains name = true ↔ ∃ value, m.get? name = some value := by
  simp [contains, Option.isSome_iff_exists]

end NameMap

end BuildOptions
