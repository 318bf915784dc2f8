import BuildOptions.Profile.Basic
import BuildOptions.Proofs.Overrides.Pairs

/-! What the options of a profile ask for.  Each option is read and set on its own, so a profile is
taken exactly if each of its options is, and leaving a text out only loses the flag that it sets. -/

namespace BuildOptions

namespace Profile

variable {catalog : Catalog} {profile : Profile} {overrides : Overrides} {name text : String}
  {entry : String × Toml.Value} {option : Toml.Value} {value given : FlagValue}

/-! ### All options -/

/-- An option of a profile asks for this value: a position, a text, or an integer in decimal. -/
inductive AsksFor : Toml.Value → FlagValue → Prop where
  | boolean (on : Bool) : AsksFor (.boolean on) (.switch on)
  | string (text : String) : AsksFor (.string text) (.scalar text)
  | integer (value : Int) : AsksFor (.integer value) (.scalar (Text.decimalInt value))

theorem flagValue_eq_ok_iff : flagValue name option = .ok given ↔ AsksFor option given := by
  constructor
  · intro h
    unfold flagValue at h
    split at h <;> cases h
    · exact .boolean _
    · exact .string _
    · exact .integer _
  · intro h
    cases h <;> rfl

/-- The option with its value as the flag takes it. -/
def readOption (catalog : Catalog) (entry : String × Toml.Value) :
    Except Failure (String × FlagValue) := do
  let given ← flagValue entry.1 entry.2
  (Overrides.readPair catalog (entry.1, given)).mapError .option

/-- What an option asks for is taken as this value. -/
def Takes (catalog : Catalog) (name : String) (option : Toml.Value) (value : FlagValue) : Prop :=
  ∃ given, AsksFor option given ∧ catalog.Coerces name given value

theorem readOption_eq_ok_iff :
    readOption catalog entry = .ok (name, value) ↔
      entry.1 = name ∧ Takes catalog name entry.2 value := by
  simp only [readOption, Takes, bind_eq_ok_iff, flagValue_eq_ok_iff, mapError_eq_ok_iff,
    Overrides.readPair_eq_ok_iff]
  tauto

theorem reads_readOption :
    NameMap.Reads (readOption catalog) NameMap.EntryGives (Takes catalog) where
  eq_ok_iff := by
    rintro ⟨key, option⟩ name value
    rw [readOption_eq_ok_iff]
    constructor
    · rintro ⟨rfl, hTakes⟩
      exact ⟨option, rfl, hTakes⟩
    · rintro ⟨_, hGives, hTakes⟩
      cases hGives
      exact ⟨rfl, hTakes⟩
  name_eq := NameMap.EntryGives.name_eq

theorem setOption_eq_fill : setOption catalog = NameMap.fill (readOption catalog) := by
  funext overrides entry
  rw [setOption, NameMap.fill, readOption]
  cases flagValue entry.1 entry.2 with
  | error failure => rfl
  | ok given =>
    change (Overrides.set catalog overrides entry.1 given).mapError Failure.option =
      ((Overrides.readPair catalog (entry.1, given)).mapError Failure.option).map _
    rw [Overrides.set, Overrides.readPair]
    cases catalog.accept entry.1 given <;> rfl

theorem overrides_eq (catalog : Catalog) (profile : Profile) :
    profile.overrides catalog =
      profile.options.toList.foldlM (NameMap.fill (readOption catalog)) ∅ := by
  rw [Profile.overrides, setOption_eq_fill]

theorem exists_overrides_iff :
    (∃ overrides, profile.overrides catalog = .ok overrides) ↔
      ∀ entry ∈ profile.options.toList, ∃ single, setOption catalog ∅ entry = .ok single := by
  rw [overrides_eq, NameMap.exists_foldlM_fill_iff, setOption_eq_fill]

theorem get?_of_overrides (h : profile.overrides catalog = .ok overrides) :
    overrides.get? name = some value ↔
      ∃ option, profile.options.get? name = some option ∧ Takes catalog name option value := by
  rw [overrides_eq] at h
  simp only [reads_readOption.get?_eq_some_iff h, NameMap.lastGives_entryGives_iff,
    NameMap.ofList_toList]

/-! ### All options but one -/

/-- The profile without one of its options. -/
def without (profile : Profile) (name : String) : Profile :=
  { profile with options := profile.options.filter fun key _ => key ≠ name }

theorem exists_setOption_string_iff :
    (∃ single, setOption catalog ∅ (name, .string text) = .ok single) ↔
      ∃ value, catalog.Coerces name (.scalar text) value := by
  rw [setOption_eq_fill, NameMap.fill, exists_map_eq_ok_iff]
  constructor
  · rintro ⟨⟨_, value⟩, hRead⟩
    obtain ⟨rfl, given, hAsks, hCoerces⟩ := readOption_eq_ok_iff.mp hRead
    cases hAsks
    exact ⟨value, hCoerces⟩
  · rintro ⟨value, hCoerces⟩
    exact ⟨(name, value), readOption_eq_ok_iff.mpr ⟨rfl, _, .string text, hCoerces⟩⟩

variable (hOption : profile.options.get? name = some (.string text))
include hOption

theorem exists_overrides_iff_without :
    (∃ overrides, profile.overrides catalog = .ok overrides) ↔
      (∃ overrides, (profile.without name).overrides catalog = .ok overrides) ∧
        ∃ value, catalog.Coerces name (.scalar text) value := by
  rw [exists_overrides_iff, exists_overrides_iff, ← exists_setOption_string_iff]
  have hMem := (NameMap.get?_eq_some_iff_mem _).mp hOption
  constructor
  · intro hAll
    exact ⟨fun entry hEntry => hAll entry (List.mem_filter.mp hEntry).1, hAll _ hMem⟩
  · rintro ⟨hRest, hMoved⟩ ⟨key, option⟩ hEntry
    by_cases hKey : key = name
    · subst hKey
      rw [← NameMap.get?_eq_some_iff_mem, hOption] at hEntry
      cases hEntry
      exact hMoved
    · exact hRest _ (List.mem_filter.mpr ⟨hEntry, by simpa using hKey⟩)

theorem overrides_eq_ok_iff_without (hCoerces : catalog.Coerces name (.scalar text) value) :
    profile.overrides catalog = .ok overrides ↔
      ∃ rest, (profile.without name).overrides catalog = .ok rest ∧
        rest.insert name value = overrides := by
  have hInsert : ∀ {all rest}, profile.overrides catalog = .ok all →
      (profile.without name).overrides catalog = .ok rest → rest.insert name value = all := by
    intro all rest hAll hRest
    rw [NameMap.insert_eq_iff, get?_of_overrides hAll]
    refine ⟨⟨_, hOption, _, .string text, hCoerces⟩, fun other hOther => Option.ext fun found => ?_⟩
    rw [get?_of_overrides hAll, get?_of_overrides hRest, without, NameMap.get?_filter]
    simp [hOther]
  constructor
  · intro hAll
    obtain ⟨⟨rest, hRest⟩, -⟩ := (exists_overrides_iff_without hOption).mp ⟨overrides, hAll⟩
    exact ⟨rest, hRest, hInsert hAll hRest⟩
  · rintro ⟨rest, hRest, rfl⟩
    obtain ⟨all, hAll⟩ :=
      (exists_overrides_iff_without hOption).mpr ⟨⟨rest, hRest⟩, value, hCoerces⟩
    rw [hAll, hInsert hAll hRest]

end Profile

end BuildOptions
