import BuildOptions.Proofs.Overrides.Typing
import BuildOptions.Proofs.Text.Blank
import BuildOptions.Proofs.Text.Capitals

/-! What a flag takes and what it refuses.  A switch takes a position, or one of six words for one
in any case and with blanks around it; a scalar takes any text and nothing else. -/

namespace BuildOptions

/-! ### Words for positions -/

/-- The words for a position of a switch. -/
def positionWords : Bool → List String
  | true => ["true", "on", "1"]
  | false => ["false", "off", "0"]

/-- The word is one for the position, in whatever case. -/
def Spells (word : String) (on : Bool) : Prop :=
  ∃ known ∈ positionWords on, Text.SameLetters word known

theorem spells_iff {word : String} {on : Bool} :
    Spells word on ↔ Text.lower word ∈ positionWords on := by
  have hKnown : ∀ on, ∀ known ∈ positionWords on, Text.lower known = known := by decide
  constructor
  · rintro ⟨known, hMem, hSame⟩
    rw [← Text.lower_eq_lower_iff, hKnown on known hMem] at hSame
    rwa [hSame]
  · intro hMem
    refine ⟨Text.lower word, hMem, ?_⟩
    rw [← Text.lower_eq_lower_iff, hKnown on _ hMem]

theorem readSwitch_eq_some_iff {word : String} {on : Bool} :
    readSwitch word = some on ↔ Spells (Text.trim word) on := by
  rw [spells_iff, readSwitch]
  generalize Text.lower (Text.trim word) = known
  cases on <;> split <;> simp_all [positionWords]

theorem readSwitch_eq_none_iff {word : String} :
    readSwitch word = none ↔ ∀ on, ¬Spells (Text.trim word) on := by
  simp only [← readSwitch_eq_some_iff, Option.eq_none_iff_forall_ne_some, ne_eq]

namespace Catalog

/-- A flag that is set to the first value gets the second. -/
inductive Coerces (catalog : Catalog) (name : String) : FlagValue → FlagValue → Prop where
  | position (on : Bool) : catalog.Declares name .switch →
      Coerces catalog name (.switch on) (.switch on)
  | word {word : String} {on : Bool} : catalog.Declares name .switch →
      Spells (Text.trim word) on → Coerces catalog name (.scalar word) (.switch on)
  | text (text : String) : catalog.Declares name .scalar →
      Coerces catalog name (.scalar text) (.scalar text)

/-- A flag cannot be set to the value, for this reason. -/
inductive Refuses (catalog : Catalog) (name : String) : FlagValue → OptionError → Prop where
  | unknown (value : FlagValue) : (∀ kind, ¬catalog.Declares name kind) →
      Refuses catalog name value (.unknownFlag name)
  | noPosition {word : String} : catalog.Declares name .switch →
      (∀ on, ¬Spells (Text.trim word) on) →
      Refuses catalog name (.scalar word) (.wrongKind name .switch word)
  | noText (on : Bool) : catalog.Declares name .scalar →
      Refuses catalog name (.switch on) (.wrongKind name .scalar (FlagValue.switch on).render)

variable {catalog : Catalog} {name : String} {given value : FlagValue} {refusal : OptionError}

theorem Coerces.accept (h : catalog.Coerces name given value) :
    catalog.accept name given = .ok value := by
  cases h with
  | position on hDeclared =>
    obtain ⟨flag, hFlag, rfl, hKind⟩ := hDeclared
    simp only [accept_name hFlag, Flag.coerce, hKind]
  | word hDeclared hSpells =>
    obtain ⟨flag, hFlag, rfl, hKind⟩ := hDeclared
    simp only [accept_name hFlag, Flag.coerce, hKind, readSwitch_eq_some_iff.mpr hSpells]
  | text text hDeclared =>
    obtain ⟨flag, hFlag, rfl, hKind⟩ := hDeclared
    simp only [accept_name hFlag, Flag.coerce, hKind]

theorem Refuses.accept (h : catalog.Refuses name given refusal) :
    catalog.accept name given = .error refusal := by
  cases h with
  | unknown given hUnknown =>
    have hNone : catalog.flag? name = none := by
      rw [Option.eq_none_iff_forall_ne_some]
      intro flag hFind
      obtain ⟨hFlag, hName⟩ := flag?_eq_some_iff.mp hFind
      exact hUnknown flag.kind ⟨flag, hFlag, hName, rfl⟩
    rw [Catalog.accept, hNone]
  | noPosition hDeclared hWord =>
    obtain ⟨flag, hFlag, rfl, hKind⟩ := hDeclared
    simp only [accept_name hFlag, Flag.coerce, hKind, readSwitch_eq_none_iff.mpr hWord]
  | noText on hDeclared =>
    obtain ⟨flag, hFlag, rfl, hKind⟩ := hDeclared
    simp only [accept_name hFlag, Flag.coerce, hKind]

/-- No value goes unanswered. -/
theorem coerces_or_refuses (catalog : Catalog) (name : String) (given : FlagValue) :
    (∃ value, catalog.Coerces name given value) ∨
      ∃ refusal, catalog.Refuses name given refusal := by
  by_cases hDeclared : ∃ kind, catalog.Declares name kind
  · obtain ⟨kind, hDeclared⟩ := hDeclared
    cases kind with
    | switch =>
      cases given with
      | switch on => exact .inl ⟨_, .position on hDeclared⟩
      | scalar word =>
        by_cases hWord : ∃ on, Spells (Text.trim word) on
        · obtain ⟨on, hSpells⟩ := hWord
          exact .inl ⟨_, .word hDeclared hSpells⟩
        · exact .inr ⟨_, .noPosition hDeclared (not_exists.mp hWord)⟩
    | scalar =>
      cases given with
      | switch on => exact .inr ⟨_, .noText on hDeclared⟩
      | scalar text => exact .inl ⟨_, .text text hDeclared⟩
  · exact .inr ⟨_, .unknown given (not_exists.mp hDeclared)⟩

theorem accept_eq_ok_iff :
    catalog.accept name given = .ok value ↔ catalog.Coerces name given value := by
  refine ⟨fun h => ?_, Coerces.accept⟩
  rcases catalog.coerces_or_refuses name given with ⟨other, hCoerces⟩ | ⟨refusal, hRefuses⟩
  · rw [hCoerces.accept] at h
    cases h
    exact hCoerces
  · rw [hRefuses.accept] at h
    cases h

theorem accept_eq_error_iff :
    catalog.accept name given = .error refusal ↔ catalog.Refuses name given refusal := by
  refine ⟨fun h => ?_, Refuses.accept⟩
  rcases catalog.coerces_or_refuses name given with ⟨value, hCoerces⟩ | ⟨other, hRefuses⟩
  · rw [hCoerces.accept] at h
    cases h
  · rw [hRefuses.accept] at h
    cases h
    exact hRefuses

end Catalog

namespace Overrides

variable {catalog : Catalog} {overrides changed : Overrides} {name : String} {given : FlagValue}
  {refusal : OptionError}

theorem set_eq_ok_iff :
    overrides.set catalog name given = .ok changed ↔
      ∃ value, catalog.Coerces name given value ∧ changed.get? name = some value ∧
        ∀ other, other ≠ name → changed.get? other = overrides.get? other := by
  simp only [set, map_eq_ok_iff, Catalog.accept_eq_ok_iff, NameMap.insert_eq_iff]

theorem set_eq_error_iff :
    overrides.set catalog name given = .error refusal ↔ catalog.Refuses name given refusal := by
  rw [set, map_eq_error_iff, Catalog.accept_eq_error_iff]

end Overrides

end BuildOptions
