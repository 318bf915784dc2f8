import BuildOptions.Proofs.Catalog.Console
import BuildOptions.Proofs.Overrides.Assignment
import BuildOptions.Proofs.Overrides.Coercion

/-! What an assignment does, read off its text.  The name ends at the first equals sign, and blanks
around the name and the word do not count.  Without a name nothing is assigned; else the assignment
sets the flag of that name to the word, and does what setting it does. -/

namespace BuildOptions

/-- A switch takes the position that the word is for, a scalar the word itself. -/
def Catalog.TakesWord (catalog : Catalog) (name word : String) (value : FlagValue) : Prop :=
  (catalog.Declares name .switch ∧ ∃ on, Spells word on ∧ value = .switch on) ∨
    (catalog.Declares name .scalar ∧ value = .scalar word)

theorem Catalog.coerces_iff_takesWord {catalog : Catalog} {name word : String} {value : FlagValue}
    (h : Text.trim word = word) :
    catalog.Coerces name (.scalar word) value ↔ catalog.TakesWord name word value := by
  constructor
  · intro hCoerces
    cases hCoerces with
    | word hDeclared hSpells => exact .inl ⟨hDeclared, _, h ▸ hSpells, rfl⟩
    | text _ hDeclared => exact .inr ⟨hDeclared, rfl⟩
  · rintro (⟨hDeclared, on, hSpells, rfl⟩ | ⟨hDeclared, rfl⟩)
    · exact .word hDeclared (h.symm ▸ hSpells)
    · exact .text word hDeclared

namespace Overrides

variable {catalog : Catalog} {overrides result : Overrides} {text name word : String}
  {refusal : OptionError}

/-! ### Names and words -/

/-- The text has no equals sign, or only blanks before its first one. -/
def LacksName (text : String) : Prop :=
  '=' ∉ text.toList ∨
    ∃ before after, text.toList = before ++ '=' :: after ∧ Text.AllBlank before

/-- The name and the word stand before and after the first equals sign of the text, but for the
blanks around them. -/
def Assigns (text name word : String) : Prop :=
  ∃ before after, text.toList = before ++ '=' :: after ∧ '=' ∉ before ∧ ¬Text.AllBlank before ∧
    name = Text.trim (String.ofList before) ∧ word = Text.trim (String.ofList after)

theorem Assigns.trim_word (h : Assigns text name word) : Text.trim word = word := by
  obtain ⟨before, after, -, -, -, -, rfl⟩ := h
  exact Text.trim_trim _

theorem cutAtEquals_eq_none {cs : List Char} (h : '=' ∉ cs) : cutAtEquals cs = none := by
  induction cs with
  | nil => rfl
  | cons c rest ih =>
    rw [List.mem_cons, not_or] at h
    obtain ⟨hChar, hRest⟩ := h
    rw [cutAtEquals, ih hRest, Option.map_none]
    exact fun hc => hChar hc.symm

theorem LacksName.readAssignment_eq (h : LacksName text) :
    readAssignment text = .error (.malformedAssignment text) := by
  rcases h with hNone | ⟨before, after, hText, hBlank⟩
  · rw [readAssignment, cutAtEquals_eq_none hNone]
  · have hEquals : '=' ∉ before := hBlank.notMem (by decide)
    simp only [readAssignment, hText, cutAtEquals_append hEquals,
      Text.trimChars_eq_nil_iff.mpr hBlank]

theorem Assigns.readAssignment_eq (h : Assigns text name word) :
    readAssignment text = .ok (name, word) := by
  obtain ⟨before, after, hText, hEquals, hName, rfl, rfl⟩ := h
  have hSome : Text.trimChars before ≠ [] := fun hNil => hName (Text.trimChars_eq_nil_iff.mp hNil)
  rw [BuildOptions.Overrides.readAssignment_eq hText hEquals hSome, Text.trim, Text.trim,
    String.toList_ofList, String.toList_ofList]

theorem exists_assigns_of_not_lacksName (h : ¬LacksName text) :
    ∃ name word, Assigns text name word := by
  rw [LacksName, not_or, not_not] at h
  obtain ⟨hMem, hName⟩ := h
  obtain ⟨before, after, hText, hEquals⟩ := List.eq_append_cons_of_mem hMem
  exact ⟨_, _, before, after, hText, hEquals, fun hBlank => hName ⟨before, after, hText, hBlank⟩,
    rfl, rfl⟩

theorem readAssignment_eq_ok_iff :
    readAssignment text = .ok (name, word) ↔ Assigns text name word := by
  refine ⟨fun h => ?_, Assigns.readAssignment_eq⟩
  by_cases hLacks : LacksName text
  · rw [hLacks.readAssignment_eq] at h
    cases h
  · obtain ⟨found, given, hAssigns⟩ := exists_assigns_of_not_lacksName hLacks
    rw [hAssigns.readAssignment_eq] at h
    cases h
    exact hAssigns

theorem Assigns.unique {otherName otherWord : String} (h : Assigns text name word)
    (hOther : Assigns text otherName otherWord) : name = otherName ∧ word = otherWord := by
  have hRead := h.readAssignment_eq.symm.trans hOther.readAssignment_eq
  cases hRead
  exact ⟨rfl, rfl⟩

/-! ### What an assignment leads to -/

theorem LacksName.assign_eq (h : LacksName text) :
    overrides.assign catalog text = .error (.malformedAssignment text) := by
  rw [assign, h.readAssignment_eq]
  rfl

theorem Assigns.assign_eq (h : Assigns text name word) :
    overrides.assign catalog text = overrides.set catalog name (.scalar word) := by
  rw [assign, h.readAssignment_eq]
  rfl

theorem assign_eq_malformed_iff {quoted : String} :
    overrides.assign catalog text = .error (.malformedAssignment quoted) ↔
      quoted = text ∧ LacksName text := by
  constructor
  · intro h
    by_cases hLacks : LacksName text
    · rw [hLacks.assign_eq] at h
      cases h
      exact ⟨rfl, hLacks⟩
    · obtain ⟨name, word, hAssigns⟩ := exists_assigns_of_not_lacksName hLacks
      rw [hAssigns.assign_eq, set_eq_error_iff] at h
      cases h
  · rintro ⟨rfl, hLacks⟩
    exact hLacks.assign_eq

theorem Assigns.assign_eq_unknown_iff (h : Assigns text name word) {quoted : String} :
    overrides.assign catalog text = .error (.unknownFlag quoted) ↔
      quoted = name ∧ ∀ kind, ¬catalog.Declares name kind := by
  rw [h.assign_eq, set_eq_error_iff]
  constructor
  · intro hRefuses
    cases hRefuses with
    | unknown _ hUnknown => exact ⟨rfl, hUnknown⟩
  · rintro ⟨rfl, hUnknown⟩
    exact .unknown _ hUnknown

theorem Assigns.assign_eq_wrongKind_iff (h : Assigns text name word) {quoted found : String}
    {kind : FlagKind} :
    overrides.assign catalog text = .error (.wrongKind quoted kind found) ↔
      (quoted = name ∧ kind = .switch ∧ found = word) ∧
        catalog.Declares name .switch ∧ ∀ on, ¬Spells word on := by
  rw [h.assign_eq, set_eq_error_iff]
  constructor
  · intro hRefuses
    cases hRefuses with
    | noPosition hDeclared hWord =>
      rw [h.trim_word] at hWord
      exact ⟨⟨rfl, rfl, rfl⟩, hDeclared, hWord⟩
  · rintro ⟨⟨rfl, rfl, rfl⟩, hDeclared, hWord⟩
    rw [← h.trim_word] at hWord
    exact .noPosition hDeclared hWord

theorem Assigns.assign_eq_ok_iff (h : Assigns text name word) :
    overrides.assign catalog text = .ok result ↔
      ∃ value, catalog.TakesWord name word value ∧ result.get? name = some value ∧
        ∀ other, other ≠ name → result.get? other = overrides.get? other := by
  simp only [h.assign_eq, set_eq_ok_iff, Catalog.coerces_iff_takesWord h.trim_word]

end Overrides

namespace Catalog

/-- An assignment is malformed, and then quoted as it is, exactly if there is nothing but blanks
before its first equals sign or it has none.  Else, with the name before that sign and the word
after it, the name is unknown exactly if no flag has it, the word is refused exactly if the flag is
a switch and the word is not one for a position, and otherwise the flag gets the position or the
word and all other flags keep what they had.  So the assignment that is written for a name which is
not empty and a value of its kind, with any blanks around the two, does what setting the value
does. -/
theorem assignment_outcome (catalog : Catalog) (overrides : Overrides) :
    (∀ text quoted, overrides.assign catalog text = .error (.malformedAssignment quoted) ↔
      quoted = text ∧ Overrides.LacksName text) ∧
    (∀ text, ¬Overrides.LacksName text → ∃ name word, Overrides.Assigns text name word ∧
      (∀ quoted, overrides.assign catalog text = .error (.unknownFlag quoted) ↔
        quoted = name ∧ ∀ kind, ¬catalog.Declares name kind) ∧
      (∀ quoted kind found, overrides.assign catalog text = .error (.wrongKind quoted kind found) ↔
        (quoted = name ∧ kind = .switch ∧ found = word) ∧
          catalog.Declares name .switch ∧ ∀ on, ¬Spells word on) ∧
      ∀ result, overrides.assign catalog text = .ok result ↔
        ∃ value, catalog.TakesWord name word value ∧ result.get? name = some value ∧
          ∀ other, other ≠ name → result.get? other = overrides.get? other) ∧
    ∀ name value, catalog.Takes name value → name ≠ "" → '=' ∉ name.toList →
      Text.trim name = name → (∀ text, value = .scalar text → Text.trim text = text) →
      ∀ b₁ b₂ b₃ b₄, Text.AllBlank b₁ → Text.AllBlank b₂ → Text.AllBlank b₃ → Text.AllBlank b₄ →
        ∀ text, text.toList =
            (b₁ ++ name.toList ++ b₂) ++ '=' :: (b₃ ++ value.render.toList ++ b₄) →
          overrides.assign catalog text = overrides.set catalog name value := by
  refine ⟨fun text quoted => Overrides.assign_eq_malformed_iff, fun text hName => ?_, ?_⟩
  · obtain ⟨name, word, hAssigns⟩ := Overrides.exists_assigns_of_not_lacksName hName
    exact ⟨name, word, hAssigns, fun quoted => hAssigns.assign_eq_unknown_iff,
      fun quoted kind found => hAssigns.assign_eq_wrongKind_iff,
      fun result => hAssigns.assign_eq_ok_iff⟩
  · intro name value hTakes hNonempty hEquals hTrimmed hText b₁ b₂ b₃ b₄ h₁ h₂ h₃ h₄ text hWritten
    have hRender : Text.trim value.render = value.render := by
      cases value with
      | switch on => cases on <;> decide
      | scalar text => exact hText text rfl
    have hRead : Overrides.readAssignment text = .ok (name, value.render) :=
      Overrides.readAssignment_padded ⟨hNonempty, hEquals, hTrimmed⟩ hRender h₁ h₂ h₃ h₄ hWritten
    rw [(Overrides.readAssignment_eq_ok_iff.mp hRead).assign_eq, Overrides.set, Overrides.set,
      hTakes.accept_render, hTakes.accept]

/-- The name and the word end where blanks begin, and the word has an equals sign of its own. -/
def paddedAssignment : String := "\u00A0with_shell\t=\u3000maybe=1\n"

/-- Nothing stands before the sign, the word is no position, and a size is written with blanks. -/
theorem assignment_outcome_paddedAssignment :
    (Overrides.LacksName " =on" ∧
      Overrides.assign console ∅ " =on" = .error (.malformedAssignment " =on")) ∧
    (¬Overrides.LacksName paddedAssignment ∧ Overrides.assign console ∅ paddedAssignment =
      .error (.wrongKind "with_shell" .switch "maybe=1")) ∧
    (console.Takes "log_size" (.scalar "1 = 2") ∧ "log_size" ≠ "" ∧ '=' ∉ "log_size".toList ∧
      Text.trim "log_size" = "log_size" ∧ Text.trim "1 = 2" = "1 = 2" ∧ Text.AllBlank ['\t'] ∧
      Overrides.assign console ∅ "log_size\t=\t1 = 2" =
        Overrides.set console ∅ "log_size" (.scalar "1 = 2")) := by
  obtain ⟨hMalformed, hNamed, hWritten⟩ := assignment_outcome console ∅
  have hLacks : Overrides.LacksName " =on" := .inr ⟨[' '], "on".toList, rfl, by decide⟩
  have hRead : Overrides.readAssignment paddedAssignment = .ok ("with_shell", "maybe=1") := by
    decide +kernel
  have hNotLacks : ¬Overrides.LacksName paddedAssignment := by
    intro h
    rw [h.readAssignment_eq] at hRead
    cases hRead
  have hRefused : Overrides.assign console ∅ paddedAssignment =
      .error (.wrongKind "with_shell" .switch "maybe=1") := by
    obtain ⟨name, word, hAssigns, -, hWrongKind, -⟩ := hNamed paddedAssignment hNotLacks
    rw [hAssigns.readAssignment_eq] at hRead
    cases hRead
    refine (hWrongKind _ _ _).mpr ⟨⟨rfl, rfl, rfl⟩, by decide, fun on hSpells => ?_⟩
    rw [spells_iff] at hSpells
    revert on
    decide
  have hTakes : console.Takes "log_size" (.scalar "1 = 2") := by
    exact ⟨⟨"log_size", .scalar "8" .positiveInteger⟩, by decide, rfl, rfl⟩
  have hTrim : Text.trim "log_size" = "log_size" := by decide
  have hText : Text.trim "1 = 2" = "1 = 2" := by decide
  have hTab : Text.AllBlank ['\t'] := by decide
  have hNone : Text.AllBlank [] := by decide
  refine ⟨⟨hLacks, (hMalformed _ _).mpr ⟨rfl, hLacks⟩⟩, ⟨hNotLacks, hRefused⟩,
    hTakes, by decide, by decide, hTrim, hText, hTab, ?_⟩
  have hTexts : ∀ text, FlagValue.scalar "1 = 2" = .scalar text → Text.trim text = text := by
    rintro text ⟨⟩
    exact hText
  exact hWritten _ _ hTakes (by decide) (by decide) hTrim hTexts [] ['\t'] ['\t'] []
    hNone hTab hTab hNone _ (by decide)

/-- The catalog of one switch, which has the empty name. -/
def nameless : Catalog where
  flags := [⟨"", .switch false⟩]
  rules := []
  constraints := []
  requirements := []
  exclusions := []
  umbrella := none
  featureStem := ""
  consistent := by decide

/-- A flag with the empty name can be set, but what is written for it lacks a name. -/
theorem emptyName_not_assignable :
    nameless.Takes "" (.switch true) ∧ '=' ∉ "".toList ∧ Text.trim "" = "" ∧
      Overrides.assign nameless ∅ ("" ++ "=" ++ (FlagValue.switch true).render) ≠
        Overrides.set nameless ∅ "" (.switch true) := by
  refine ⟨⟨⟨"", .switch false⟩, by decide, rfl, rfl⟩, by decide, by decide, by decide +kernel⟩

end Catalog

end BuildOptions
