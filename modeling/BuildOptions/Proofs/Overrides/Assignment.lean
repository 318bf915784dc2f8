import BuildOptions.Catalog.Celix
import BuildOptions.Proofs.Overrides.Typing
import BuildOptions.Proofs.Text.Blank
import BuildOptions.Proofs.Text.Bytes

/-! Assignments that are written for a name and a value.  Blanks around the equals sign do not
matter, and the text of a value that the flag takes is read as that value.  The names of the
product's flags stand in assignments as they are. -/

namespace BuildOptions

theorem readSwitch_render (on : Bool) : readSwitch (FlagValue.switch on).render = some on := by
  cases on <;> decide

namespace Overrides

/-- The name stands in an assignment as it is: it is not empty, it has no equals sign, and it is not
blank at either end. -/
def IsAssignable (name : String) : Prop :=
  name ≠ "" ∧ '=' ∉ name.toList ∧ Text.trim name = name

instance (name : String) : Decidable (IsAssignable name) :=
  inferInstanceAs (Decidable (_ ∧ _ ∧ _))

theorem cutAtEquals_append {before : List Char} (h : '=' ∉ before) (after : List Char) :
    cutAtEquals (before ++ '=' :: after) = some (before, after) := by
  induction before with
  | nil => rfl
  | cons c rest ih =>
    rw [List.mem_cons, not_or] at h
    obtain ⟨hChar, hRest⟩ := h
    rw [List.cons_append, cutAtEquals, ih hRest]
    · rfl
    · exact fun hc => hChar hc.symm

theorem readAssignment_eq {text : String} {before after : List Char}
    (hText : text.toList = before ++ '=' :: after) (hEquals : '=' ∉ before)
    (hName : Text.trimChars before ≠ []) :
    readAssignment text =
      .ok (String.ofList (Text.trimChars before), String.ofList (Text.trimChars after)) := by
  rw [readAssignment, hText, cutAtEquals_append hEquals]
  cases hTrim : Text.trimChars before with
  | nil => exact absurd hTrim hName
  | cons c rest => simp only [hTrim]

/-- Blanks around the name and the value of an assignment are part of neither. -/
theorem readAssignment_padded {text name value : String} {b₁ b₂ b₃ b₄ : List Char}
    (hName : IsAssignable name) (hValue : Text.trim value = value) (h₁ : Text.AllBlank b₁)
    (h₂ : Text.AllBlank b₂) (h₃ : Text.AllBlank b₃) (h₄ : Text.AllBlank b₄)
    (hText : text.toList = (b₁ ++ name.toList ++ b₂) ++ '=' :: (b₃ ++ value.toList ++ b₄)) :
    readAssignment text = .ok (name, value) := by
  obtain ⟨hNonempty, hEquals, hTrimmed⟩ := hName
  have hBefore : Text.trimChars (b₁ ++ name.toList ++ b₂) = name.toList :=
    Text.trimChars_padded hTrimmed h₁ h₂
  have hAfter : Text.trimChars (b₃ ++ value.toList ++ b₄) = value.toList :=
    Text.trimChars_padded hValue h₃ h₄
  have hFree : '=' ∉ b₁ ++ name.toList ++ b₂ := by
    have hBlank : Text.isBlank '=' = false := by decide
    simp only [List.mem_append, not_or]
    exact ⟨⟨h₁.notMem hBlank, hEquals⟩, h₂.notMem hBlank⟩
  have hSome : Text.trimChars (b₁ ++ name.toList ++ b₂) ≠ [] := by
    rw [hBefore]
    exact fun hNil => hNonempty (String.toList_eq_nil_iff.mp hNil)
  rw [readAssignment_eq hText hFree hSome, hBefore, hAfter, String.ofList_toList,
    String.ofList_toList]

end Overrides

namespace Catalog

variable {catalog : Catalog} {name : String} {value : FlagValue}

theorem Takes.accept_render (h : catalog.Takes name value) :
    catalog.accept name (.scalar value.render) = .ok value := by
  obtain ⟨flag, hFlag, rfl, hKind⟩ := h
  rw [accept_name hFlag]
  unfold Flag.coerce
  rw [← hKind]
  cases value with
  | switch on => simp only [FlagValue.kind, readSwitch_render]
  | scalar text => rfl

/-- The assignment that is written for a name and a value that the flag takes. -/
theorem Takes.assign_render (h : catalog.Takes name value) (hName : Overrides.IsAssignable name)
    (hValue : Text.trim value.render = value.render) (overrides : Overrides) :
    overrides.assign catalog (name ++ " = " ++ value.render) =
      .ok (overrides.insert name value) := by
  have hSpace : Text.AllBlank [' '] := by decide
  have hNone : Text.AllBlank [] := by decide
  have hRead : Overrides.readAssignment (name ++ " = " ++ value.render) =
      .ok (name, value.render) := by
    refine Overrides.readAssignment_padded hName hValue hNone hSpace hSpace hNone ?_
    simp
  have hSet : overrides.set catalog name (.scalar value.render) =
      .ok (overrides.insert name value) := by
    rw [Overrides.set, h.accept_render]
    rfl
  rw [Overrides.assign, hRead]
  exact hSet

/-! ### Names of the product -/

theorem solidNames_celix :
    ∀ flag ∈ celix.flags, ∀ c ∈ flag.name.toList, c ≠ '=' ∧ Text.isBlank c = false := by
  have hBytes : ∀ flag ∈ celix.flags, (flag.name.toByteArray.data.toList.all fun b =>
      b.toNat ≤ 127 &&
        (Char.ofNat b.toNat != '=' && !Text.isBlank (Char.ofNat b.toNat))) = true := by decide
  intro flag hFlag c hChar
  have hSolid : (c != '=' && !Text.isBlank c) = true :=
    Text.forall_char_of_all_bytes (p := fun c => c != '=' && !Text.isBlank c) (hBytes flag hFlag) c
      hChar
  rwa [Bool.and_eq_true, bne_iff_ne, Bool.not_eq_true'] at hSolid

theorem isAssignable_celix {flag : Flag} (hFlag : flag ∈ celix.flags) :
    Overrides.IsAssignable flag.name := by
  have hNonempty : ∀ flag ∈ celix.flags, flag.name ≠ "" := by decide
  have hSolid := solidNames_celix flag hFlag
  have hEquals : '=' ∉ flag.name.toList := fun hMem => (hSolid _ hMem).1 rfl
  exact ⟨hNonempty flag hFlag, hEquals, Text.trim_eq_self_of_forall fun c hMem => (hSolid c hMem).2⟩

end Catalog

end BuildOptions
