import BuildOptions.Text.Blank
import Mathlib.Data.List.DropRight

/-! Blanks put around a text.  Whatever is put there is taken away again, so a text that is trimmed
comes back as it was, and trimming a text once is enough. -/

namespace BuildOptions.Text

/-- There are only blanks. -/
def AllBlank (cs : List Char) : Prop := ∀ c ∈ cs, isBlank c = true

-- The instance is named, since another one would go through all characters.
instance (cs : List Char) : Decidable (AllBlank cs) := List.decidableBAll (isBlank · = true) cs

variable {cs before after : List Char}

theorem AllBlank.notMem {c : Char} (h : AllBlank cs) (hc : isBlank c = false) : c ∉ cs := by
  intro hMem
  rw [h c hMem] at hc
  cases hc

theorem trimStart_blank_append (h : AllBlank before) : trimStart (before ++ cs) = trimStart cs :=
  List.dropWhile_append_of_pos h

theorem trimStart_eq_nil (h : AllBlank cs) : trimStart cs = [] := by
  have hAll : trimStart (cs ++ []) = trimStart [] := trimStart_blank_append h
  rwa [List.append_nil] at hAll

theorem trimChars_blank_append (h : AllBlank before) : trimChars (before ++ cs) = trimChars cs := by
  rw [trimChars, trimStart_blank_append h, trimChars]

theorem trimChars_append_blank (h : AllBlank after) : trimChars (cs ++ after) = trimChars cs := by
  have hStart : trimStart (cs ++ after) =
      if (trimStart cs).isEmpty = true then trimStart after else trimStart cs ++ after :=
    List.dropWhile_append
  rw [trimChars, hStart, trimChars]
  split
  · rename_i hEmpty
    rw [trimStart_eq_nil h, List.isEmpty_iff.mp hEmpty]
  · have hReverse : AllBlank after.reverse := fun c hMem => h c (List.mem_reverse.mp hMem)
    rw [List.reverse_append, trimStart_blank_append hReverse]

theorem trim_eq_self_of_forall {s : String} (h : ∀ c ∈ s.toList, isBlank c = false) :
    trim s = s := by
  have hChars : trimChars s.toList = s.toList :=
    trimChars_eq_self (fun c hc => h c (List.mem_of_head? hc))
      (fun c hc => h c (List.mem_of_getLast? hc))
  rw [trim, hChars, String.ofList_toList]

theorem trimChars_padded {s : String} (h : trim s = s) (hBefore : AllBlank before)
    (hAfter : AllBlank after) : trimChars (before ++ s.toList ++ after) = s.toList := by
  have hChars := congrArg String.toList h
  rw [trim, String.toList_ofList] at hChars
  rw [trimChars_append_blank hAfter, trimChars_blank_append hBefore, hChars]

theorem isBlank_of_head?_trimStart {c : Char} (h : (trimStart cs).head? = some c) :
    isBlank c = false := by
  have hHead := List.head?_dropWhile_not isBlank cs
  rw [← trimStart, h] at hHead
  exact hHead

theorem trimChars_eq_nil_iff : trimChars cs = [] ↔ AllBlank cs := by
  constructor
  · intro h
    rw [trimChars, List.reverse_eq_nil_iff, trimStart, List.dropWhile_eq_nil_iff] at h
    have hNone : trimStart (trimStart cs) = [] :=
      trimStart_eq_nil fun c hMem => h c (List.mem_reverse.mpr hMem)
    rw [trimStart, trimStart, List.dropWhile_idempotent, List.dropWhile_eq_nil_iff] at hNone
    exact hNone
  · intro h
    rw [trimChars, trimStart_eq_nil h]
    rfl

theorem trimChars_trimChars : trimChars (trimChars cs) = trimChars cs := by
  refine trimChars_eq_self (fun c hFirst => ?_) (fun c hLast => ?_)
  · -- What is left is the beginning of the text without the blanks at its start.
    obtain ⟨rest, hRest⟩ : trimChars cs <+: trimStart cs := List.rdropWhile_prefix isBlank _
    have hHead : (trimStart cs).head? = some c := by
      rw [← hRest, List.head?_append, hFirst, Option.some_or]
    exact isBlank_of_head?_trimStart hHead
  · rw [trimChars, List.getLast?_reverse] at hLast
    exact isBlank_of_head?_trimStart hLast

theorem trim_trim (s : String) : trim (trim s) = trim s := by
  rw [trim, trim, String.toList_ofList, trimChars_trimChars]

/-! ### Blanks around a core -/

/-- The characters are the core with blanks on either side of it, or without. -/
def Padded (core cs : List Char) : Prop :=
  ∃ before after, AllBlank before ∧ AllBlank after ∧ cs = before ++ core ++ after

theorem padded_trimChars (cs : List Char) : Padded (trimChars cs) cs := by
  refine ⟨cs.takeWhile isBlank, ((trimStart cs).reverse.takeWhile isBlank).reverse,
    fun c hMem => List.mem_takeWhile_imp hMem,
    fun c hMem => List.mem_takeWhile_imp (List.mem_reverse.mp hMem), ?_⟩
  have hEnd : trimChars cs ++ ((trimStart cs).reverse.takeWhile isBlank).reverse =
      trimStart cs := by
    rw [trimChars, trimStart, ← List.reverse_append, List.takeWhile_append_dropWhile,
      List.reverse_reverse]
  rw [List.append_assoc, hEnd, trimStart, List.takeWhile_append_dropWhile]

theorem trimChars_eq_iff {core : List Char} (h : ∀ c ∈ core, isBlank c = false) :
    trimChars cs = core ↔ Padded core cs := by
  constructor
  · rintro rfl
    exact padded_trimChars cs
  · rintro ⟨before, after, hBefore, hAfter, rfl⟩
    rw [trimChars_append_blank hAfter, trimChars_blank_append hBefore]
    exact trimChars_eq_self (fun c hFirst => h c (List.mem_of_head? hFirst))
      (fun c hLast => h c (List.mem_of_getLast? hLast))

end BuildOptions.Text
