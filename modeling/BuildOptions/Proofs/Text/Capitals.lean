import BuildOptions.Text.Blank
import Mathlib.Data.List.Forall2

/-! Texts in capitals.  A text that has no capitals of its own can be got back from its capitals, so
texts without capitals that differ still differ in capitals.  Two texts are the same in small
letters exactly if nothing but capitals tells them apart. -/

namespace BuildOptions.Text

/-- No character is a capital letter. -/
def NoCapitals (s : String) : Prop := ∀ c ∈ s.toList, c.isUpper = false

variable {s t : String}

/-! ### Letters by their code points -/

theorem isUpper_iff_val {c : Char} : c.isUpper = true ↔ c.val ≥ 'A'.val ∧ c.val ≤ 'Z'.val := by
  unfold Char.isUpper
  rw [decide_eq_true_eq]

theorem isLower_iff_val {c : Char} : c.isLower = true ↔ 'a'.val ≤ c.val ∧ c.val ≤ 'z'.val := by
  unfold Char.isLower
  rw [Bool.and_eq_true, decide_eq_true_eq, decide_eq_true_eq, ge_iff_le]

theorem isUpper_iff {c : Char} : c.isUpper = true ↔ 65 ≤ c.toNat ∧ c.toNat ≤ 90 := by
  rw [isUpper_iff_val, ge_iff_le, UInt32.le_iff_toNat_le, UInt32.le_iff_toNat_le]
  rfl

theorem isLower_iff {c : Char} : c.isLower = true ↔ 97 ≤ c.toNat ∧ c.toNat ≤ 122 := by
  rw [isLower_iff_val, UInt32.le_iff_toNat_le, UInt32.le_iff_toNat_le]
  rfl

theorem toNat_toLower (c : Char) :
    c.toLower.toNat = if c.isUpper then c.toNat + 32 else c.toNat := by
  unfold Char.toLower
  split
  next hCapital =>
    have hUpper := isUpper_iff_val.mpr hCapital
    have hRange := isUpper_iff.mp hUpper
    change (c.val + ('a'.val - 'A'.val)).toNat = _
    rw [if_pos hUpper, UInt32.toNat_add, Char.toNat_val]
    change (c.toNat + 32) % 4294967296 = c.toNat + 32
    omega
  next hOther =>
    rw [if_neg (mt isUpper_iff_val.mp hOther)]

theorem toNat_toUpper (c : Char) :
    c.toUpper.toNat = if c.isLower then c.toNat - 32 else c.toNat := by
  unfold Char.toUpper
  split
  next hSmall =>
    have hLower := isLower_iff_val.mpr hSmall
    have hRange := isLower_iff.mp hLower
    change (c.val + ('A'.val - 'a'.val)).toNat = _
    rw [if_pos hLower, UInt32.toNat_add, Char.toNat_val]
    -- `A` comes before `a`, so the distance is taken away modulo the width of a code point.
    change (c.toNat + 4294967264) % 4294967296 = c.toNat - 32
    omega
  next hOther =>
    rw [if_neg (mt isLower_iff_val.mp hOther)]

theorem toLower_toUpper {c : Char} (h : c.isUpper = false) : c.toUpper.toLower = c := by
  have hUpper := isUpper_iff (c := c)
  have hCapital := isUpper_iff (c := c.toUpper)
  have hLower := isLower_iff (c := c)
  rw [toNat_toUpper] at hCapital
  rw [← Char.toNat_inj, toNat_toLower, toNat_toUpper]
  grind

/-- A character whose capital is no letter is its own capital. -/
theorem toUpper_eq_self {c : Char} (h : c.toUpper.isAlpha = false) : c.toUpper = c := by
  have hCapital := isUpper_iff (c := c.toUpper)
  have hLower := isLower_iff (c := c)
  unfold Char.isAlpha at h
  rw [toNat_toUpper] at hCapital
  rw [← Char.toNat_inj, toNat_toUpper]
  grind

/-! ### Small letters back from capitals -/

theorem lower_upper (h : NoCapitals s) : lower (upper s) = s := by
  have hChars : s.toList.map (Char.toLower ∘ Char.toUpper) = s.toList :=
    (List.map_congr_left fun c hMem => toLower_toUpper (h c hMem)).trans (List.map_id _)
  rw [upper, lower, String.toList_ofList, List.map_map, hChars, String.ofList_toList]

theorem upper_inj (hs : NoCapitals s) (ht : NoCapitals t) (h : upper s = upper t) : s = t := by
  rw [← lower_upper hs, h, lower_upper ht]

/-- Capitals bring no character along that is not a letter. -/
theorem notMem_upper {c : Char} (hLetter : c.isAlpha = false) (h : c ∉ s.toList) :
    c ∉ (upper s).toList := by
  rw [upper, String.toList_ofList, List.mem_map]
  rintro ⟨d, hMem, rfl⟩
  rw [toUpper_eq_self hLetter] at h
  exact h hMem

/-! ### Texts that differ in capitals only -/

/-- The characters are the same, or one is the capital of the other. -/
def SameLetter (c d : Char) : Prop :=
  c = d ∨ (c.isUpper = true ∧ d.toNat = c.toNat + 32) ∨ (d.isUpper = true ∧ c.toNat = d.toNat + 32)

/-- The texts are the same but for letters `A` to `Z` in the place of `a` to `z`. -/
def SameLetters (s t : String) : Prop := List.Forall₂ SameLetter s.toList t.toList

theorem toLower_eq_toLower_iff {c d : Char} : c.toLower = d.toLower ↔ SameLetter c d := by
  have hc := isUpper_iff (c := c)
  have hd := isUpper_iff (c := d)
  rw [SameLetter, ← Char.toNat_inj, ← Char.toNat_inj, toNat_toLower, toNat_toLower]
  split <;> split <;> grind

theorem lower_eq_lower_iff : lower s = lower t ↔ SameLetters s t := by
  rw [lower, lower, String.ofList_inj, ← List.forall₂_eq_eq_eq, List.forall₂_map_left_iff,
    List.forall₂_map_right_iff]
  simp only [toLower_eq_toLower_iff, SameLetters]

end BuildOptions.Text
