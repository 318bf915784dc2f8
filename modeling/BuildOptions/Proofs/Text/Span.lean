import Mathlib.Data.List.TakeWhile

/-! The longest beginning of a text whose characters are all of one kind, and where it ends. -/

namespace BuildOptions.Text

variable {p : Char → Bool} {cs rest : List Char}

/-- No character that satisfies `p` comes next. -/
def Stops (p : Char → Bool) (rest : List Char) : Prop := ∀ c, rest.head? = some c → p c = false

theorem exists_span (p : Char → Bool) (cs : List Char) :
    ∃ taken rest, (∀ c ∈ taken, p c = true) ∧ Stops p rest ∧ cs = taken ++ rest := by
  refine ⟨cs.takeWhile p, cs.dropWhile p, fun c hMem => List.mem_takeWhile_imp hMem,
    fun c hHead => ?_, List.takeWhile_append_dropWhile.symm⟩
  have hNot := List.head?_dropWhile_not p cs
  rw [hHead] at hNot
  exact hNot

theorem Stops.takeWhile_append (hRest : Stops p rest) (hAll : ∀ c ∈ cs, p c = true) :
    (cs ++ rest).takeWhile p = cs := by
  rw [List.takeWhile_append_of_pos hAll]
  cases rest with
  | nil => simp
  | cons c rest => simp [hRest c rfl]

theorem Stops.dropWhile_append (hRest : Stops p rest) (hAll : ∀ c ∈ cs, p c = true) :
    (cs ++ rest).dropWhile p = rest := by
  rw [List.dropWhile_append_of_pos hAll]
  cases rest with
  | nil => simp
  | cons c rest => simp [hRest c rfl]

end BuildOptions.Text
