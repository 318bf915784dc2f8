import Mathlib.Data.List.Basic

/-! Written texts that can be told apart whatever follows them: if what is written for a value
begins a text, it begins no other way, and where it ends is certain.  Such texts may be strung
together. -/

namespace BuildOptions.Text

/-- What is written for the value begins no text that begins with what is written for another. -/
def Delimits {α : Type} (write : α → List Char) (x : α) : Prop :=
  ∀ y r s, write x ++ r = write y ++ s → x = y ∧ r = s

variable {α : Type} {write : α → List Char}

theorem delimits_of_read {read : List Char → Option (α × List Char)}
    (h : ∀ x rest, read (write x ++ rest) = some (x, rest)) (x : α) : Delimits write x := by
  intro y r s hSame
  have hRead := congrArg read hSame
  rw [h, h] at hRead
  simpa using hRead

theorem Delimits.eq_of_write_eq {x y : α} (h : Delimits write x) (hSame : write x = write y) :
    x = y :=
  (h y [] [] (by rw [hSame])).1

/-- Writings of one length need no separator. -/
theorem delimits_of_length {length : Nat} (hLength : ∀ x, (write x).length = length)
    (hInj : ∀ x y, write x = write y → x = y) (x : α) : Delimits write x := by
  intro y r s hSame
  obtain ⟨hWrite, hRest⟩ := List.append_inj hSame (by rw [hLength, hLength])
  exact ⟨hInj x y hWrite, hRest⟩

theorem eq_of_flatMap_eq {xs ys : List α} (h : ∀ x ∈ xs, Delimits write x)
    (hLength : xs.length = ys.length) (hSame : xs.flatMap write = ys.flatMap write) : xs = ys := by
  induction xs generalizing ys with
  | nil => exact (List.length_eq_zero_iff.mp hLength.symm).symm
  | cons x xs ih =>
    cases ys with
    | nil => cases hLength
    | cons y ys =>
      rw [List.flatMap_cons, List.flatMap_cons] at hSame
      obtain ⟨rfl, hRest⟩ := h x List.mem_cons_self y _ _ hSame
      rw [ih (fun z hz => h z (List.mem_cons_of_mem _ hz)) (Nat.succ.inj hLength) hRest]

/-! ### Lists with commas -/

theorem toList_commas (first : String) (rest : List String) :
    (",".intercalate (first :: rest)).toList =
      first.toList ++ rest.flatMap fun text => ',' :: text.toList := by
  induction rest generalizing first with
  | nil => simp
  | cons second rest ih =>
    rw [String.intercalate_cons_cons, String.toList_append, String.toList_append, ih,
      List.flatMap_cons]
    simp

variable {close : Char} {r s : List Char}

theorem following_append_inj {xs ys : List α} (h : ∀ x ∈ xs, Delimits write x)
    (hClose : close ≠ ',')
    (hSame : (xs.flatMap fun x => ',' :: write x) ++ close :: r =
      (ys.flatMap fun y => ',' :: write y) ++ close :: s) : xs = ys ∧ r = s := by
  induction xs generalizing ys with
  | nil =>
    cases ys with
    | nil => exact ⟨rfl, by simpa using hSame⟩
    | cons y ys => exact absurd (by simpa using (List.cons.inj hSame).1) hClose
  | cons x xs ih =>
    cases ys with
    | nil => exact absurd (by simpa using (List.cons.inj hSame).1.symm) hClose
    | cons y ys =>
      simp only [List.flatMap_cons, List.cons_append, List.append_assoc, List.cons.injEq,
        true_and] at hSame
      obtain ⟨rfl, hRest⟩ := h x List.mem_cons_self y _ _ hSame
      obtain ⟨rfl, hEnd⟩ := ih (fun z hz => h z (List.mem_cons_of_mem _ hz)) hRest
      exact ⟨rfl, hEnd⟩

/-- A list with commas between its entries ends with the bracket that closes it, if no entry begins
with that bracket. -/
theorem commas_append_inj {write : α → String} {xs ys : List α}
    (h : ∀ x ∈ xs, Delimits (fun x => (write x).toList) x)
    (hStart : ∀ x, ∃ c rest, (write x).toList = c :: rest ∧ c ≠ close) (hClose : close ≠ ',')
    (hSame : (",".intercalate (xs.map write)).toList ++ close :: r =
      (",".intercalate (ys.map write)).toList ++ close :: s) : xs = ys ∧ r = s := by
  cases xs with
  | nil =>
    cases ys with
    | nil => exact ⟨rfl, by simpa using hSame⟩
    | cons y ys =>
      obtain ⟨c, rest, hWrite, hOther⟩ := hStart y
      rw [List.map_cons, toList_commas, hWrite] at hSame
      exact absurd (by simpa using (List.cons.inj hSame).1.symm) hOther
  | cons x xs =>
    cases ys with
    | nil =>
      obtain ⟨c, rest, hWrite, hOther⟩ := hStart x
      rw [List.map_cons, toList_commas, hWrite] at hSame
      exact absurd (by simpa using (List.cons.inj hSame).1) hOther
    | cons y ys =>
      simp only [List.map_cons, toList_commas, List.flatMap_map, List.append_assoc] at hSame
      obtain ⟨rfl, hRest⟩ := h x List.mem_cons_self y _ _ hSame
      obtain ⟨rfl, hEnd⟩ :=
        following_append_inj (fun z hz => h z (List.mem_cons_of_mem _ hz)) hClose hRest
      exact ⟨rfl, hEnd⟩

end BuildOptions.Text
