import BuildOptions.Proofs.Text.Blank
import BuildOptions.Text.Decimal

/-! Decimal numerals of any length and the numbers that they denote.  A numeral denotes a positive
number exactly if one of its digits is not zero, and of all numerals for a number the one that is
written for it is the one without zeros at the start. -/

namespace BuildOptions.Text

/-- The digits denote the number in base ten, whatever zeros are at the start. -/
inductive Denotes : List Char → Nat → Prop where
  | digit {d : Nat} (hDigit : d < 10) : Denotes [Nat.digitChar d] d
  | snoc {digits : List Char} {n d : Nat} (hDigits : Denotes digits n) (hDigit : d < 10) :
      Denotes (digits ++ [Nat.digitChar d]) (10 * n + d)

variable {digits : List Char} {n : Nat}

theorem exists_digitChar_of_isDigit {c : Char} (h : c.isDigit = true) :
    ∃ d < 10, Nat.digitChar d = c := by
  rw [Char.isDigit_iff_toNat] at h
  change 48 ≤ c.toNat ∧ c.toNat ≤ 57 at h
  refine ⟨c.toNat - 48, by omega, ?_⟩
  apply Char.toNat_inj.mp
  rw [Nat.toNat_digitChar_of_lt_ten (by omega)]
  omega

theorem isBlank_of_isDigit {c : Char} (h : c.isDigit = true) : isBlank c = false := by
  obtain ⟨d, hd, rfl⟩ := exists_digitChar_of_isDigit h
  revert d
  decide

/-! ### What digits denote -/

namespace Denotes

theorem ne_nil (h : Denotes digits n) : digits ≠ [] := by
  cases h <;> simp

theorem isDigit (h : Denotes digits n) : ∀ c ∈ digits, c.isDigit = true := by
  induction h with
  | digit hDigit => simpa [Nat.isDigit_digitChar] using hDigit
  | snoc _ hDigit ih =>
    intro c hMem
    rcases List.mem_append.mp hMem with hMem | hMem
    · exact ih c hMem
    · obtain rfl := List.mem_singleton.mp hMem
      simpa [Nat.isDigit_digitChar] using hDigit

theorem isBlank_eq_false (h : Denotes digits n) : ∀ c ∈ digits, isBlank c = false :=
  fun c hMem => isBlank_of_isDigit (h.isDigit c hMem)

theorem decimalValue_eq (h : Denotes digits n) : decimalValue digits = n := by
  induction h with
  | digit hDigit =>
    rw [decimalValue, Nat.ofDigitChars_cons_digitChar_of_lt_ten hDigit, Nat.ofDigitChars_nil]
    omega
  | snoc _ hDigit ih =>
    rw [decimalValue] at ih ⊢
    rw [Nat.ofDigitChars_append, ih, Nat.ofDigitChars_cons_digitChar_of_lt_ten hDigit,
      Nat.ofDigitChars_nil]

theorem pos_iff (h : Denotes digits n) : 0 < n ↔ ∃ c ∈ digits, c ≠ '0' := by
  induction h with
  | digit hDigit => simp [Nat.digitChar_eq_zero]; omega
  | @snoc digits n d _ hDigit ih =>
    simp only [List.mem_append, List.mem_singleton, or_and_right, exists_or, ← ih, exists_eq_left,
      ne_eq, Nat.digitChar_eq_zero]
    omega

end Denotes

theorem denotes_decimalValue (hSome : digits ≠ []) (hDigits : ∀ c ∈ digits, c.isDigit = true) :
    Denotes digits (decimalValue digits) := by
  induction digits using List.reverseRecOn with
  | nil => exact absurd rfl hSome
  | append_singleton digits c ih =>
    simp only [List.mem_append, List.mem_singleton, or_imp, forall_and, forall_eq] at hDigits
    obtain ⟨d, hd, rfl⟩ := exists_digitChar_of_isDigit hDigits.2
    have hLast : Denotes (digits ++ [Nat.digitChar d]) (10 * decimalValue digits + d) := by
      by_cases hNil : digits = []
      · subst hNil
        simpa [decimalValue] using Denotes.digit hd
      · exact (ih hNil hDigits.1).snoc hd
    rwa [hLast.decimalValue_eq]

theorem denotes_decimal (n : Nat) : Denotes (decimal n).toList n := by
  have hSome : (decimal n).toList ≠ [] := by
    rw [decimal, String.toList_ofList, Nat.toDigits_eq_if (by decide)]
    split <;> simp
  have hDigits : ∀ c ∈ (decimal n).toList, c.isDigit = true := by
    intro c hMem
    rw [decimal, String.toList_ofList] at hMem
    exact Nat.isDigit_of_mem_toDigits (by decide) (by decide) hMem
  have hDenotes := denotes_decimalValue hSome hDigits
  rwa [decimalValue_decimal] at hDenotes

/-! ### The shortest numeral -/

/-- The digits are the numeral of the number that starts with a zero only if that is all of it. -/
structure IsNumeral (digits : List Char) (n : Nat) : Prop where
  denotes : Denotes digits n
  noLeadingZero : digits.head? = some '0' → digits = ['0']

theorem isNumeral_decimal (n : Nat) : IsNumeral (decimal n).toList n := by
  refine ⟨denotes_decimal n, ?_⟩
  induction n using Nat.strong_induction_on with
  | _ n ih =>
    have hStep : (decimal n).toList = if n < 10 then [Nat.digitChar n]
        else (decimal (n / 10)).toList ++ [Nat.digitChar (n % 10)] := by
      simp only [decimal, String.toList_ofList]
      rw [Nat.toDigits_eq_if (by decide)]
    rw [hStep]
    split
    · simp
    · intro hZero
      -- The digits before the last one would be a single zero, but their number is not zero.
      have hTens := denotes_decimal (n / 10)
      rw [List.head?_append_of_ne_nil _ hTens.ne_nil] at hZero
      have hNone : n / 10 = 0 := by
        rw [← hTens.decimalValue_eq, ih (n / 10) (by omega) hZero]
        rfl
      omega

end BuildOptions.Text
