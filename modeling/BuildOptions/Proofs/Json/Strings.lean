import BuildOptions.Json.Printer
import BuildOptions.Json.Reader
import BuildOptions.Proofs.Text.Delimited

/-! A JSON string is read back as the text that it was written for, whatever follows its closing
quote. -/

namespace BuildOptions.Json

/-! ### Hexadecimal digits -/

theorem hexValue?_hexDigit {n : Nat} (h : n < 16) : hexValue? (hexDigit n) = some n := by
  have hAll : ∀ n < 16, hexValue? (hexDigit n) = some n := by decide
  exact hAll n h

theorem readCodePoint_control {c : Char} (h : c.toNat < 0x20) (rest : List Char) :
    readCodePoint ('0' :: '0' :: hexDigit (c.toNat / 16) :: hexDigit (c.toNat % 16) :: rest) =
      some (c, rest) := by
  have hZero : hexValue? '0' = some 0 := by decide
  have hHigh : hexValue? (hexDigit (c.toNat / 16)) = some (c.toNat / 16) :=
    hexValue?_hexDigit (by omega)
  have hLow : hexValue? (hexDigit (c.toNat % 16)) = some (c.toNat % 16) :=
    hexValue?_hexDigit (by omega)
  have hUnit : ((0 * 16 + 0) * 16 + c.toNat / 16) * 16 + c.toNat % 16 = c.toNat := by omega
  have hWhole : isLowHalf c.toNat = false ∧ isHighHalf c.toNat = false := by
    simp only [isLowHalf, isHighHalf, Bool.and_eq_false_iff, decide_eq_false_iff_not]
    omega
  simp only [readCodePoint, readUnit, hZero, hHigh, hLow, Option.bind_eq_bind, Option.bind_some,
    hUnit, hWhole]
  simp

/-! ### One character -/

theorem readChars_quote (rest : List Char) : readChars ('"' :: rest) = some ([], rest) := by
  rw [readChars]
  simp

theorem readChars_raw {c : Char} (rest : List Char) (hQuote : c ≠ '"') (hBackslash : c ≠ '\\')
    (hControl : ¬c.toNat < 0x20) :
    readChars (c :: rest) = (readChars rest).map fun r => (c :: r.1, r.2) := by
  rw [readChars]
  simp [hQuote, hBackslash, hControl]

theorem readChars_backslash {c : Char} {rest after : List Char}
    (h : readEscape rest = some (c, after)) :
    readChars ('\\' :: rest) = (readChars after).map fun r => (c :: r.1, r.2) := by
  rw [readChars]
  simp only [show '\\' ≠ '"' by decide, if_false, if_true]
  split
  · rename_i e found hFound
    rw [h] at hFound
    cases hFound
    rfl
  · rename_i hNone
    rw [h] at hNone
    cases hNone

theorem readEscape_short {letter c : Char} (rest : List Char) (h : shortEscape? letter = some c) :
    readEscape (letter :: rest) = some (c, rest) := by
  simp [readEscape, h]

theorem readEscape_control {c : Char} (rest : List Char) (h : c.toNat < 0x20) :
    readEscape
        ('u' :: '0' :: '0' :: hexDigit (c.toNat / 16) :: hexDigit (c.toNat % 16) :: rest) =
      some (c, rest) := by
  have hLetter : shortEscape? 'u' = none := by decide
  simp only [readEscape, hLetter, if_true]
  exact readCodePoint_control h rest

/-- What stands for a character is read as that character. -/
theorem readChars_escapeChar (c : Char) (rest : List Char) :
    readChars (escapeChar c ++ rest) = (readChars rest).map fun r => (c :: r.1, r.2) := by
  fun_cases escapeChar c with
  | case8 _ _ _ _ _ _ _ hControl => exact readChars_backslash (readEscape_control rest hControl)
  | case9 hQuote hBackslash _ _ _ _ _ hControl =>
    exact readChars_raw rest hQuote hBackslash hControl
  -- The other characters have escapes of one letter.
  | _ =>
    subst_vars
    exact readChars_backslash (readEscape_short rest (by decide))

/-! ### Strings -/

theorem readChars_escape (cs rest : List Char) :
    readChars (escape cs ++ '"' :: rest) = some (cs, rest) := by
  induction cs with
  | nil => exact readChars_quote rest
  | cons c cs ih =>
    have hSplit : escape (c :: cs) ++ '"' :: rest = escapeChar c ++ (escape cs ++ '"' :: rest) := by
      simp [escape]
    rw [hSplit, readChars_escapeChar, ih, Option.map_some]

theorem toList_quote (text : String) :
    (quote text).toList = '"' :: (escape text.toList ++ ['"']) := by
  rw [quote, String.toList_ofList]

/-- A written string is read back, and nothing after it is. -/
theorem readString_quote (text : String) (rest : List Char) :
    readString ((quote text).toList ++ rest) = some (text, rest) := by
  have hSplit : (quote text).toList ++ rest = '"' :: (escape text.toList ++ '"' :: rest) := by
    simp [toList_quote]
  rw [hSplit, readString, readChars_escape, Option.map_some, String.ofList_toList]

theorem delimits_quote (text : String) :
    Text.Delimits (fun text => (quote text).toList) text :=
  Text.delimits_of_read readString_quote text

end BuildOptions.Json
