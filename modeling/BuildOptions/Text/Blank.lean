/-! White space at the ends of a text, as Unicode's property `White_Space` has it, and case folding
within ASCII.  `trim` takes the longest blank stretch from either end, so what is left neither
starts nor ends with a blank character. -/

namespace BuildOptions.Text

/-- The character has the property `White_Space`. -/
def isBlank (c : Char) : Bool :=
  let n := c.toNat
  (9 ≤ n && n ≤ 13) || n == 0x20 || n == 0x85 || n == 0xA0 || n == 0x1680 ||
    (0x2000 ≤ n && n ≤ 0x200A) || n == 0x2028 || n == 0x2029 || n == 0x202F || n == 0x205F ||
    n == 0x3000

/-- The characters without the blank ones at the start. -/
def trimStart (cs : List Char) : List Char := cs.dropWhile isBlank

/-- The characters without the blank ones at either end. -/
def trimChars (cs : List Char) : List Char := (trimStart (trimStart cs).reverse).reverse

/-- The text without the blank characters at either end. -/
def trim (s : String) : String := String.ofList (trimChars s.toList)

/-- The text with the letters `A` to `Z` in lower case and all else unchanged. -/
def lower (s : String) : String := String.ofList (s.toList.map Char.toLower)

/-- The text with the letters `a` to `z` in upper case and all else unchanged. -/
def upper (s : String) : String := String.ofList (s.toList.map Char.toUpper)

/-- Nothing is taken from a text that is blank at neither end. -/
theorem trimChars_eq_self {cs : List Char} (hFirst : ∀ c, cs.head? = some c → isBlank c = false)
    (hLast : ∀ c, cs.getLast? = some c → isBlank c = false) : trimChars cs = cs := by
  have hStart : ∀ {l : List Char}, (∀ c, l.head? = some c → isBlank c = false) →
      trimStart l = l := by
    intro l h
    cases l with
    | nil => rfl
    | cons c l => simp [trimStart, h c rfl]
  rw [trimChars, hStart hFirst, hStart (by simpa using hLast), List.reverse_reverse]

end BuildOptions.Text
