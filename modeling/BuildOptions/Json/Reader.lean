/-! Reading JSON texts.  A string may write any character by an escape; a code point above U+FFFF
takes a pair of escapes, and half a pair is refused.  What is read is the whole text, apart from
white space around it. -/

namespace BuildOptions.Json

/-- The white space of JSON. -/
def isSpace (c : Char) : Bool := c = ' ' || c = '\t' || c = '\n' || c = '\r'

/-- The characters without the white space at the start. -/
def skipSpace (cs : List Char) : List Char := cs.dropWhile isSpace

/-- The characters after `expected`, if they begin with it. -/
def expect : (expected : List Char) → List Char → Option (List Char)
  | [], cs => some cs
  | e :: es, c :: cs => if e = c then expect es cs else none
  | _ :: _, [] => none

/-- The number that a hexadecimal digit stands for. -/
def hexValue? (c : Char) : Option Nat :=
  if '0' ≤ c ∧ c ≤ '9' then some (c.toNat - '0'.toNat)
  else if 'a' ≤ c ∧ c ≤ 'f' then some (c.toNat - 'a'.toNat + 10)
  else if 'A' ≤ c ∧ c ≤ 'F' then some (c.toNat - 'A'.toNat + 10)
  else none

/-- The number that four hexadecimal digits stand for, and what follows them. -/
def readUnit : List Char → Option (Nat × List Char)
  | a :: b :: c :: d :: rest => do
    let a ← hexValue? a
    let b ← hexValue? b
    let c ← hexValue? c
    let d ← hexValue? d
    some (((a * 16 + b) * 16 + c) * 16 + d, rest)
  | _ => none

/-- The number is the first half of a pair. -/
def isHighHalf (unit : Nat) : Bool := 0xD800 ≤ unit && unit ≤ 0xDBFF

/-- The number is the second half of a pair. -/
def isLowHalf (unit : Nat) : Bool := 0xDC00 ≤ unit && unit ≤ 0xDFFF

/-- The character that the escape after `\u` stands for, and what follows it. -/
def readCodePoint (cs : List Char) : Option (Char × List Char) := do
  let (unit, rest) ← readUnit cs
  if isLowHalf unit then none
  else if isHighHalf unit then
    match rest with
    | '\\' :: 'u' :: rest => do
      let (low, rest) ← readUnit rest
      if isLowHalf low then
        some (Char.ofNat (0x10000 + (unit - 0xD800) * 0x400 + (low - 0xDC00)), rest)
      else none
    | _ => none
  else some (Char.ofNat unit, rest)

/-- The character that a one-letter escape stands for. -/
def shortEscape? (c : Char) : Option Char :=
  if c = '"' || c = '\\' || c = '/' then some c
  else if c = 'b' then some '\x08'
  else if c = 'f' then some '\x0c'
  else if c = 'n' then some '\n'
  else if c = 'r' then some '\r'
  else if c = 't' then some '\t'
  else none

/-- The character that the escape after a backslash stands for, and what follows it. -/
def readEscape : List Char → Option (Char × List Char)
  | [] => none
  | c :: rest =>
    match shortEscape? c with
    | some e => some (e, rest)
    | none => if c = 'u' then readCodePoint rest else none

theorem length_of_readUnit {cs rest : List Char} {unit : Nat}
    (h : readUnit cs = some (unit, rest)) :
    cs.length = rest.length + 4 := by
  unfold readUnit at h
  split at h
  · simp only [Option.bind_eq_bind, Option.bind_eq_some_iff, Option.some.injEq, Prod.mk.injEq] at h
    obtain ⟨_, _, _, _, _, _, _, _, _, rfl⟩ := h
    rfl
  · cases h

theorem length_of_readCodePoint {cs rest : List Char} {c : Char}
    (h : readCodePoint cs = some (c, rest)) : rest.length < cs.length := by
  simp only [readCodePoint, Option.bind_eq_bind, Option.bind_eq_some_iff] at h
  obtain ⟨⟨unit, after⟩, hUnit, h⟩ := h
  have hLength := length_of_readUnit hUnit
  simp only at h
  split at h
  · cases h
  · split at h
    · split at h
      · simp only [Option.bind_eq_some_iff] at h
        obtain ⟨⟨low, last⟩, hLow, h⟩ := h
        have hLength' := length_of_readUnit hLow
        simp only at h
        split at h
        · simp only [Option.some.injEq, Prod.mk.injEq] at h
          obtain ⟨_, rfl⟩ := h
          simp only [List.length_cons] at hLength
          omega
        · cases h
      · cases h
    · simp only [Option.some.injEq, Prod.mk.injEq] at h
      obtain ⟨_, rfl⟩ := h
      omega

/-- An escape takes at least one character. -/
theorem length_of_readEscape {cs rest : List Char} {c : Char}
    (h : readEscape cs = some (c, rest)) : rest.length < cs.length := by
  unfold readEscape at h
  split at h
  · cases h
  · split at h
    · simp only [Option.some.injEq, Prod.mk.injEq] at h
      simp [← h.2]
    · split at h
      · exact Nat.lt_succ_of_lt (length_of_readCodePoint h)
      · cases h

/-- The characters of a string up to its closing quote, and what follows the quote. -/
def readChars (cs : List Char) : Option (List Char × List Char) :=
  match cs with
  | [] => none
  | c :: rest =>
    if c = '"' then some ([], rest)
    else if c = '\\' then
      match _h : readEscape rest with
      | some (e, after) => (readChars after).map fun r => (e :: r.1, r.2)
      | none => none
    else if c.toNat < 0x20 then none
    else (readChars rest).map fun r => (c :: r.1, r.2)
termination_by cs.length
decreasing_by
  · exact Nat.lt_succ_of_lt (length_of_readEscape _h)
  · exact Nat.lt_succ_self _

/-- A string, and what follows it. -/
def readString : List Char → Option (String × List Char)
  | '"' :: rest => (readChars rest).map fun r => (String.ofList r.1, r.2)
  | _ => none

/-- What a reader makes of a whole text. -/
def readAll {α : Type} (reader : List Char → Option (α × List Char)) (text : String) :
    Option α := do
  let (value, rest) ← reader (skipSpace text.toList)
  if (skipSpace rest).isEmpty then some value else none

end BuildOptions.Json
