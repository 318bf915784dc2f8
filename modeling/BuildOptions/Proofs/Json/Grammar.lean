import BuildOptions.Proofs.Json.Compact
import BuildOptions.Proofs.Text.Span

/-! The grammar of JSON texts.  The first character of a value tells its kind, so no text stands for
values of two kinds.  The compact text of a document is in the grammar, and so is every string that
is read. -/

namespace BuildOptions.Json

/-- The kinds of JSON values. -/
inductive Kind where
  | null
  | boolean
  | number
  | string
  | array
  | object
deriving DecidableEq, Repr

/-! ### Texts without structure -/

/-- There is nothing but white space. -/
def AllSpace (cs : List Char) : Prop := ∀ c ∈ cs, isSpace c = true

/-- Decimal digits, at least one. -/
def IsDigits (cs : List Char) : Prop := cs ≠ [] ∧ ∀ c ∈ cs, c.isDigit = true

/-- An integer in decimal; only zero begins with a zero. -/
inductive IsInteger : List Char → Prop where
  | zero : IsInteger ['0']
  | positive {first : Char} {rest : List Char} (hFirst : first.isDigit = true)
      (hZero : first ≠ '0') (hRest : ∀ c ∈ rest, c.isDigit = true) : IsInteger (first :: rest)

/-- The fraction of a number, behind a point, or none. -/
inductive IsFraction : List Char → Prop where
  | none : IsFraction []
  | some {digits : List Char} (hDigits : IsDigits digits) : IsFraction ('.' :: digits)

/-- The exponent of a number, with a sign or without one, or none. -/
inductive IsExponent : List Char → Prop where
  | none : IsExponent []
  | some {letter : Char} {sign digits : List Char} (hLetter : letter = 'e' ∨ letter = 'E')
      (hSign : sign = [] ∨ sign = ['+'] ∨ sign = ['-']) (hDigits : IsDigits digits) :
      IsExponent (letter :: (sign ++ digits))

/-- A number in decimal, behind a minus sign if it is negative. -/
inductive IsNumber : List Char → Prop where
  | plain {whole fraction exponent : List Char} (hWhole : IsInteger whole)
      (hFraction : IsFraction fraction) (hExponent : IsExponent exponent) :
      IsNumber (whole ++ (fraction ++ exponent))
  | negative {whole fraction exponent : List Char} (hWhole : IsInteger whole)
      (hFraction : IsFraction fraction) (hExponent : IsExponent exponent) :
      IsNumber ('-' :: (whole ++ (fraction ++ exponent)))

/-- A hexadecimal digit in either case. -/
def IsHexDigit (c : Char) : Prop :=
  ('0' ≤ c ∧ c ≤ '9') ∨ ('a' ≤ c ∧ c ≤ 'f') ∨ ('A' ≤ c ∧ c ≤ 'F')

/-- What may stand between the quotes of a string: characters as they are, and escapes. -/
inductive IsStringBody : List Char → Prop where
  | nil : IsStringBody []
  | raw {c : Char} {rest : List Char} (hQuote : c ≠ '"') (hBackslash : c ≠ '\\')
      (hControl : 0x20 ≤ c.toNat) (hRest : IsStringBody rest) : IsStringBody (c :: rest)
  | letter {c : Char} {rest : List Char} (hLetter : c ∈ ['"', '\\', '/', 'b', 'f', 'n', 'r', 't'])
      (hRest : IsStringBody rest) : IsStringBody ('\\' :: c :: rest)
  | unit {a b c d : Char} {rest : List Char} (hA : IsHexDigit a) (hB : IsHexDigit b)
      (hC : IsHexDigit c) (hD : IsHexDigit d) (hRest : IsStringBody rest) :
      IsStringBody ('\\' :: 'u' :: a :: b :: c :: d :: rest)

/-- A string between its quotes. -/
inductive IsString : List Char → Prop where
  | quoted {body : List Char} (hBody : IsStringBody body) : IsString ('"' :: (body ++ ['"']))

/-! ### Values -/

/-- Entries with commas between them, at least one. -/
inductive AreEntries (IsEntry : List Char → Prop) : List Char → Prop where
  | one {cs : List Char} (h : IsEntry cs) : AreEntries IsEntry cs
  | more {cs rest : List Char} (h : IsEntry cs) (hRest : AreEntries IsEntry rest) :
      AreEntries IsEntry (cs ++ ',' :: rest)

mutual

/-- A value of a kind, without white space around it. -/
inductive IsValue : Kind → List Char → Prop where
  | null : IsValue .null "null".toList
  | true : IsValue .boolean "true".toList
  | false : IsValue .boolean "false".toList
  | number {cs : List Char} (h : IsNumber cs) : IsValue .number cs
  | string {cs : List Char} (h : IsString cs) : IsValue .string cs
  | emptyArray {space : List Char} (hSpace : AllSpace space) :
      IsValue .array ('[' :: (space ++ [']']))
  | array {items : List Char} (hItems : AreEntries IsElement items) :
      IsValue .array ('[' :: (items ++ [']']))
  | emptyObject {space : List Char} (hSpace : AllSpace space) :
      IsValue .object ('\x7b' :: (space ++ ['\x7d']))
  | object {members : List Char} (hMembers : AreEntries IsMember members) :
      IsValue .object ('\x7b' :: (members ++ ['\x7d']))

/-- A value with white space around it. -/
inductive IsElement : List Char → Prop where
  | padded {kind : Kind} {before cs after : List Char} (hBefore : AllSpace before)
      (hValue : IsValue kind cs) (hAfter : AllSpace after) : IsElement (before ++ (cs ++ after))

/-- A member of an object: its name, a colon and its value. -/
inductive IsMember : List Char → Prop where
  | named {before name after cs : List Char} (hBefore : AllSpace before) (hName : IsString name)
      (hAfter : AllSpace after) (hValue : IsElement cs) :
      IsMember (before ++ (name ++ (after ++ ':' :: cs)))

end

/-- A whole text: a value with white space around it. -/
inductive IsDocument (kind : Kind) : List Char → Prop where
  | padded {before cs after : List Char} (hBefore : AllSpace before) (hValue : IsValue kind cs)
      (hAfter : AllSpace after) : IsDocument kind (before ++ (cs ++ after))

theorem allSpace_nil : AllSpace [] := by simp [AllSpace]

theorem IsValue.isElement {kind : Kind} {cs : List Char} (h : IsValue kind cs) : IsElement cs := by
  simpa using IsElement.padded allSpace_nil h allSpace_nil

theorem IsValue.isDocument {kind : Kind} {cs : List Char} (h : IsValue kind cs) :
    IsDocument kind cs := by
  simpa using IsDocument.padded allSpace_nil h allSpace_nil

/-! ### The first character of a value -/

/-- The kind of value that begins with a character. -/
def Kind.ofFirst? (c : Char) : Option Kind :=
  if c = '-' ∨ c.isDigit = true then some number
  else if c = 'n' then some null
  else if c = 't' ∨ c = 'f' then some boolean
  else if c = '"' then some string
  else if c = '[' then some array
  else if c = '\x7b' then some object
  else none

section

variable {kind other : Kind} {c : Char} {cs : List Char}

theorem Kind.isSpace_eq_false (h : ofFirst? c = some kind) : isSpace c = false := by
  by_contra hSpace
  simp only [isSpace, Bool.or_eq_true, decide_eq_true_eq, Bool.not_eq_false] at hSpace
  obtain ((rfl | rfl) | rfl) | rfl := hSpace <;> cases h

theorem Kind.ofFirst?_digit (h : c.isDigit = true) : ofFirst? c = some number :=
  if_pos (.inr h)

theorem IsNumber.exists_cons (h : IsNumber cs) :
    ∃ c rest, cs = c :: rest ∧ Kind.ofFirst? c = some .number := by
  cases h with
  | plain hWhole =>
    cases hWhole with
    | zero => exact ⟨'0', _, rfl, rfl⟩
    | positive hFirst => exact ⟨_, _, rfl, Kind.ofFirst?_digit hFirst⟩
  | negative => exact ⟨'-', _, rfl, rfl⟩

theorem IsValue.exists_cons (h : IsValue kind cs) :
    ∃ c rest, cs = c :: rest ∧ Kind.ofFirst? c = some kind := by
  cases h with
  | null => exact ⟨'n', _, rfl, rfl⟩
  | true => exact ⟨'t', _, rfl, rfl⟩
  | false => exact ⟨'f', _, rfl, rfl⟩
  | number h => exact h.exists_cons
  | string h =>
    cases h with
    | quoted => exact ⟨'"', _, rfl, rfl⟩
  | emptyArray => exact ⟨'[', _, rfl, rfl⟩
  | array => exact ⟨'[', _, rfl, rfl⟩
  | emptyObject => exact ⟨'\x7b', _, rfl, rfl⟩
  | object => exact ⟨'\x7b', _, rfl, rfl⟩

/-- Behind the white space of a document stands a character that tells its kind. -/
theorem IsDocument.exists_skipSpace (h : IsDocument kind cs) :
    ∃ c rest, skipSpace cs = c :: rest ∧ Kind.ofFirst? c = some kind := by
  cases h with
  | @padded before cs after hBefore hValue hAfter =>
    obtain ⟨c, rest, rfl, hFirst⟩ := hValue.exists_cons
    refine ⟨c, rest ++ after, ?_, hFirst⟩
    have hStops : Text.Stops isSpace (c :: rest ++ after) := by
      intro next hNext
      cases hNext
      exact Kind.isSpace_eq_false hFirst
    exact hStops.dropWhile_append hBefore

/-- No text is a document of two kinds. -/
theorem IsDocument.kind_eq (h : IsDocument kind cs) (hOther : IsDocument other cs) :
    kind = other := by
  obtain ⟨c, rest, hSkip, hFirst⟩ := h.exists_skipSpace
  obtain ⟨c', rest', hSkip', hFirst'⟩ := hOther.exists_skipSpace
  obtain ⟨rfl, -⟩ := List.cons.inj (hSkip.symm.trans hSkip')
  exact Option.some.inj (hFirst.symm.trans hFirst')

end

/-! ### Compact texts -/

/-- The kind of a document. -/
def kind : Json → Kind
  | null => .null
  | bool _ => .boolean
  | string _ => .string
  | array _ => .array
  | object _ => .object

theorem isHexDigit_hexDigit {n : Nat} (h : n < 16) : IsHexDigit (hexDigit n) := by
  have hAll : ∀ n < 16, ('0' ≤ hexDigit n ∧ hexDigit n ≤ '9') ∨
      ('a' ≤ hexDigit n ∧ hexDigit n ≤ 'f') ∨ ('A' ≤ hexDigit n ∧ hexDigit n ≤ 'F') := by decide
  exact hAll n h

theorem IsStringBody.escapeChar_append {rest : List Char} (c : Char) (hRest : IsStringBody rest) :
    IsStringBody (escapeChar c ++ rest) := by
  have hZero : IsHexDigit '0' := .inl (by decide)
  fun_cases escapeChar c with
  | case8 _ _ _ _ _ _ _ hControl =>
    exact .unit hZero hZero (isHexDigit_hexDigit (by omega)) (isHexDigit_hexDigit (by omega)) hRest
  | case9 hQuote hBackslash _ _ _ _ _ hControl =>
    exact .raw hQuote hBackslash (Nat.le_of_not_lt hControl) hRest
  | _ => exact .letter (by decide) hRest

theorem isStringBody_escape (cs : List Char) : IsStringBody (escape cs) := by
  induction cs with
  | nil => exact .nil
  | cons c cs ih => exact ih.escapeChar_append c

theorem isString_quote (text : String) : IsString (quote text).toList := by
  rw [toList_quote]
  exact .quoted (isStringBody_escape text.toList)

theorem areEntries_commas {IsEntry : List Char → Prop} {first : String} {rest : List String}
    (h : ∀ text ∈ first :: rest, IsEntry text.toList) :
    AreEntries IsEntry (",".intercalate (first :: rest)).toList := by
  induction rest generalizing first with
  | nil => exact .one (by simpa using h)
  | cons second rest ih =>
    obtain ⟨hFirst, hRest⟩ := List.forall_mem_cons.mp h
    rw [String.intercalate_cons_cons, String.toList_append, String.toList_append,
      List.append_assoc]
    exact .more hFirst (ih hRest)

theorem isValue_array {items : List Json}
    (h : ∀ item ∈ items, IsValue item.kind item.compact.toList) :
    IsValue .array (array items).compact.toList := by
  rw [compact, compactItems_eq_map, String.toList_append, String.toList_append, List.append_assoc]
  cases items with
  | nil => exact .emptyArray allSpace_nil
  | cons first rest =>
    refine .array (areEntries_commas fun text hMem => ?_)
    obtain ⟨item, hItem, rfl⟩ := List.mem_map.mp (List.map_cons ▸ hMem)
    exact (h item hItem).isElement

theorem isMember_memberText {entry : String × Json}
    (h : IsValue entry.2.kind entry.2.compact.toList) : IsMember (memberText entry).toList := by
  have hNamed := IsMember.named allSpace_nil (isString_quote entry.1) allSpace_nil h.isElement
  rw [List.nil_append, List.nil_append] at hNamed
  rw [memberText, String.toList_append, String.toList_append, List.append_assoc]
  exact hNamed

theorem isValue_object {members : List (String × Json)}
    (h : ∀ entry ∈ members, IsValue entry.2.kind entry.2.compact.toList) :
    IsValue .object (object members).compact.toList := by
  rw [compact, compactMembers_eq_map, String.toList_append, String.toList_append,
    List.append_assoc]
  cases members with
  | nil => exact .emptyObject allSpace_nil
  | cons first rest =>
    refine .object (areEntries_commas fun text hMem => ?_)
    obtain ⟨entry, hEntry, rfl⟩ := List.mem_map.mp (List.map_cons ▸ hMem)
    exact isMember_memberText (h entry hEntry)

theorem isValue_boolText (value : Bool) : IsValue .boolean (boolText value).toList := by
  cases value
  · exact .false
  · exact .true

theorem isValue_compact (document : Json) : IsValue document.kind document.compact.toList := by
  cases document with
  | null =>
    rw [compact]
    exact .null
  | bool value =>
    rw [compact]
    exact isValue_boolText value
  | string text =>
    rw [compact]
    exact .string (isString_quote text)
  | array items => exact isValue_array fun item _ => isValue_compact item
  | object members => exact isValue_object fun entry _ => isValue_compact entry.2
termination_by sizeOf document
decreasing_by
  · decreasing_tactic
  · rw [object.sizeOf_spec]
    exact sizeOf_value_lt ‹_›

/-! ### Strings that are read

An escape stands before the rest of a string, and a pair of halves is two escapes, so what an escape
takes from a text is told by what it makes of any body that follows. -/

section

variable {c : Char} {cs rest : List Char}

theorem isHexDigit_of_hexValue? {n : Nat} (h : hexValue? c = some n) : IsHexDigit c := by
  unfold hexValue? at h
  split at h
  · exact .inl ‹_›
  · split at h
    · exact .inr (.inl ‹_›)
    · split at h
      · exact .inr (.inr ‹_›)
      · cases h

/-- Four hexadecimal digits, behind `\u` and before the rest of a string. -/
theorem exists_of_readUnit {unit : Nat} (h : readUnit cs = some (unit, rest)) :
    ∃ taken, cs = taken ++ rest ∧
      ∀ body, IsStringBody body → IsStringBody ('\\' :: 'u' :: (taken ++ body)) := by
  unfold readUnit at h
  split at h
  · simp only [Option.bind_eq_bind, Option.bind_eq_some_iff, Option.some.injEq,
      Prod.mk.injEq] at h
    obtain ⟨_, hA, _, hB, _, hC, _, hD, -, rfl⟩ := h
    exact ⟨[_, _, _, _], rfl, fun body hBody => .unit (isHexDigit_of_hexValue? hA)
      (isHexDigit_of_hexValue? hB) (isHexDigit_of_hexValue? hC) (isHexDigit_of_hexValue? hD) hBody⟩
  · cases h

theorem exists_of_readCodePoint (h : readCodePoint cs = some (c, rest)) :
    ∃ taken, cs = taken ++ rest ∧
      ∀ body, IsStringBody body → IsStringBody ('\\' :: 'u' :: (taken ++ body)) := by
  simp only [readCodePoint, Option.bind_eq_bind, Option.bind_eq_some_iff] at h
  obtain ⟨⟨unit, after⟩, hUnit, h⟩ := h
  obtain ⟨taken, rfl, hTaken⟩ := exists_of_readUnit hUnit
  simp only at h
  split at h
  · cases h
  · split at h
    · split at h
      · simp only [Option.bind_eq_some_iff] at h
        obtain ⟨⟨low, last⟩, hLow, h⟩ := h
        obtain ⟨more, rfl, hMore⟩ := exists_of_readUnit hLow
        split at h
        · simp only [Option.some.injEq, Prod.mk.injEq] at h
          obtain ⟨-, rfl⟩ := h
          refine ⟨taken ++ '\\' :: 'u' :: more, by simp, fun body hBody => ?_⟩
          rw [List.append_assoc]
          exact hTaken _ (hMore body hBody)
        · cases h
      · cases h
    · simp only [Option.some.injEq, Prod.mk.injEq] at h
      obtain ⟨-, rfl⟩ := h
      exact ⟨taken, rfl, hTaken⟩

theorem mem_of_shortEscape? {letter : Char} (h : shortEscape? letter = some c) :
    letter ∈ ['"', '\\', '/', 'b', 'f', 'n', 'r', 't'] := by
  by_contra hOther
  simp only [List.mem_cons, List.not_mem_nil, or_false, not_or] at hOther
  simp [shortEscape?, hOther] at h

theorem exists_of_readEscape (h : readEscape cs = some (c, rest)) :
    ∃ taken, cs = taken ++ rest ∧
      ∀ body, IsStringBody body → IsStringBody ('\\' :: (taken ++ body)) := by
  unfold readEscape at h
  split at h
  · cases h
  · rename_i letter after
    split at h
    · rename_i hShort
      cases h
      exact ⟨[letter], rfl, fun body hBody => .letter (mem_of_shortEscape? hShort) hBody⟩
    · split at h
      · rename_i hLetter
        obtain ⟨taken, rfl, hTaken⟩ := exists_of_readCodePoint h
        exact ⟨letter :: taken, rfl, hLetter ▸ hTaken⟩
      · cases h

theorem exists_of_readChars {chars : List Char} (h : readChars cs = some (chars, rest)) :
    ∃ body, cs = body ++ '"' :: rest ∧ IsStringBody body := by
  fun_induction readChars cs generalizing chars with
  | case1 => cases h
  | case2 after =>
    cases h
    exact ⟨[], rfl, .nil⟩
  | case3 afterBackslash e after hEscape _ ih =>
    obtain ⟨r, hChars, hPair⟩ := Option.map_eq_some_iff.mp h
    cases hPair
    obtain ⟨taken, rfl, hTaken⟩ := exists_of_readEscape hEscape
    obtain ⟨body, rfl, hBody⟩ := ih hChars
    exact ⟨_, by simp, hTaken body hBody⟩
  | case4 => cases h
  | case5 => cases h
  | case6 c after hQuote hBackslash hControl ih =>
    obtain ⟨r, hChars, hPair⟩ := Option.map_eq_some_iff.mp h
    cases hPair
    obtain ⟨body, rfl, hBody⟩ := ih hChars
    exact ⟨c :: body, rfl, .raw hQuote hBackslash (Nat.le_of_not_lt hControl) hBody⟩

theorem exists_of_readString {text : String} (h : readString cs = some (text, rest)) :
    ∃ taken, cs = taken ++ rest ∧ IsString taken := by
  unfold readString at h
  split at h
  · obtain ⟨⟨chars, after⟩, hChars, hPair⟩ := Option.map_eq_some_iff.mp h
    cases hPair
    obtain ⟨body, rfl, hBody⟩ := exists_of_readChars hChars
    exact ⟨_, by simp, .quoted hBody⟩
  · cases h

theorem expect_eq_some_iff {expected : List Char} :
    expect expected cs = some rest ↔ cs = expected ++ rest := by
  fun_induction expect expected cs with
  | case1 cs => simp [eq_comm]
  | case2 es c cs ih => simp [ih]
  | case3 e es c cs hOther => simp [Ne.symm hOther]
  | case4 e es => simp

end

end BuildOptions.Json
