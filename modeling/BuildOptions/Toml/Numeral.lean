import BuildOptions.Text.Decimal

/-! The numbers of TOML: integers of 64 bits in four bases, and floating-point numbers, of which
only those are refused that round to positive infinity.  Underscores may stand between two
digits. -/

namespace BuildOptions.Toml

/-- The number that a digit stands for, in bases up to sixteen. -/
def digitValue (c : Char) : Nat :=
  if c.isDigit then c.toNat - '0'.toNat else c.toLower.toNat - 'a'.toNat + 10

/-- The number that digits denote in a base. -/
def numeralValue (base : Nat) (digits : List Char) : Nat :=
  digits.foldl (fun n c => n * base + digitValue c) 0

/-- The digits after a first one, without the underscores between them, and what follows. -/
def readMoreDigits (isDigit : Char → Bool) : List Char → List Char × List Char
  | '_' :: c :: rest =>
    if isDigit c then
      let (digits, rest) := readMoreDigits isDigit rest
      (c :: digits, rest)
    else ([], '_' :: c :: rest)
  | c :: rest =>
    if isDigit c then
      let (digits, rest) := readMoreDigits isDigit rest
      (c :: digits, rest)
    else ([], c :: rest)
  | [] => ([], [])

/-- One digit or more, without the underscores between them, and what follows. -/
def readDigits (isDigit : Char → Bool) : List Char → Option (List Char × List Char)
  | c :: rest =>
    if isDigit c then
      let (digits, rest) := readMoreDigits isDigit rest
      some (c :: digits, rest)
    else none
  | [] => none

/-- A sign, if there is one: whether it is a minus, and what follows. -/
def readSign : List Char → Bool × List Char
  | '+' :: rest => (false, rest)
  | '-' :: rest => (true, rest)
  | cs => (false, cs)

/-- The digits of a whole number: zero alone, or digits that do not start with zero. -/
def readWhole : List Char → Option (List Char × List Char)
  | '0' :: rest => some (['0'], rest)
  | cs => readDigits Char.isDigit cs

/-- A digit of the base sixteen. -/
def isHexDigit (c : Char) : Bool := c.isDigit || ('a' ≤ c && c ≤ 'f') || ('A' ≤ c && c ≤ 'F')

/-- The integers of 64 bits are the ones from -2^63 to 2^63 - 1; this is 2^63. -/
def integerBound : Nat := 0x8000000000000000

/-- An integer in the digits of a base. -/
def readInBase (base : Nat) (isDigit : Char → Bool) (cs : List Char) :
    Option (Int × List Char) := do
  let (digits, rest) ← readDigits isDigit cs
  let n := numeralValue base digits
  if n < integerBound then some (n, rest) else none

/-- An integer of 64 bits. -/
def readInteger (cs : List Char) : Option (Int × List Char) :=
  match cs with
  | '0' :: 'x' :: rest => readInBase 16 isHexDigit rest
  | '0' :: 'o' :: rest => readInBase 8 (fun c => '0' ≤ c && c ≤ '7') rest
  | '0' :: 'b' :: rest => readInBase 2 (fun c => c = '0' || c = '1') rest
  | _ => do
    let (isNegative, rest) := readSign cs
    let (digits, rest) ← readWhole rest
    let n := numeralValue 10 digits
    if isNegative then
      if n ≤ integerBound then some (-(n : Int), rest) else none
    else if n < integerBound then some (n, rest) else none

/-- From this number on, a number is closer to 2^1024 than to the largest finite number of 64 bits,
or as close. -/
def overflowBound : Nat := Nat.pow 2 1024 - Nat.pow 2 970

/-- The number `digits` times a power of ten rounds to infinity.  The number of digits decides
unless it puts the number near the bound, so no power is large. -/
def overflows (digits : List Char) (exponent : Int) : Bool :=
  let n := Text.decimalValue digits
  let magnitude : Int := ((digits.dropWhile (· = '0')).length : Int) + exponent
  if n = 0 then false
  else if magnitude ≤ 308 then false
  else if 310 < magnitude then true
  else if 0 ≤ exponent then overflowBound ≤ n * Nat.pow 10 exponent.toNat
  else overflowBound * Nat.pow 10 (-exponent).toNat ≤ n

/-- The digits of an exponent with its sign, if an exponent follows. -/
def readExponent : List Char → Option (Int × List Char)
  | c :: cs =>
    if c = 'e' ∨ c = 'E' then do
      let (isNegative, cs) := readSign cs
      let (digits, rest) ← readDigits Char.isDigit cs
      let n := Text.decimalValue digits
      some (if isNegative then -(n : Int) else n, rest)
    else none
  | [] => none

/-- The digits after a point, if a point and a digit follow. -/
def readPoint : List Char → Option (List Char × List Char)
  | '.' :: cs => readDigits Char.isDigit cs
  | _ => none

/-- What follows infinity or not-a-number, with a sign or none. -/
def readSpecial (cs : List Char) : Option (List Char) :=
  match (readSign cs).2 with
  | 'i' :: 'n' :: 'f' :: rest => some rest
  | 'n' :: 'a' :: 'n' :: rest => some rest
  | _ => none

/-- What follows a decimal number with a point, an exponent or both. -/
def readDecimal (cs : List Char) : Option (List Char) := do
  let (isNegative, cs) := readSign cs
  let (whole, cs) ← readWhole cs
  let (fraction, exponent, rest) ←
    match readPoint cs with
    | some (fraction, cs) =>
      match readExponent cs with
      | some (exponent, rest) => some (fraction, exponent, rest)
      | none => some (fraction, 0, cs)
    | none => (readExponent cs).map fun r => ([], r.1, r.2)
  if !isNegative && overflows (whole ++ fraction) (exponent - (fraction.length : Int)) then none
  else some rest

/-- A floating-point number, as its numeral, and what follows it. -/
def readFloat (cs : List Char) : Option (String × List Char) := do
  let rest ← (readDecimal cs).or (readSpecial cs)
  some (String.ofList (cs.take (cs.length - rest.length)), rest)

end BuildOptions.Toml
