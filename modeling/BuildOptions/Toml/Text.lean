import BuildOptions.Toml.DateTime

/-! The strings and keys of TOML.  A basic string stands in quotes and may hold escapes, a literal
string stands in apostrophes and holds none; tripled, either may run over several lines. -/

namespace BuildOptions.Toml

/-- A space or a tab. -/
def isBlank (c : Char) : Bool := c = ' ' || c = '\t'

/-- The characters without the blanks at the start. -/
def skipBlanks (cs : List Char) : List Char := cs.dropWhile isBlank

/-- What follows a line break, which is a line feed with or without a carriage return before it. -/
def readNewline : List Char → Option (List Char)
  | '\n' :: rest => some rest
  | '\r' :: '\n' :: rest => some rest
  | _ => none

/-- The characters without the blanks and the line breaks at the start. -/
def skipBlankLines : List Char → List Char
  | '\r' :: '\n' :: rest => skipBlankLines rest
  | c :: rest => if isBlank c || c = '\n' then skipBlankLines rest else c :: rest
  | [] => []

/-- The character may stand in a comment or a string: a tab, or any character from the space on but
the delete character. -/
def isPlain (c : Char) : Bool := c = '\t' || (0x20 ≤ c.toNat && c.toNat ≠ 0x7F)

/-- The value of hexadecimal digits. -/
def hexNumber (cs : List Char) : Option Nat :=
  cs.foldlM (fun n c =>
    if c.isDigit then some (n * 16 + (c.toNat - '0'.toNat))
    else if ('a' ≤ c && c ≤ 'f') || ('A' ≤ c && c ≤ 'F') then
      some (n * 16 + (c.toLower.toNat - 'a'.toNat + 10))
    else none) 0

/-- The character whose code point is written in `count` hexadecimal digits. -/
def readCodePoint (count : Nat) (cs : List Char) : Option (Char × List Char) := do
  let digits := cs.take count
  if digits.length ≠ count then none
  let n ← hexNumber digits
  if h : n.isValidChar then some (Char.ofNatAux n h, cs.drop count) else none

/-- The character that the escape after a backslash stands for. -/
def readEscape : List Char → Option (Char × List Char)
  | 'b' :: rest => some ('\x08', rest)
  | 't' :: rest => some ('\t', rest)
  | 'n' :: rest => some ('\n', rest)
  | 'f' :: rest => some ('\x0c', rest)
  | 'r' :: rest => some ('\r', rest)
  | '"' :: rest => some ('"', rest)
  | '\\' :: rest => some ('\\', rest)
  | 'u' :: rest => readCodePoint 4 rest
  | 'U' :: rest => readCodePoint 8 rest
  | _ => none

/-- What follows a backslash at the end of a line: it joins the next line that is not blank. -/
def readJoin (cs : List Char) : Option (List Char) :=
  (readNewline (skipBlanks cs)).map skipBlankLines

/-- The number of `quote` characters at the start, but at most five: three close a string of several
lines, and up to two before them belong to it. -/
def countQuotes (quote : Char) (cs : List Char) : Nat := ((cs.take 5).takeWhile (· = quote)).length

/-- The rest of a basic string of one line. -/
def basicLine : (fuel : Nat) → List Char → Option (List Char × List Char)
  | 0, _ => none
  | _ + 1, [] => none
  | fuel + 1, c :: rest =>
    if c = '"' then some ([], rest)
    else if c = '\\' then do
      let (e, rest) ← readEscape rest
      let (text, rest) ← basicLine fuel rest
      some (e :: text, rest)
    else if isPlain c then do
      let (text, rest) ← basicLine fuel rest
      some (c :: text, rest)
    else none

/-- The rest of a literal string of one line. -/
def literalLine : List Char → Option (List Char × List Char)
  | [] => none
  | c :: rest =>
    if c = '\'' then some ([], rest)
    else if isPlain c then (literalLine rest).map fun r => (c :: r.1, r.2)
    else none

/-- The rest of a string of several lines that `quote` delimits. -/
def severalLines (quote : Char) : (fuel : Nat) → List Char → Option (List Char × List Char)
  | 0, _ => none
  | _ + 1, [] => none
  | fuel + 1, c :: rest =>
    if 3 ≤ countQuotes quote (c :: rest) then
      let n := countQuotes quote (c :: rest)
      some (List.replicate (n - 3) quote, (c :: rest).drop n)
    else
      match readNewline (c :: rest) with
      | some rest => (severalLines quote fuel rest).map fun r => ('\n' :: r.1, r.2)
      | none =>
        if c = '\\' ∧ quote = '"' then
          match readJoin rest with
          | some rest => severalLines quote fuel rest
          | none => do
            let (e, rest) ← readEscape rest
            let (text, rest) ← severalLines quote fuel rest
            some (e :: text, rest)
        else if isPlain c then (severalLines quote fuel rest).map fun r => (c :: r.1, r.2)
        else none

/-- What follows a line break at the very start of a string of several lines, which does not
count. -/
def dropFirstNewline (cs : List Char) : List Char := (readNewline cs).getD cs

/-- A string of one line. -/
def readLineString : List Char → Option (List Char × List Char)
  | '"' :: rest => basicLine (rest.length + 1) rest
  | '\'' :: rest => literalLine rest
  | _ => none

/-- A string. -/
def readString (cs : List Char) : Option (List Char × List Char) :=
  match cs with
  | '"' :: '"' :: '"' :: rest => severalLines '"' (rest.length + 1) (dropFirstNewline rest)
  | '\'' :: '\'' :: '\'' :: rest => severalLines '\'' (rest.length + 1) (dropFirstNewline rest)
  | _ => readLineString cs

/-- A character of a key without quotes. -/
def isKeyChar (c : Char) : Bool := c.isAlphanum || c = '_' || c = '-'

/-- One part of a key. -/
def readKeyPart (cs : List Char) : Option (String × List Char) :=
  match cs with
  | '"' :: _ | '\'' :: _ => (readLineString cs).map fun r => (String.ofList r.1, r.2)
  | _ =>
    match cs.takeWhile isKeyChar with
    | [] => none
    | part => some (String.ofList part, cs.dropWhile isKeyChar)

/-- The parts of a key, between dots and blanks. -/
def readKeyParts : (fuel : Nat) → List Char → Option (List String × List Char)
  | 0, _ => none
  | fuel + 1, cs => do
    let (part, rest) ← readKeyPart (skipBlanks cs)
    match skipBlanks rest with
    | '.' :: rest => do
      let (parts, rest) ← readKeyParts fuel rest
      some (part :: parts, rest)
    | rest => some ([part], rest)

/-- Arrays and tables nest, and keys have parts, below this number. -/
def nestingLimit : Nat := 80

/-- A key: fewer parts than the limit, the last one apart from those before it. -/
def readKey (cs : List Char) : Option ((List String × String) × List Char) := do
  let (parts, rest) ← readKeyParts nestingLimit cs
  if parts.length < nestingLimit then
    let last ← parts.getLast?
    some ((parts.dropLast, last), rest)
  else none

end BuildOptions.Toml
