/-! JSON documents and their texts.  In a string only quotes, backslashes and the characters below
the space are escaped; the compact text has no blanks, the pretty text has one entry a line. -/

namespace BuildOptions

/-- A JSON document without numbers.  The members of an object are written in the order given. -/
inductive Json where
  | null
  | bool (value : Bool)
  | string (text : String)
  | array (items : List Json)
  | object (members : List (String × Json))
deriving Repr

namespace Json

/-- The lower-case hexadecimal digit of a number below sixteen. -/
def hexDigit (n : Nat) : Char := Nat.digitChar n

/-- A character as it stands in a string. -/
def escapeChar (c : Char) : List Char :=
  if c = '"' then ['\\', '"']
  else if c = '\\' then ['\\', '\\']
  else if c = '\x08' then ['\\', 'b']
  else if c = '\t' then ['\\', 't']
  else if c = '\n' then ['\\', 'n']
  else if c = '\x0c' then ['\\', 'f']
  else if c = '\r' then ['\\', 'r']
  else if c.toNat < 0x20 then
    ['\\', 'u', '0', '0', hexDigit (c.toNat / 16), hexDigit (c.toNat % 16)]
  else [c]

/-- The characters as they stand in a string. -/
def escape (cs : List Char) : List Char := cs.flatMap escapeChar

/-- A text as a JSON string, with its quotes. -/
def quote (text : String) : String := String.ofList ('"' :: (escape text.toList ++ ['"']))

/-- The two values of a switch as JSON writes them. -/
def boolText : Bool → String
  | true => "true"
  | false => "false"

mutual

/-- The text of a document without blanks. -/
def compact : Json → String
  | null => "null"
  | bool value => boolText value
  | string text => quote text
  | array items => "[" ++ ",".intercalate (compactItems items) ++ "]"
  | object members => "\x7b" ++ ",".intercalate (compactMembers members) ++ "\x7d"

/-- The texts of the items of an array. -/
def compactItems : List Json → List String
  | [] => []
  | item :: rest => item.compact :: compactItems rest

/-- The texts of the members of an object. -/
def compactMembers : List (String × Json) → List String
  | [] => []
  | (name, value) :: rest => (quote name ++ ":" ++ value.compact) :: compactMembers rest

end

/-- A line break and the indentation of a level of nesting. -/
def newline (level : Nat) : String := "\n" ++ String.ofList (List.replicate (2 * level) ' ')

/-- Entries on lines of their own, one level deeper than the brackets around them. -/
def block (opening closing : String) (level : Nat) : List String → String
  | [] => opening ++ closing
  | entries =>
    opening ++ newline (level + 1) ++ ("," ++ newline (level + 1)).intercalate entries ++
      newline level ++ closing

mutual

/-- The text of a document with one entry a line, as it stands at a level of nesting. -/
def prettyAt (level : Nat) : Json → String
  | null => "null"
  | bool value => boolText value
  | string text => quote text
  | array items => block "[" "]" level (prettyItems (level + 1) items)
  | object members => block "\x7b" "\x7d" level (prettyMembers (level + 1) members)

/-- The texts of the items of an array. -/
def prettyItems (level : Nat) : List Json → List String
  | [] => []
  | item :: rest => prettyAt level item :: prettyItems level rest

/-- The texts of the members of an object. -/
def prettyMembers (level : Nat) : List (String × Json) → List String
  | [] => []
  | (name, value) :: rest =>
    (quote name ++ ": " ++ prettyAt level value) :: prettyMembers level rest

end

/-- The text of a document with one entry a line. -/
def pretty (document : Json) : String := prettyAt 0 document

/-- A text, or `null` for none. -/
def ofText? : Option String → Json
  | some text => string text
  | none => null

end Json

end BuildOptions
