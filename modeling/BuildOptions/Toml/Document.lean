import BuildOptions.Toml.Numeral
import BuildOptions.Toml.Text
import BuildOptions.Toml.Tree

/-! Reading TOML documents.  A document is a sequence of lines, each of them empty, a header or an
assignment, and each with a comment at its end or none.  Only whether a document is well formed is
told, not why it is not. -/

namespace BuildOptions.Toml

/-- What a reader makes of the start of the characters, and what follows it. -/
abbrev Reader (α : Type) := List Char → Option (α × List Char)

/-- What follows a comment, or all characters if there is none here. -/
def skipComment : List Char → List Char
  | '#' :: rest => rest.dropWhile isPlain
  | cs => cs

/-- What follows the end of a line: blanks, a comment, and a line break or the end of the
document. -/
def readLineEnd (cs : List Char) : Option (List Char) :=
  match skipComment (skipBlanks cs) with
  | [] => some []
  | rest => readNewline rest

/-- The characters without the blanks, the comments and the line breaks at the start. -/
def skipLines : (fuel : Nat) → List Char → List Char
  | 0, cs => cs
  | fuel + 1, cs =>
    match readNewline (skipComment (skipBlanks cs)) with
    | some rest => skipLines fuel rest
    | none => skipBlanks cs

/-- The characters without the empty lines at the start. -/
def skipEmptyLines (cs : List Char) : List Char := skipLines (cs.length + 1) cs

/-- The items of an array up to its closing bracket.  A comma may follow the last item. -/
def readItems (item : Reader Value) : (fuel : Nat) → Reader (List Value)
  | 0, _ => none
  | fuel + 1, cs =>
    match skipEmptyLines cs with
    | ']' :: rest => some ([], rest)
    | cs => do
      let (value, rest) ← item cs
      match skipEmptyLines rest with
      | ']' :: rest => some ([value], rest)
      | ',' :: rest => do
        let (values, rest) ← readItems item fuel rest
        some (value :: values, rest)
      | _ => none

/-- A key, an equals sign and a value. -/
def readAssignment (item : Reader Value) : Reader ((List String × String) × Value) := fun cs => do
  let (key, rest) ← readKey cs
  let rest ← readChar '=' rest
  let (value, rest) ← item (skipBlanks rest)
  some ((key, value), rest)

/-- The assignments of an inline table up to its closing brace, added to those before them. -/
def readMembers (item : Reader Value) : (fuel : Nat) → Entries → Reader Entries
  | 0, _, _ => none
  | fuel + 1, entries, cs => do
    let (((path, key), value), rest) ← readAssignment item cs
    let entries ← entries.assign path key value
    match skipBlanks rest with
    | '\x7d' :: rest => some (entries, rest)
    | ',' :: rest => readMembers item fuel entries rest
    | _ => none

/-- An inline table after its opening brace. -/
def readInlineTable (item : Reader Value) : Reader Entries := fun cs =>
  match skipBlanks cs with
  | '\x7d' :: rest => some ([], rest)
  | cs => readMembers item (cs.length + 1) [] cs

/-- A Boolean. -/
def readBoolean : Reader Bool
  | 't' :: 'r' :: 'u' :: 'e' :: rest => some (true, rest)
  | 'f' :: 'a' :: 'l' :: 's' :: 'e' :: rest => some (false, rest)
  | _ => none

/-- A number, or a date and time. -/
def readNumber : Reader Value := fun cs =>
  ((readDateTime cs).map fun r => (.datetime r.1, r.2)).or <|
  ((readFloat cs).map fun r => (.float r.1, r.2)).or <|
  (readInteger cs).map fun r => (.integer r.1, r.2)

/-- A value that holds no other values. -/
def readScalar : Reader Value := fun cs =>
  match cs with
  | [] => none
  | c :: _ =>
    if c = '"' ∨ c = '\'' then (readString cs).map fun r => (.string (String.ofList r.1), r.2)
    else if c = 't' ∨ c = 'f' then (readBoolean cs).map fun r => (.boolean r.1, r.2)
    else readNumber cs

/-- A value with at most `depth` arrays and inline tables around its scalars. -/
def readValue : (depth : Nat) → Reader Value
  | 0, cs => readScalar cs
  | depth + 1, cs =>
    match cs with
    | '[' :: rest =>
      (readItems (readValue depth) (rest.length + 1) rest).map fun r => (.array r.1, r.2)
    | '\x7b' :: rest =>
      (readInlineTable (readValue depth) rest).map fun r => (.table (Entries.toValues r.1), r.2)
    | _ => readScalar cs

/-- What is read of a document, and the path of the table that assignments go to. -/
structure Draft where
  entries : Entries
  here : List String

/-- A draft after the header of an array of tables, which follows its opening brackets. -/
def Draft.readElementHeader (draft : Draft) (cs : List Char) : Option (Draft × List Char) := do
  let ((path, key), rest) ← readKey cs
  let rest ← readChar ']' rest
  let rest ← readChar ']' rest
  let entries ← draft.entries.openElement path key
  some (⟨entries, path ++ [key]⟩, rest)

/-- A draft after the header of a table, which follows its opening bracket. -/
def Draft.readTableHeader (draft : Draft) (cs : List Char) : Option (Draft × List Char) := do
  let ((path, key), rest) ← readKey cs
  let rest ← readChar ']' rest
  let entries ← draft.entries.openTable path key
  some (⟨entries, path ++ [key]⟩, rest)

/-- A draft after an assignment. -/
def Draft.readMember (draft : Draft) (cs : List Char) : Option (Draft × List Char) := do
  let (((path, key), value), rest) ← readAssignment (readValue (nestingLimit - 1)) cs
  let entries ← draft.entries.assignAt draft.here path key value
  some (⟨entries, draft.here⟩, rest)

/-- A draft after what stands on a line that is not empty. -/
def Draft.readContent (draft : Draft) (cs : List Char) : Option (Draft × List Char) :=
  match cs with
  | '[' :: '[' :: rest => draft.readElementHeader rest
  | '[' :: rest => draft.readTableHeader rest
  | _ => draft.readMember cs

/-- The entries of a document after all its lines. -/
def Draft.readLines (draft : Draft) : (fuel : Nat) → List Char → Option Entries
  | 0, _ => none
  | fuel + 1, cs =>
    match skipComment (skipEmptyLines cs) with
    | [] => some draft.entries
    | _ => do
      let (draft, rest) ← draft.readContent (skipEmptyLines cs)
      let rest ← readLineEnd rest
      draft.readLines fuel rest

/-- The characters without a byte order mark at the start. -/
def skipMark : List Char → List Char
  | '\ufeff' :: rest => rest
  | cs => cs

/-- The entries of the table that a document is. -/
def readDocument (text : String) : Option (List (String × Value)) :=
  let cs := skipMark text.toList
  ((⟨[], []⟩ : Draft).readLines (cs.length + 1) cs).map Entries.toValues

end BuildOptions.Toml
