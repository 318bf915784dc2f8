import BuildOptions.Toml.Value

/-! A document while it is being read.  A table remembers how it came to be: implied by a longer
header, made by a dotted key, or opened by a header of its own.  A header may open an implied table
once; a dotted key may add to tables that dotted keys made, but not to one that a header opened. -/

namespace BuildOptions.Toml

/-- How a table came to be. -/
inductive TableOrigin where
  | implied
  | dotted
  | header
deriving DecidableEq, Repr

/-- A part of a document: a value, a table, or an array of tables with the latest one first. -/
inductive Node where
  | leaf (value : Value)
  | table (origin : TableOrigin) (entries : List (String × Node))
  | tables (elements : List (List (String × Node)))

/-- The entries of a table in the order in which they were made or opened. -/
abbrev Entries := List (String × Node)

namespace Entries

/-- The entries with `node` at `key` after all others, where what was at `key` has gone. -/
def putLast (key : String) (node : Node) (entries : Entries) : Entries :=
  entries.filter (fun entry => entry.1 ≠ key) ++ [(key, node)]

/-- The entries with `node` at `key`, in place of what was there or after all others. -/
def put (key : String) (node : Node) : Entries → Entries
  | [] => [(key, node)]
  | entry :: rest => if entry.1 = key then (key, node) :: rest else entry :: put key node rest

/-- The entries with `change` made to the table at the end of a path from a table of the given
origin.  Tables that are missing are made; `viaDots` says whether the path is part of a dotted
key. -/
def changeAt (viaDots : Bool) (change : TableOrigin → Entries → Option Entries) :
    (path : List String) → TableOrigin → Entries → Option Entries
  | [], origin, entries => change origin entries
  | key :: path, _, entries =>
    match entries.lookup key with
    | none => do
      let origin : TableOrigin := if viaDots then .dotted else .implied
      let inner ← changeAt viaDots change path origin []
      some (put key (.table origin inner) entries)
    | some (.leaf _) => none
    | some (.table origin inner) =>
      if viaDots && origin = .header then none
      else do
        let inner ← changeAt viaDots change path origin inner
        some (put key (.table origin inner) entries)
    | some (.tables []) => none
    | some (.tables (latest :: earlier)) => do
      let latest ← changeAt viaDots change path .header latest
      some (put key (.tables (latest :: earlier)) entries)

/-- The entries with a value at a key that is new.  A dotted key has to end in a table that dotted
keys made. -/
def assign (path : List String) (key : String) (value : Value) (entries : Entries) :
    Option Entries :=
  changeAt true (fun origin entries =>
    if path ≠ [] ∧ origin ≠ .dotted then none
    else if (entries.lookup key).isSome then none
    else some (put key (.leaf value) entries)) path .header entries

/-- The entries with a value assigned in the table at the end of `here`. -/
def assignAt (here path : List String) (key : String) (value : Value) (entries : Entries) :
    Option Entries :=
  changeAt false (fun _ entries => assign path key value entries) here .header entries

/-- The entries with a table opened by a header.  A table that was implied before moves behind the
entries beside it. -/
def openTable (path : List String) (key : String) (entries : Entries) : Option Entries :=
  changeAt false (fun _ entries =>
    match entries.lookup key with
    | none => some (putLast key (.table .header []) entries)
    | some (.table .implied inner) => some (putLast key (.table .header inner) entries)
    | some _ => none) path .header entries

/-- The entries with another table in an array of tables. -/
def openElement (path : List String) (key : String) (entries : Entries) : Option Entries :=
  changeAt false (fun _ entries =>
    match entries.lookup key with
    | none => some (put key (.tables [[]]) entries)
    | some (.tables elements) => some (put key (.tables ([] :: elements)) entries)
    | some _ => none) path .header entries

end Entries

mutual

/-- The value that a finished part of a document is. -/
def Node.toValue : Node → Value
  | .leaf value => value
  | .table _ entries => .table (Entries.toValues entries)
  | .tables elements => .array (Entries.elementValues elements).reverse

/-- The values of entries. -/
def Entries.toValues : List (String × Node) → List (String × Value)
  | [] => []
  | (key, node) :: rest => (key, node.toValue) :: Entries.toValues rest

/-- The values of the elements of an array of tables. -/
def Entries.elementValues : List (List (String × Node)) → List Value
  | [] => []
  | entries :: rest => .table (Entries.toValues entries) :: Entries.elementValues rest

end

end BuildOptions.Toml
