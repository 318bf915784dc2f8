import BuildOptions.Files.Basic

/-! A tree of files held in memory.  A path is followed name by name, and every name on the way has
to be a directory; paths that leave the tree lead nowhere. -/

namespace BuildOptions

/-- What a path in a tree leads to.  A file that is not a text has no text. -/
inductive FileEntry where
  | file (text? : Option String)
  | directory
deriving DecidableEq, Repr

/-- A tree: its entries, by the names that lead to them from the root. -/
abbrev FileTree := List (List String × FileEntry)

namespace FileTree

/-- The names lead to a directory: the root, one that is listed, or one that something is in. -/
def isDirectory (tree : FileTree) (names : List String) : Bool :=
  names.isEmpty || tree.any fun entry =>
    (entry.1 = names && entry.2 = .directory) ||
      (names.length < entry.1.length && names.isPrefixOf entry.1)

/-- The place that one more step leads to. -/
def step (tree : FileTree) (names : List String) (name : String) : Option (List String) :=
  if tree.isDirectory names then
    if name = "" ∨ name = "." then some names
    else if name = ".." then (if names.isEmpty then none else some names.dropLast)
    else some (names ++ [name])
  else none

/-- The names between the slashes of a path. -/
def splitPath : List Char → List (List Char)
  | [] => [[]]
  | c :: rest =>
    if c = '/' then [] :: splitPath rest
    else
      match splitPath rest with
      | [] => [[c]]
      | first :: others => (c :: first) :: others

/-- The place that a path leads to from a working directory. -/
def locate (tree : FileTree) (here : Directory) : Path → Option (List String)
  | .given text =>
    if text.toList.head? = some '/' then none
    else ((splitPath text.toList).map String.ofList).foldlM tree.step here.names.reverse
  | .inside directory name => tree.step directory.names.reverse name

/-- The file that a path leads to. -/
def file? (tree : FileTree) (here : Directory) (path : Path) : Option FileEntry := do
  let names ← tree.locate here path
  let entry ← tree.lookup names
  if tree.isDirectory names then none else some entry

/-- The tree with a file in place of the one that was there, or as a new one. -/
def put (tree : FileTree) (names : List String) (text : String) : FileTree :=
  (names, .file (some text)) :: tree.filter fun entry => entry.1 ≠ names

/-- A file can be written where a path leads to if its directory is there and it is none itself. -/
def writable? (tree : FileTree) (here : Directory) (path : Path) : Option (List String) := do
  let names ← tree.locate here path
  if tree.isDirectory names then none
  else if tree.isDirectory names.dropLast then some names
  else none

/-- Access to the files of a tree from a working directory. -/
def files (here : Directory) : Files (StateM FileTree) where
  isFile path := do
    return ((← get).file? here path).isSome
  read? path := do
    match (← get).file? here path with
    | some (.file text?) => return text?
    | _ => return none
  write path text := do
    let tree ← get
    match tree.writable? here path with
    | some names =>
      set (tree.put names text)
      return true
    | none => return false

end FileTree

end BuildOptions
