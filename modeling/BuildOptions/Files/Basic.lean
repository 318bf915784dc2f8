/-! Access to files, whatever holds them, and the paths that files are named by. -/

namespace BuildOptions

/-- A directory below a root: the text that the root's path begins with, and the names from the root
to the directory, the innermost first. -/
structure Directory where
  root : String
  names : List String
deriving DecidableEq, Repr

namespace Directory

/-- The path of a directory. -/
def render (directory : Directory) : String :=
  directory.names.foldr (fun name path => path ++ "/" ++ name) directory.root

/-- The directories that `names` lead to, from the innermost one to the root. -/
def upwardFrom (root : String) : List String → List Directory
  | [] => [⟨root, []⟩]
  | name :: outer => ⟨root, name :: outer⟩ :: upwardFrom root outer

/-- A directory and all that it is in, the innermost first. -/
def upward (directory : Directory) : List Directory := upwardFrom directory.root directory.names

end Directory

/-- A file's path: as a user gave it, or a name in a directory. -/
inductive Path where
  | given (text : String)
  | inside (directory : Directory) (name : String)
deriving DecidableEq, Repr

/-- The text of a path. -/
def Path.render : Path → String
  | given text => text
  | inside directory name => directory.render ++ "/" ++ name

/-- What can be done with files.  Reading gives nothing where there is no text to be had, and
writing tells whether it was done. -/
structure Files (m : Type → Type) where
  isFile : Path → m Bool
  read? : Path → m (Option String)
  write : Path → String → m Bool

end BuildOptions
