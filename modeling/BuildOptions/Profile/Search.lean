import BuildOptions.Files.Basic
import BuildOptions.Profile.Basic

/-! Finding a profile: the nearest `celix.toml` in a directory or one that it is in.  The nearest
one counts even if it cannot be read, and a directory of that name is passed over. -/

namespace BuildOptions.Profile

/-- The name that a profile is found by. -/
def fileName : String := "celix.toml"

variable {m : Type → Type} [Monad m]

/-- The profile at a path. -/
def load (files : Files m) (path : Path) : m (Except Failure Profile) := do
  match ← files.read? path with
  | none => return .error (.unreadable path.render)
  | some text =>
    match read text with
    | none => return .error (.malformedProfile path.render)
    | some profile => return .ok profile

/-- The profile in the first of the directories that has one. -/
def findIn (files : Files m) : List Directory → m (Except Failure (Option (Profile × Path)))
  | [] => return .ok none
  | directory :: outer => do
    let path := Path.inside directory fileName
    if ← files.isFile path then
      return (← load files path).map fun profile => some (profile, path)
    else findIn files outer

/-- The nearest profile from a directory upward. -/
def find (files : Files m) (start : Directory) : m (Except Failure (Option (Profile × Path))) :=
  findIn files start.upward

end BuildOptions.Profile
