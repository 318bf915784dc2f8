import BuildOptions.Text.Blank

/-! The operating systems that a build can be for.  A target has one name of its own and may be
called by others; names are read without regard to case or surrounding white space. -/

namespace BuildOptions

/-- An operating system that a build is for. -/
inductive Target where
  | linux
  | macos
  | windows
  | freebsd
deriving DecidableEq, Ord, Repr

namespace Target

/-- Every target, in their order. -/
def all : List Target := [linux, macos, windows, freebsd]

theorem mem_all (t : Target) : t ∈ all := by
  cases t <;> decide

instance (p : Target → Prop) [DecidablePred p] : Decidable (∀ t, p t) :=
  decidable_of_iff (∀ t ∈ all, p t) ⟨fun h t => h t (mem_all t), fun h t _ => h t⟩

/-- The name that a target is written by. -/
def name : Target → String
  | linux => "linux"
  | macos => "macos"
  | windows => "windows"
  | freebsd => "freebsd"

/-- The target that is written by exactly this name. -/
def ofName? (s : String) : Option Target := all.find? (·.name = s)

theorem ofName?_name (t : Target) : ofName? t.name = some t := by
  cases t <;> decide

/-- The target that a word stands for: its name or another one in use, in any case. -/
def ofAlias? (word : String) : Option Target :=
  match Text.lower (Text.trim word) with
  | "linux" => some linux
  | "macos" | "darwin" | "osx" => some macos
  | "windows" | "win32" => some windows
  | "freebsd" => some freebsd
  | _ => none

/-- The targets that the product can be built for. -/
def supported : List Target := [linux, macos]

end Target

end BuildOptions
