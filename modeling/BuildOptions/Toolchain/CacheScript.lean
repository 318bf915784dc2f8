import BuildOptions.Toolchain.Variables

/-! The script that fills the cache of a build with variables, one command a line.  In a value,
backslashes and quotes stand behind a backslash. -/

namespace BuildOptions.CacheScript

/-- A character as it stands in a quoted value. -/
def escapeChar (c : Char) : List Char := if c = '\\' || c = '"' then ['\\', c] else [c]

/-- A value as it stands between the quotes. -/
def escape (value : String) : String := String.ofList (value.toList.flatMap escapeChar)

/-- The command that sets one variable. -/
def command (name value : String) : String :=
  "set(" ++ name ++ " \"" ++ escape value ++ "\" CACHE STRING \"\" FORCE)\n"

/-- The script that sets all variables, in ascending order of name. -/
def render (exported : Variables) : String :=
  String.join (exported.toList.map fun entry => command entry.1 entry.2)

end BuildOptions.CacheScript
