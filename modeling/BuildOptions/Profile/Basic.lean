import BuildOptions.Failure
import BuildOptions.Toml.Document

/-! Profiles: what a `celix.toml` asks for.  The target stands in the section `build`, the version
in the section `package`, and the options in a table of their own.  A section may also be an array,
whose first item is then its one field.  What else a profile holds does not matter. -/

namespace BuildOptions

/-- The contents of a profile. -/
structure Profile where
  target? : Option String
  version? : Option String
  options : NameMap Toml.Value

namespace Profile

/-- The text at a field, if the field is there; a value that is not a text is refused. -/
def readText (field : Option Toml.Value) : Option (Option String) :=
  match field with
  | none => some none
  | some (.string text) => some (some text)
  | some _ => none

/-- The text at the one field of a section. -/
def readSection (section? : Option Toml.Value) (field : String) : Option (Option String) :=
  match section? with
  | none => some none
  | some (.array items) => readText items.head?
  | some value => value.entries?.bind fun entries => readText (entries.lookup field)

/-- The table of options. -/
def readOptions (options? : Option Toml.Value) : Option (NameMap Toml.Value) :=
  match options? with
  | none => some ∅
  | some value => do
    let entries ← value.entries?
    let entries ← entries.mapM fun entry => entry.2.withMoments.map fun value => (entry.1, value)
    some (.ofList entries)

/-- The profile that a text stands for. -/
def read (text : String) : Option Profile := do
  let entries ← Toml.readDocument text
  let target? ← readSection (entries.lookup "build") "target"
  let version? ← readSection (entries.lookup "package") "version"
  let options ← readOptions (entries.lookup "options")
  some ⟨target?, version?, options⟩

/-- The value that an option asks for: a Boolean, a text, or an integer in decimal. -/
def flagValue (name : String) : Toml.Value → Except Failure FlagValue
  | .boolean on => .ok (.switch on)
  | .string text => .ok (.scalar text)
  | .integer value => .ok (.scalar (Text.decimalInt value))
  | value => .error (.unsupportedValue name value.kind)

/-- The overrides with one option of a profile set. -/
def setOption (catalog : Catalog) (overrides : Overrides) (entry : String × Toml.Value) :
    Except Failure Overrides := do
  let value ← flagValue entry.1 entry.2
  (overrides.set catalog entry.1 value).mapError .option

/-- The overrides that the options of a profile make, in ascending order of name. -/
def overrides (catalog : Catalog) (profile : Profile) : Except Failure Overrides :=
  profile.options.toList.foldlM (setOption catalog) ∅

end Profile

end BuildOptions
