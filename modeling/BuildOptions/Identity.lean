import BuildOptions.Configuration
import BuildOptions.FlagValue.Json
import BuildOptions.Sha256

/-! The identity of a build: its target and the values of all flags that count for what is built.
Builds share an identity exactly when they have the same canonical text, whose hash is the
digest. -/

namespace BuildOptions

/-- A target and the values that count for what is built. -/
structure Identity where
  target : Target
  options : NameMap FlagValue
deriving DecidableEq

/-- The values of flags as the members of a JSON object. -/
def NameMap.toJsonMembers (values : NameMap FlagValue) : List (String × Json) :=
  values.toList.map fun entry => (entry.1, entry.2.toJson)

/-- The identity of a configuration leaves out the flags that the catalog excludes. -/
def Catalog.identity (catalog : Catalog) (config : Configuration) : Identity where
  target := config.target
  options := config.values.filter fun name _ => !catalog.isExcluded name

/-- A target and the values of flags as a JSON document, the target first. -/
def valuesDocument (target : Target) (values : NameMap FlagValue) : Json :=
  .object [("target", target.toJson), ("options", .object values.toJsonMembers)]

/-- All values of a configuration as a JSON text. -/
def Configuration.jsonText (config : Configuration) : String :=
  (valuesDocument config.target config.values).compact

namespace Identity

/-- The text that stands for an identity. -/
def canonicalText (identity : Identity) : String :=
  (valuesDocument identity.target identity.options).compact

/-- The hash of the canonical text. -/
def digest (identity : Identity) : String := Sha256.digest identity.canonicalText

end Identity

end BuildOptions
