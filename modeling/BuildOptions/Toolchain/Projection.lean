import BuildOptions.Json.Printer
import BuildOptions.Toolchain.CacheScript

/-! What a configuration means for the build around it: the packages to require and the variables to
set, for a package version. -/

namespace BuildOptions

/-- The required packages and the exported variables. -/
structure Projection where
  packages : List Package
  exported : Variables

/-- The projection of a configuration for a version that is given as a text. -/
def Configuration.project (config : Configuration) (version : String) :
    Except Version.Error Projection := do
  let version ← Version.read version
  return ⟨config.packages, .ofConfiguration config version⟩

/-- A package as a JSON document; options are left out where there are none. -/
def Package.toJson (package : Package) : Json :=
  .object ([("reference", .string package.reference),
    ("scope", .string package.scope.name),
    ("shared", .bool package.isShared),
    ("override", .bool package.overridesOthers)] ++
    if package.options.isEmpty then []
    else [("options", .array (package.options.map fun option =>
      .array [.string option.1, .string option.2]))])

/-- A projection as a JSON document. -/
def Projection.toJson (projection : Projection) : Json :=
  .object [("requirements", .array (projection.packages.map Package.toJson)),
    ("variables", .object (projection.exported.toList.map fun entry =>
      (entry.1, .string entry.2)))]

end BuildOptions
