import BuildOptions.Identity
import BuildOptions.Report.Format
import BuildOptions.Session
import BuildOptions.Text.Layout
import BuildOptions.Toolchain.Projection

/-! Reports on the build of a valid configuration: its identity, and what it hands to the build
around it.  A configuration that is not valid has neither. -/

namespace BuildOptions.Report

/-! ### Identity -/

/-- An identity as a JSON document, with its digest. -/
def identityDocument (identity : Identity) : Json :=
  .object [("digest", .string identity.digest),
    ("key", .object [("options", .object identity.options.toJsonMembers),
      ("target", identity.target.toJson)])]

/-- An identity on lines, with its digest. -/
def identityText (identity : Identity) : String :=
  s!"digest: {identity.digest}\ntarget: {identity.target.name}\n" ++
    String.join (identity.options.toList.map fun entry =>
      "  " ++ entry.1 ++ " = " ++ entry.2.render ++ "\n")

/-- The identity of a session's configuration, or its digest alone. -/
def identity (catalog : Catalog) (session : Session) (format : Format) (digestOnly : Bool) :
    Except Failure String := do
  let config ← session.resolveValid catalog
  let identity := catalog.identity config
  if digestOnly then return identity.digest ++ "\n"
  match format with
  | .json => return (identityDocument identity).pretty ++ "\n"
  | .text => return identityText identity

/-! ### Toolchain -/

/-- What is to be known about a package. -/
def packageNotes (package : Package) : List String :=
  [package.scope.name] ++ (if package.isShared then ["shared"] else []) ++
    (if package.overridesOthers then ["override"] else []) ++
    package.options.map fun option => option.1 ++ "=" ++ option.2

/-- A package on a line. -/
def packageLine (package : Package) : String :=
  "  " ++ Text.padEnd 32 package.reference ++
    " [" ++ ", ".intercalate (packageNotes package) ++ "]\n"

/-- Packages and variables on lines. -/
def projectionText (projection : Projection) : String :=
  "Requirements:\n" ++ String.join (projection.packages.map packageLine) ++ "\nVariables:\n" ++
    String.join (projection.exported.toList.map fun entry =>
      "  " ++ entry.1 ++ "=" ++ entry.2 ++ "\n")

/-- What a session's configuration hands to the build around it. -/
def toolchain (catalog : Catalog) (session : Session) (emission : Emission) :
    Except Failure String := do
  let config ← session.resolveValid catalog
  let projection ← (config.project session.version).mapError Failure.version
  match emission with
  | .json => return projection.toJson.pretty ++ "\n"
  | .cacheScript => return CacheScript.render projection.exported
  | .text => return projectionText projection

end BuildOptions.Report
