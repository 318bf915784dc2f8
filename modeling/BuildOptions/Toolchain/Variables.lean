import BuildOptions.Toolchain.Package
import BuildOptions.Version

/-! The variables that a configuration exports to the build: every flag by its name in capitals,
what the linker of the target needs, and the numbers of the package version. -/

namespace BuildOptions

/-- The flags for the linker of a target. -/
def Target.linkerFlags? : Target → Option String
  | linux => some "-Wl,--unresolved-symbols=ignore-in-shared-libs"
  | macos => some "-Wl,-undefined -Wl,dynamic_lookup"
  | windows | freebsd => none

/-- A value as a variable holds it. -/
def FlagValue.exported : FlagValue → String
  | switch true => "ON"
  | switch false => "OFF"
  | scalar text => text

/-- Exported variables by name. -/
abbrev Variables := NameMap String

namespace Variables

/-- The variable for the flags of the linker. -/
def linkerFlagsName : String := "CMAKE_EXE_LINKER_FLAGS"

/-- The variable that asks for the error injector of the service discovery library. -/
def errorInjectorName : String := "BUILD_ERROR_INJECTOR_MDNSRESPONDER"

/-- Every flag by its name in capitals. -/
def ofFlags (config : Configuration) : List (String × String) :=
  config.values.toList.map fun entry => (Text.upper entry.1, entry.2.exported)

/-- A host package of this name is required. -/
def requiresHost (packages : List Package) (name : String) : Bool :=
  packages.any fun package => package.scope = .host && package.name = name

/-- The error injector goes with testing, if its library is there. -/
def ofErrorInjector (config : Configuration) : List (String × String) :=
  if config.isOn "enable_testing" && requiresHost config.packages "mdnsresponder" then
    [(errorInjectorName, "ON")]
  else []

/-- The flags of the linker. -/
def ofLinker (target : Target) : List (String × String) :=
  target.linkerFlags?.toList.map fun flags => (linkerFlagsName, flags)

/-- The variables that a configuration and a version export; a later one replaces an earlier one. -/
def ofConfiguration (config : Configuration) (version : Version) : Variables :=
  NameMap.ofList (ofFlags config ++ ofErrorInjector config ++ ofLinker config.target ++
    version.exported)

end Variables

end BuildOptions
