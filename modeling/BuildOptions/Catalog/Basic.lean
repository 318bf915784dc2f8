import BuildOptions.Flag
import BuildOptions.Platform
import BuildOptions.Rule

/-! Catalogs: the tables that say which flags there are and how they depend on each other.  A
catalog is a set of tables without a defect, and the list of defects leaves none out: a repeated
flag, and every mention of a flag that is not declared or is of the wrong kind, each time it
occurs. -/

namespace BuildOptions

/-- The tables of a catalog.  `umbrella` names the switch that turns on every feature flag, and
feature flags are the switches whose names begin with `featureStem`. -/
structure Tables where
  flags : List Flag
  rules : List Rule
  constraints : List PlatformConstraint
  requirements : List PlatformRequirement
  exclusions : List String
  umbrella : Option String
  featureStem : String
deriving DecidableEq, Repr

/-- A table entry that names a switch. -/
inductive Mention where
  | rule (name : String)
  | constraint (name : String)
  | requirement
  | umbrella
deriving DecidableEq, Repr

/-- A table entry as messages name it. -/
def Mention.describe : Mention → String
  | rule name => s!"rule '{name}'"
  | constraint name => s!"platform constraint '{name}'"
  | requirement => "platform requirement"
  | umbrella => "umbrella"

/-- What can be wrong with tables. -/
inductive Defect where
  | repeatedFlag (name : String)
  | unknownFlag (mention : Mention) (flag : String)
  | scalarAsSwitch (mention : Mention) (flag : String)
  | unknownExclusion (flag : String)
deriving DecidableEq, Repr

/-- The wording of a defect. -/
def Defect.message : Defect → String
  | repeatedFlag name => s!"flag '{name}' is declared twice"
  | unknownFlag mention flag => s!"{mention.describe} refers to unknown flag '{flag}'"
  | scalarAsSwitch mention flag => s!"{mention.describe} uses scalar flag '{flag}' as a switch"
  | unknownExclusion flag => s!"identity exclusion refers to unknown flag '{flag}'"

namespace Tables

/-- The defects of declaring each flag after the flags `before` it. -/
def repeats : (before : List String) → List Flag → List Defect
  | _, [] => []
  | before, flag :: rest =>
    (if flag.name ∈ before then [.repeatedFlag flag.name] else []) ++
      repeats (flag.name :: before) rest

/-- The kind of a flag by its last declaration. -/
def kind? (tables : Tables) (name : String) : Option FlagKind :=
  (tables.flags.reverse.find? (·.name = name)).map Flag.kind

/-- Every mention of a flag as a switch, in the order of the tables. -/
def mentions (tables : Tables) : List (Mention × String) :=
  (tables.rules.flatMap fun rule =>
    (rule.trigger.flags ++ rule.consequences).map fun flag => (.rule rule.name, flag)) ++
  (tables.constraints.map fun constraint => (.constraint constraint.name, constraint.flag)) ++
  (tables.requirements.map fun requirement => (.requirement, requirement.flag)) ++
  (tables.umbrella.toList.map fun flag => (.umbrella, flag))

/-- What is wrong with mentioning a flag as a switch. -/
def mentionDefect? (tables : Tables) (mention : Mention × String) : Option Defect :=
  match tables.kind? mention.2 with
  | none => some (.unknownFlag mention.1 mention.2)
  | some .scalar => some (.scalarAsSwitch mention.1 mention.2)
  | some .switch => none

/-- What is wrong with leaving a flag out of the identity. -/
def exclusionDefect? (tables : Tables) (flag : String) : Option Defect :=
  match tables.kind? flag with
  | none => some (.unknownExclusion flag)
  | some _ => none

/-- All defects, in the order of the tables. -/
def defects (tables : Tables) : List Defect :=
  repeats [] tables.flags ++ tables.mentions.filterMap tables.mentionDefect? ++
    tables.exclusions.filterMap tables.exclusionDefect?

end Tables

/-- Tables without a defect. -/
structure Catalog extends Tables where
  consistent : toTables.defects = []

namespace Catalog

/-- The tables as a catalog, or all their defects. -/
def ofTables (tables : Tables) : Except (List Defect) Catalog :=
  if h : tables.defects = [] then .ok ⟨tables, h⟩ else .error tables.defects

/-- The message that refuses tables with defects. -/
def refusal (defects : List Defect) : String :=
  "inconsistent option tables:\n  " ++ "\n  ".intercalate (defects.map Defect.message)

/-- The declaration of a flag. -/
def flag? (catalog : Catalog) (name : String) : Option Flag := catalog.flags.find? (·.name = name)

/-- The switches that the umbrella turns on. -/
def isFeature (catalog : Catalog) (flag : Flag) : Bool :=
  flag.isSwitch && catalog.featureStem.toList.isPrefixOf flag.name.toList

/-- The flag does not count for the identity of a build. -/
def isExcluded (catalog : Catalog) (name : String) : Bool := catalog.exclusions.contains name

/-- The one target that a flag can be asked for on. -/
def requiredTarget? (catalog : Catalog) (name : String) : Option Target :=
  (catalog.requirements.find? (·.flag = name)).map (·.target)

/-- The rules that may be missed because of their order. -/
def hazards (catalog : Catalog) : List Hazard := orderHazards catalog.rules

end Catalog

end BuildOptions
