import BuildOptions.Configuration

/-! Resolution, in five steps: defaults, overrides, the feature flags if the umbrella is explicitly
on, one pass over the rules, and the constraints of the target.  A step that switches a flag on
leaves a flag alone that is on already, so a value keeps the earliest reason for it. -/

namespace BuildOptions

namespace Settings

/-- The settings with a flag switched on, if it is not on already. -/
def switchOn (settings : Settings) (name : String) (origin : Origin) : Settings :=
  if settings.isOn name then settings else settings.insert name ⟨.switch true, origin⟩

/-- The settings with several flags switched on. -/
def switchOnAll (settings : Settings) (names : List String) (origin : Origin) : Settings :=
  names.foldl (fun acc name => acc.switchOn name origin) settings

/-- The settings after one rule is read. -/
def applyRule (settings : Settings) (rule : Rule) : Settings :=
  if rule.trigger.holds settings.isOn then
    settings.switchOnAll rule.consequences (.implied rule.name)
  else settings

/-- The settings after one pass over the rules. -/
def applyRules (settings : Settings) (rules : List Rule) : Settings :=
  rules.foldl applyRule settings

/-- The settings after one constraint: a flag that has another value gets the constraint's. -/
def applyConstraint (settings : Settings) (constraint : PlatformConstraint) : Settings :=
  if (settings.get? constraint.flag).map (·.value) = some (.switch constraint.value) then settings
  else settings.insert constraint.flag ⟨.switch constraint.value, .platform constraint.name⟩

/-- The settings after the constraints of a target. -/
def applyConstraints (settings : Settings) (constraints : List PlatformConstraint)
    (target : Target) : Settings :=
  (constraints.filter (·.scope.covers target)).foldl applyConstraint settings

end Settings

namespace Catalog

/-- Every flag at its default. -/
def defaults (catalog : Catalog) : Settings :=
  NameMap.ofList (catalog.flags.map fun flag => (flag.name, ⟨flag.default, .default⟩))

/-- The defaults with the overrides in place of them. -/
def overridden (catalog : Catalog) (overrides : Overrides) : Settings :=
  catalog.defaults.merge (overrides.map fun value => ⟨value, .explicit⟩)

/-- The umbrella is explicitly on. -/
def umbrellaIsOn (catalog : Catalog) (overrides : Overrides) : Bool :=
  match catalog.umbrella.bind overrides.get? with
  | some value => value.isOn
  | none => false

/-- The names of the switches that the umbrella turns on. -/
def features (catalog : Catalog) : List String :=
  (catalog.flags.filter catalog.isFeature).map (·.name)

/-- The settings that the rules start from. -/
def start (catalog : Catalog) (overrides : Overrides) : Settings :=
  if catalog.umbrellaIsOn overrides then
    (catalog.overridden overrides).switchOnAll catalog.features .bulk
  else catalog.overridden overrides

/-- The settings after the rules, before the constraints. -/
def cascade (catalog : Catalog) (overrides : Overrides) : Settings :=
  (catalog.start overrides).applyRules catalog.rules

/-- The configuration that overrides lead to on a target. -/
def resolve (catalog : Catalog) (overrides : Overrides) (target : Target) : Configuration where
  target := target
  settings := (catalog.cascade overrides).applyConstraints catalog.constraints target
  requested := overrides

end Catalog

end BuildOptions
