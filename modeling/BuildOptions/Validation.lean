import BuildOptions.Configuration

/-! Validation of a configuration for a target: the target is supported, scalars obey their rules,
and no switch is on or asked for where the platform does not have it.  All violations are
reported. -/

namespace BuildOptions

/-- What can be wrong with a configuration on a target. -/
inductive Violation where
  | unsupportedTarget (target : Target)
  | invalidValue (flag : String) (value : String) (rule : ScalarRule)
  | unsupportedPlatform (flag : String) (required target : Target)
deriving DecidableEq, Repr

/-- The two kinds of violations. -/
inductive ViolationKind where
  | invalidValue
  | unsupportedPlatform
deriving DecidableEq, Repr

/-- The name of a kind of violation. -/
def ViolationKind.name : ViolationKind → String
  | invalidValue => "InvalidValue"
  | unsupportedPlatform => "UnsupportedPlatform"

namespace Violation

/-- The supported targets as messages list them. -/
def supportedNames : String := ", ".intercalate (Target.supported.map Target.name)

/-- The wording of a violation. -/
def message : Violation → String
  | unsupportedTarget target => s!"celix is only supported for {supportedNames}, not {target.name}"
  | invalidValue flag value rule => s!"{flag} must be {rule.describe}, got '{value}'"
  | unsupportedPlatform flag required target =>
    s!"{flag} is only supported for {required.name}, not {target.name}"

/-- The kind of a violation. -/
def kind : Violation → ViolationKind
  | unsupportedTarget _ => .unsupportedPlatform
  | invalidValue .. => .invalidValue
  | unsupportedPlatform .. => .unsupportedPlatform

/-- The message that rejects a configuration with violations. -/
def rejection (violations : List Violation) : String :=
  "invalid configuration: " ++ "; ".intercalate (violations.map message)

end Violation

namespace Configuration

/-- The violation of a target that is not supported. -/
def targetViolation? (target : Target) : Option Violation :=
  if target ∈ Target.supported then none else some (.unsupportedTarget target)

/-- The violation of a scalar whose text breaks its rule; a missing text counts as empty. -/
def scalarViolation? (config : Configuration) (flag : Flag) : Option Violation :=
  match flag.rule? with
  | none => none
  | some rule =>
    match (config.value? flag.name).bind FlagValue.text? with
    | some text => if rule.accepts text then none else some (.invalidValue flag.name text rule)
    | none => some (.invalidValue flag.name "" rule)

/-- The violation of a switch that is on or asked for where the platform does not have it. -/
def platformViolation? (config : Configuration) (target : Target)
    (requirement : PlatformRequirement) : Option Violation :=
  if (config.isOn requirement.flag || config.isRequested requirement.flag) &&
      target ≠ requirement.target then
    some (.unsupportedPlatform requirement.flag requirement.target target)
  else none

end Configuration

/-- Everything that is wrong with a configuration on a target. -/
def Catalog.violations (catalog : Catalog) (config : Configuration) (target : Target) :
    List Violation :=
  (Configuration.targetViolation? target).toList ++
    catalog.flags.filterMap config.scalarViolation? ++
    catalog.requirements.filterMap (config.platformViolation? target)

end BuildOptions
