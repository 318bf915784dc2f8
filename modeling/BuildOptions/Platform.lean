import BuildOptions.Target

/-! What depends on the target: constraints set a switch on the targets that they apply to, after
all else; requirements name the one target that a switch can be asked for on. -/

namespace BuildOptions

/-- A set of targets. -/
inductive TargetScope where
  | only (target : Target)
  | except (target : Target)
deriving DecidableEq, Repr

/-- The target belongs to the set. -/
def TargetScope.covers : TargetScope → Target → Bool
  | only t, target => t = target
  | except t, target => t ≠ target

/-- On the targets in its scope, the switch has the given position. -/
structure PlatformConstraint where
  name : String
  scope : TargetScope
  flag : String
  value : Bool
deriving DecidableEq, Repr

/-- The switch can be asked for on one target only. -/
structure PlatformRequirement where
  flag : String
  target : Target
deriving DecidableEq, Repr

end BuildOptions
