import BuildOptions.FlagValue.Json
import BuildOptions.Catalog.Basic
import BuildOptions.Report.Format
import BuildOptions.Text.Layout

/-! Reports on the tables of a catalog: its flags, and the rules and constraints among them.  The
members of JSON objects are in ascending order of name. -/

namespace BuildOptions.Report

/-! ### Flags -/

/-- A flag as a JSON document. -/
def flagDocument (catalog : Catalog) (flag : Flag) : Json :=
  .object [("constraint", .ofText? (flag.rule?.map ScalarRule.describe)),
    ("default", flag.default.toJson),
    ("feature", .bool (catalog.isFeature flag)),
    ("identity", .bool !(catalog.isExcluded flag.name)),
    ("kind", .string flag.kind.name),
    ("name", .string flag.name),
    ("requires", .ofText? ((catalog.requiredTarget? flag.name).map Target.name))]

/-- What is special about a flag. -/
def flagNotes (catalog : Catalog) (flag : Flag) : List String :=
  (flag.rule?.map ScalarRule.describe).toList ++
    (if catalog.isExcluded flag.name then ["not in identity"] else []) ++
    ((catalog.requiredTarget? flag.name).map fun target => target.name ++ " only").toList

/-- Notes in brackets, if there are any. -/
def bracketed : List String → String
  | [] => ""
  | notes => "  (" ++ ", ".intercalate notes ++ ")"

/-- A flag on a line. -/
def flagLine (catalog : Catalog) (flag : Flag) : String :=
  "  " ++ Text.padEnd 45 flag.name ++ " " ++ Text.padEnd 6 flag.default.render ++
    bracketed (flagNotes catalog flag) ++ "\n"

/-- The flags of a catalog. -/
def flags (catalog : Catalog) : Format → String
  | .json => (Json.array (catalog.flags.map (flagDocument catalog))).pretty ++ "\n"
  | .text =>
    String.join (catalog.flags.map (flagLine catalog)) ++
      "\n" ++ Text.decimal catalog.flags.length ++ " options.\n"

/-! ### Rules -/

/-- A list of texts as a JSON document. -/
def textsDocument (texts : List String) : Json := .array (texts.map Json.string)

/-- A trigger as a JSON document. -/
def triggerDocument (trigger : Trigger) : Json :=
  let kind := match trigger with
    | .any _ => "any"
    | .all _ => "all"
  .object [("flags", textsDocument trigger.flags), ("kind", .string kind)]

/-- A rule as a JSON document. -/
def ruleDocument (rule : Rule) : Json :=
  .object [("name", .string rule.name),
    ("then", textsDocument rule.consequences),
    ("when", triggerDocument rule.trigger)]

/-- A set of targets as a JSON document. -/
def scopeDocument : TargetScope → Json
  | .only target => .object [("match", .string "is"), ("os", target.toJson)]
  | .except target => .object [("match", .string "is-not"), ("os", target.toJson)]

/-- A constraint as a JSON document. -/
def constraintDocument (constraint : PlatformConstraint) : Json :=
  .object [("applies_to", scopeDocument constraint.scope),
    ("flag", .string constraint.flag),
    ("name", .string constraint.name),
    ("value", .bool constraint.value)]

/-- A requirement as a JSON document. -/
def requirementDocument (requirement : PlatformRequirement) : Json :=
  .object [("flag", .string requirement.flag), ("requires", requirement.target.toJson)]

/-- A hazard as a JSON document. -/
def hazardDocument (hazard : Hazard) : Json :=
  .object [("forced_by", .string hazard.forcedBy),
    ("rule", .string hazard.rule),
    ("trigger", .string hazard.trigger)]

/-- The rules and constraints of a catalog as a JSON document. -/
def rulesDocument (catalog : Catalog) : Json :=
  .object [("constraints", .array (catalog.constraints.map constraintDocument)),
    ("hazards", .array (catalog.hazards.map hazardDocument)),
    ("requirements", .array (catalog.requirements.map requirementDocument)),
    ("rules", .array (catalog.rules.map ruleDocument)),
    ("umbrella", .ofText? catalog.umbrella)]

/-- A trigger in words. -/
def describeTrigger : Trigger → String
  | .any flags => " | ".intercalate flags
  | .all flags => " & ".intercalate flags

/-- A set of targets in words. -/
def describeScope : TargetScope → String
  | .only target => "target is " ++ target.name
  | .except target => "target is not " ++ target.name

/-- A rule on a line, with its number. -/
def ruleLine (rule : Rule) (index : Nat) : String :=
  "  " ++ Text.padStart 2 (Text.decimal (index + 1)) ++ ". " ++ Text.padEnd 34 rule.name ++ " " ++
    describeTrigger rule.trigger ++ " => " ++ ", ".intercalate rule.consequences ++ "\n"

/-- A constraint on a line. -/
def constraintLine (constraint : PlatformConstraint) : String :=
  "  " ++ Text.padEnd 22 constraint.name ++ " " ++ describeScope constraint.scope ++ ": " ++
    constraint.flag ++ " = " ++ (FlagValue.switch constraint.value).render ++ "\n"

/-- A hazard on a line. -/
def hazardLine (hazard : Hazard) : String :=
  s!"warning: rule '{hazard.rule}' reads {hazard.trigger} which is only forced on later by " ++
    s!"'{hazard.forcedBy}'\n"

/-- The hazards on lines, or a line that there are none. -/
def hazardLines : List Hazard → String
  | [] => "Rule order: ok\n"
  | hazards => String.join (hazards.map hazardLine)

/-- The rules and constraints of a catalog. -/
def rules (catalog : Catalog) : Format → String
  | .json => (rulesDocument catalog).pretty ++ "\n"
  | .text =>
    "Implication rules (evaluated once, in order):\n" ++
      String.join (catalog.rules.mapIdx fun index rule => ruleLine rule index) ++
      "\nPlatform constraints (applied last):\n" ++
      String.join (catalog.constraints.map constraintLine) ++
      "\n" ++ hazardLines catalog.hazards

/-- The report on the rules, which fails where hazards are checked for and there are some. -/
def rulesOutcome (catalog : Catalog) (format : Format) (check : Bool) : Outcome where
  output := rules catalog format
  failure? :=
    if check && !catalog.hazards.isEmpty then some (.hazards catalog.hazards.length) else none

end BuildOptions.Report
