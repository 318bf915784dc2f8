import BuildOptions.Report.Format
import BuildOptions.Session
import BuildOptions.FlagValue.Json
import BuildOptions.Text.Layout

/-! The report on what a session leads to: the value of each flag, on one target or on all that are
supported, with the origins of values or without, and with the defaults or without. -/

namespace BuildOptions

/-- What a report on values shows. -/
structure View where
  explain : Bool
  changedOnly : Bool
  allTargets : Bool
deriving DecidableEq, Repr

/-- An origin as a JSON document. -/
def Origin.toJson : Origin → Json
  | default => .object [("kind", .string "default")]
  | explicit => .object [("kind", .string "explicit")]
  | bulk => .object [("kind", .string "bulk")]
  | implied rule => .object [("kind", .string "implied"), ("rule", .string rule)]
  | platform constraint =>
    .object [("constraint", .string constraint), ("kind", .string "platform")]

namespace Report

/-- The configurations that a view of a session is about. -/
def configurations (catalog : Catalog) (session : Session) (view : View) : List Configuration :=
  if view.allTargets then Target.supported.map (catalog.resolve session.overrides)
  else [session.resolve catalog]

/-- The settings that a view shows, in ascending order of name. -/
def visible (config : Configuration) (view : View) : List (String × Setting) :=
  config.settings.toList.filter fun entry => !view.changedOnly || entry.2.origin ≠ .default

/-- A setting on a line. -/
def settingLine (view : View) (name : String) (setting : Setting) : String :=
  if view.explain then
    name ++ " = " ++ Text.padEnd 8 setting.value.render ++ " # " ++ setting.origin.describe ++ "\n"
  else name ++ " = " ++ setting.value.render ++ "\n"

/-- The lines on a configuration, under a line with its target. -/
def configurationText (view : View) (config : Configuration) : String :=
  "# target: " ++ config.target.name ++ "\n" ++
    String.join ((visible config view).map fun entry => settingLine view entry.1 entry.2)

/-- A setting as a JSON document. -/
def settingDocument (view : View) (setting : Setting) : Json :=
  if view.explain then
    .object [("origin", setting.origin.toJson), ("value", setting.value.toJson)]
  else setting.value.toJson

/-- A configuration as a JSON document. -/
def configurationDocument (view : View) (config : Configuration) : Json :=
  .object [("options", .object ((visible config view).map fun entry =>
      (entry.1, settingDocument view entry.2))),
    ("target", config.target.toJson)]

/-- The configurations of a view as a JSON document: an array only for all targets. -/
def configurationsDocument (view : View) (configs : List Configuration) : Json :=
  if view.allTargets then .array (configs.map (configurationDocument view))
  else ((configs.head?).map (configurationDocument view)).getD .null

/-- What a session leads to. -/
def resolution (catalog : Catalog) (session : Session) (view : View) (format : Format) : String :=
  let configs := configurations catalog session view
  match format with
  | .json => (configurationsDocument view configs).pretty ++ "\n"
  | .text => "\n".intercalate (configs.map (configurationText view))

end Report

end BuildOptions
