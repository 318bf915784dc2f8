import BuildOptions.Report.Format
import BuildOptions.Session
import BuildOptions.FlagValue.Json

/-! The report on whether a session's configuration is valid.  It is printed in either case; the
request fails if the configuration is not valid. -/

namespace BuildOptions.Report

/-- A violation as a JSON document. -/
def violationDocument (violation : Violation) : Json :=
  .object [("kind", .string violation.kind.name), ("message", .string violation.message)]

/-- A verdict as a JSON document. -/
def verdictDocument (target : Target) (violations : List Violation) : Json :=
  .object [("target", target.toJson),
    ("valid", .bool violations.isEmpty),
    ("violations", .array (violations.map violationDocument))]

/-- A verdict in words. -/
def verdictText (target : Target) : List Violation → String
  | [] => s!"ok: configuration is valid for {target.name}\n"
  | violations =>
    s!"configuration rejected for {target.name}:\n" ++
      String.join (violations.map fun violation => "  - " ++ violation.message ++ "\n")

/-- The verdict on a session. -/
def verdict (catalog : Catalog) (session : Session) (format : Format) : Outcome :=
  let violations := catalog.violations (session.resolve catalog) session.target
  { output :=
      match format with
      | .json => (verdictDocument session.target violations).pretty ++ "\n"
      | .text => verdictText session.target violations
    failure? := if violations.isEmpty then none else some (.rejected violations) }

end BuildOptions.Report
