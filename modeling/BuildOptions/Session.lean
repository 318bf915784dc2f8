import BuildOptions.Profile.Basic
import BuildOptions.Resolution
import BuildOptions.Validation

/-! Sessions: what a profile and a command line ask for together.  The command line wins over the
profile, and both over what is assumed when neither says anything. -/

namespace BuildOptions

/-- What is asked for. -/
structure Session where
  overrides : Overrides
  target : Target
  version : String

namespace Session

/-- The overrides with one assignment of the command line made. -/
def assign (catalog : Catalog) (overrides : Overrides) (text : String) : Except Failure Overrides :=
  (overrides.assign catalog text).mapError (.assignment text)

/-- The session of a profile and a command line.  The profile's options are checked first, then the
assignments, then the target.  Where nothing names a target it is the host, and a host that is no
target is a failure only then. -/
def build (catalog : Catalog) (host : Except Failure Target) (profile? : Option Profile)
    (target? : Option String) (assignments : List String) (version? : Option String) :
    Except Failure Session := do
  let ofProfile ←
    match profile? with
    | some profile => profile.overrides catalog
    | none => .ok ∅
  let ofCommandLine ← assignments.foldlM (assign catalog) ∅
  let target ←
    match target?.or (profile?.bind (·.target?)) with
    | some word => (Target.read word).mapError Failure.option
    | none => host
  let version := (version?.or (profile?.bind (·.version?))).getD Version.ofPackage
  return ⟨ofProfile.merge ofCommandLine, target, version⟩

/-- The configuration that a session leads to. -/
def resolve (catalog : Catalog) (session : Session) : Configuration :=
  catalog.resolve session.overrides session.target

/-- The configuration that a session leads to, if nothing is wrong with it. -/
def resolveValid (catalog : Catalog) (session : Session) : Except Failure Configuration :=
  let config := session.resolve catalog
  match catalog.violations config session.target with
  | [] => .ok config
  | violations => .error (.rejected violations)

end Session

end BuildOptions
