import BuildOptions.Toml.Value
import BuildOptions.Validation
import BuildOptions.Version

/-! What can go wrong while a request is carried out, and what a request comes to: the text that it
prints, and a failure or none. -/

namespace BuildOptions

/-- Why a request fails. -/
inductive Failure where
  | option (error : OptionError)
  | assignment (text : String) (error : OptionError)
  | unsupportedValue (name : String) (kind : Toml.Kind)
  | version (error : Version.Error)
  | rejected (violations : List Violation)
  | hazards (count : Nat)
  | unknownFormat (word : String)
  | unknownEmission (word : String)
  | unreadable (path : String)
  | malformedProfile (path : String)
  | unwritable (path : String)
deriving DecidableEq, Repr

/-- The wording of a failure, with what caused it behind a colon. -/
def Failure.message : Failure → String
  | option error => error.message
  | assignment text error => s!"in option '{text}': {error.message}"
  | unsupportedValue name kind =>
    s!"option '{name}' has unsupported {kind.name} value in celix.toml"
  | version error => s!"{error.message}: {error.problem.message}"
  | rejected violations => Violation.rejection violations
  | hazards count => s!"{Text.decimal count} rule order hazard(s)"
  | unknownFormat word => s!"unknown format: '{word}' (expected text or json)"
  | unknownEmission word => s!"unknown emit mode: '{word}' (expected text, json or cmake)"
  | unreadable path => s!"reading {path}"
  | malformedProfile path => s!"parsing {path}"
  | unwritable path => s!"writing {path}"

/-- What a request comes to. -/
structure Outcome where
  output : String
  failure? : Option Failure

namespace Outcome

/-- A request that prints a text. -/
def printed (text : String) : Outcome := ⟨text, none⟩

/-- A request that fails and prints nothing. -/
def failed (failure : Failure) : Outcome := ⟨"", some failure⟩

/-- A request that prints a text unless a failure comes before it. -/
def ofExcept : Except Failure String → Outcome
  | .ok text => printed text
  | .error failure => failed failure

/-- The exit code of a request. -/
def exitCode (outcome : Outcome) : Nat := if outcome.failure?.isSome then 1 else 0

end Outcome

end BuildOptions
