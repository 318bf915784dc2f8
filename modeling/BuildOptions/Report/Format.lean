import BuildOptions.Failure

/-! The forms that reports come in, by the words that ask for them. -/

namespace BuildOptions

/-- The form of a report. -/
inductive Format where
  | text
  | json
deriving DecidableEq, Repr

/-- The form that a word asks for; text if nothing does. -/
def Format.read : Option String → Except Failure Format
  | none | some "text" | some "human" => .ok .text
  | some "json" => .ok .json
  | some word => .error (.unknownFormat word)

/-- The form of what is handed to the build around it. -/
inductive Emission where
  | text
  | json
  | cacheScript
deriving DecidableEq, Repr

/-- The form that a word asks for; that of reports if nothing does. -/
def Emission.read (format : Format) : Option String → Except Failure Emission
  | none =>
    match format with
    | .text => .ok .text
    | .json => .ok .json
  | some "text" => .ok .text
  | some "json" => .ok .json
  | some "cmake" => .ok .cacheScript
  | some word => .error (.unknownEmission word)

end BuildOptions
