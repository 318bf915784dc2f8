import BuildOptions.Catalog.Basic
import BuildOptions.NameMap

/-! Overrides: the values that a user asks for.  A value is checked against the flag's declaration
when it is set; a switch can also be given as a word.  An assignment is a text `name=value`. -/

namespace BuildOptions

/-- Why a value or a target is refused. -/
inductive OptionError where
  | unknownFlag (name : String)
  | wrongKind (flag : String) (expected : FlagKind) (found : String)
  | malformedAssignment (text : String)
  | unknownTarget (name : String)
deriving DecidableEq, Repr

/-- The wording of a refusal. -/
def OptionError.message : OptionError → String
  | unknownFlag name => s!"unknown option: {name}"
  | wrongKind flag expected found =>
    s!"option '{flag}' expects a {expected.name} value, got '{found}'"
  | malformedAssignment text => s!"malformed option assignment '{text}' (expected key=value)"
  | unknownTarget name => s!"unknown target operating system: {name}"

/-- The target that a word stands for, or the refusal that quotes the word as it was given. -/
def Target.read (word : String) : Except OptionError Target :=
  match Target.ofAlias? word with
  | some target => .ok target
  | none => .error (.unknownTarget word)

/-- The value as the flag takes it: a word for a switch is read, all else has to be of the flag's
kind already. -/
def Flag.coerce (flag : Flag) (value : FlagValue) : Except OptionError FlagValue :=
  match flag.kind, value with
  | .switch, .switch on => .ok (.switch on)
  | .switch, .scalar text =>
    match readSwitch text with
    | some on => .ok (.switch on)
    | none => .error (.wrongKind flag.name .switch text)
  | .scalar, .scalar text => .ok (.scalar text)
  | .scalar, .switch on => .error (.wrongKind flag.name .scalar (FlagValue.switch on).render)

/-- What is accepted has the flag's kind. -/
theorem Flag.kind_of_coerce {flag : Flag} {value result : FlagValue}
    (h : flag.coerce value = .ok result) : result.kind = flag.kind := by
  unfold coerce at h
  split at h
  · rename_i hk
    cases h
    exact hk.symm
  · rename_i hk
    split at h
    · cases h
      exact hk.symm
    · cases h
  · rename_i hk
    cases h
    exact hk.symm
  · cases h

/-- The value that setting `name` gives it in a catalog. -/
def Catalog.accept (catalog : Catalog) (name : String) (value : FlagValue) :
    Except OptionError FlagValue :=
  match catalog.flag? name with
  | none => .error (.unknownFlag name)
  | some flag => flag.coerce value

/-- The values that a user asks for, by flag. -/
abbrev Overrides := NameMap FlagValue

namespace Overrides

/-- The overrides with one more value set. -/
def set (catalog : Catalog) (overrides : Overrides) (name : String) (value : FlagValue) :
    Except OptionError Overrides :=
  (catalog.accept name value).map (overrides.insert name)

/-- The characters before and after the first equals sign. -/
def cutAtEquals : List Char → Option (List Char × List Char)
  | [] => none
  | '=' :: rest => some ([], rest)
  | c :: rest => (cutAtEquals rest).map fun parts => (c :: parts.1, parts.2)

/-- The name and the value of an assignment, without the blanks around them. -/
def readAssignment (text : String) : Except OptionError (String × String) :=
  match cutAtEquals text.toList with
  | none => .error (.malformedAssignment text)
  | some (before, after) =>
    match Text.trimChars before with
    | [] => .error (.malformedAssignment text)
    | name => .ok (String.ofList name, String.ofList (Text.trimChars after))

/-- The overrides with one assignment made. -/
def assign (catalog : Catalog) (overrides : Overrides) (text : String) :
    Except OptionError Overrides := do
  let (name, value) ← readAssignment text
  overrides.set catalog name (.scalar value)

/-- The overrides that pairs of names and values make, set from left to right. -/
def ofPairs (catalog : Catalog) (pairs : List (String × FlagValue)) :
    Except OptionError Overrides :=
  pairs.foldlM (fun overrides pair => overrides.set catalog pair.1 pair.2) ∅

end Overrides

end BuildOptions
