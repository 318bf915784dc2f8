import BuildOptions.FlagValue

/-! Declarations of build flags: a name, a default, and for a scalar the rule its text has to obey.
Whether a text is a positive integer is decided on its characters alone, so there is no limit on
the size of the number. -/

namespace BuildOptions

/-- A rule that the text of a scalar has to obey. -/
inductive ScalarRule where
  | positiveInteger
deriving DecidableEq, Repr

namespace ScalarRule

/-- What an accepted text is, for messages. -/
def describe : ScalarRule → String
  | positiveInteger => "a positive integer"

/-- The characters without one plus sign at the start. -/
def dropPlus : List Char → List Char
  | '+' :: rest => rest
  | cs => cs

/-- The characters are decimal digits, and one of them is not zero. -/
def isPositiveNumeral (digits : List Char) : Bool :=
  digits.all Char.isDigit && digits.any (· != '0')

/-- A positive integer is a decimal numeral other than zero, with a plus sign or none and with
blanks around it or none. -/
def accepts : ScalarRule → String → Bool
  | positiveInteger, text => isPositiveNumeral (dropPlus (Text.trimChars text.toList))

end ScalarRule

/-- What a flag may be set to, and what it is by default. -/
inductive FlagShape where
  | switch (initially : Bool)
  | scalar (initially : String) (rule : ScalarRule)
deriving DecidableEq, Repr

/-- The declaration of a build flag. -/
structure Flag where
  name : String
  shape : FlagShape
deriving DecidableEq, Repr

namespace Flag

/-- The kind of values that a flag takes. -/
def kind (flag : Flag) : FlagKind :=
  match flag.shape with
  | .switch _ => .switch
  | .scalar _ _ => .scalar

/-- The flag is a switch. -/
def isSwitch (flag : Flag) : Bool := flag.kind = .switch

/-- The value of a flag that nothing else sets. -/
def default (flag : Flag) : FlagValue :=
  match flag.shape with
  | .switch on => .switch on
  | .scalar text _ => .scalar text

/-- The rule on the text of a scalar flag. -/
def rule? (flag : Flag) : Option ScalarRule :=
  match flag.shape with
  | .switch _ => none
  | .scalar _ rule => some rule

/-- A default is of its flag's kind. -/
theorem kind_default (flag : Flag) : flag.default.kind = flag.kind := by
  unfold default kind
  split <;> rfl

end Flag

end BuildOptions
