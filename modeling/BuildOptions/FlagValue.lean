import BuildOptions.Text.Blank

/-! The values of build flags: a switch is on or off, a scalar is a text. -/

namespace BuildOptions

/-- The two kinds of flags. -/
inductive FlagKind where
  | switch
  | scalar
deriving DecidableEq, Repr

/-- The name of a kind of flag. -/
def FlagKind.name : FlagKind → String
  | switch => "switch"
  | scalar => "scalar"

/-- The value of a flag. -/
inductive FlagValue where
  | switch (on : Bool)
  | scalar (text : String)
deriving DecidableEq, Repr

namespace FlagValue

/-- Only a switch that is on is on; a scalar never is, whatever its text. -/
def isOn : FlagValue → Bool
  | switch on => on
  | scalar _ => false

@[simp] theorem isOn_switch (on : Bool) : (switch on).isOn = on := rfl

@[simp] theorem isOn_scalar (text : String) : (scalar text).isOn = false := rfl

theorem isOn_iff {v : FlagValue} : v.isOn = true ↔ v = switch true := by
  cases v <;> simp

/-- The text of a scalar. -/
def text? : FlagValue → Option String
  | switch _ => none
  | scalar text => some text

/-- The kind of flag that a value belongs to. -/
def kind : FlagValue → FlagKind
  | switch _ => .switch
  | scalar _ => .scalar

/-- A value as text: `true` or `false` for a switch, the text itself for a scalar. -/
def render : FlagValue → String
  | switch true => "true"
  | switch false => "false"
  | scalar text => text

/-- Switches come before scalars, off before on, and scalars in the order of their texts. -/
def compare : FlagValue → FlagValue → Ordering
  | switch a, switch b => Ord.compare a b
  | switch _, scalar _ => .lt
  | scalar _, switch _ => .gt
  | scalar a, scalar b => Ord.compare a b

end FlagValue

/-- The position of a switch that a word stands for, in any case and with blanks around it. -/
def readSwitch (word : String) : Option Bool :=
  match Text.lower (Text.trim word) with
  | "true" | "on" | "1" => some true
  | "false" | "off" | "0" => some false
  | _ => none

end BuildOptions
