import BuildOptions.Overrides

/-! Configurations: a value for every flag, with the reason why it has that value. -/

namespace BuildOptions

/-- Why a flag has its value. -/
inductive Origin where
  | default
  | explicit
  | bulk
  | implied (rule : String)
  | platform (constraint : String)
deriving DecidableEq, Repr

/-- An origin in words. -/
def Origin.describe : Origin → String
  | default => "default"
  | explicit => "explicit"
  | bulk => "build_all"
  | implied rule => s!"rule {rule}"
  | platform constraint => s!"platform {constraint}"

/-- A value and its origin. -/
structure Setting where
  value : FlagValue
  origin : Origin
deriving DecidableEq, Repr

/-- A setting for each flag. -/
abbrev Settings := NameMap Setting

/-- The flag is a switch that is on. -/
def Settings.isOn (settings : Settings) (name : String) : Bool :=
  match settings.get? name with
  | some setting => setting.value.isOn
  | none => false

/-- The settings that overrides lead to on a target.  What was asked for is kept beside them. -/
structure Configuration where
  target : Target
  settings : Settings
  requested : Overrides

namespace Configuration

/-- The value of a flag. -/
def value? (config : Configuration) (name : String) : Option FlagValue :=
  (config.settings.get? name).map (·.value)

/-- The origin of a flag's value. -/
def origin? (config : Configuration) (name : String) : Option Origin :=
  (config.settings.get? name).map (·.origin)

/-- The flag is a switch that is on. -/
def isOn (config : Configuration) (name : String) : Bool := config.settings.isOn name

/-- The flag was asked to be on. -/
def isRequested (config : Configuration) (name : String) : Bool :=
  match config.requested.get? name with
  | some value => value.isOn
  | none => false

/-- The values of all flags.  They are overrides too: the ones that ask for each value as it is. -/
def values (config : Configuration) : Overrides := config.settings.map (·.value)

@[simp] theorem get?_values (config : Configuration) (name : String) :
    config.values.get? name = config.value? name := by
  simp [values, value?]

/-- Same target and same values, for whatever reasons. -/
def Agrees (a b : Configuration) : Prop := a.target = b.target ∧ a.values = b.values

instance (a b : Configuration) : Decidable (Agrees a b) := inferInstanceAs (Decidable (_ ∧ _))

end Configuration

end BuildOptions
