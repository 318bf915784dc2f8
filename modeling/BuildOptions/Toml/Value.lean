import BuildOptions.Toml.DateTime

/-! The values of TOML documents.  A floating-point number is kept as its numeral. -/

namespace BuildOptions.Toml

/-- The kinds of values. -/
inductive Kind where
  | string
  | integer
  | float
  | boolean
  | datetime
  | array
  | table
deriving DecidableEq, Repr

/-- The name of a kind. -/
def Kind.name : Kind → String
  | string => "string"
  | integer => "integer"
  | float => "float"
  | boolean => "boolean"
  | datetime => "datetime"
  | array => "array"
  | table => "table"

/-- A value.  The entries of a table are in the order of the document. -/
inductive Value where
  | string (text : String)
  | integer (value : Int)
  | float (numeral : String)
  | boolean (value : Bool)
  | datetime (moment : DateTime)
  | array (items : List Value)
  | table (entries : List (String × Value))
deriving Repr

namespace Value

/-- The kind of a value. -/
def kind : Value → Kind
  | string _ => .string
  | integer _ => .integer
  | float _ => .float
  | boolean _ => .boolean
  | datetime _ => .datetime
  | array _ => .array
  | table _ => .table

/-- The key under which a date and time stands where a table is expected. -/
def momentKey : String := "$__toml_private_datetime"

/-- The entries of a value that is read as a table: a date and time is the table with its text under
the reserved key. -/
def entries? : Value → Option (List (String × Value))
  | table entries => some entries
  | datetime moment => some [(momentKey, string moment.render)]
  | _ => none

mutual

/-- The value with every table that begins with the reserved key in place of the date and time that
it stands for. -/
def withMoments : Value → Option Value
  | array items => (itemsWithMoments items).map array
  | table ((key, value) :: rest) =>
    if key = momentKey then
      match value with
      | string text => (DateTime.ofText? text).map datetime
      | _ => none
    else do
      let value ← value.withMoments
      let rest ← entriesWithMoments rest
      some (table ((key, value) :: rest))
  | value => some value

/-- Every item, with its dates and times in place. -/
def itemsWithMoments : List Value → Option (List Value)
  | [] => some []
  | item :: rest => do
    let item ← item.withMoments
    let rest ← itemsWithMoments rest
    some (item :: rest)

/-- Every entry, with its dates and times in place. -/
def entriesWithMoments : List (String × Value) → Option (List (String × Value))
  | [] => some []
  | (key, value) :: rest => do
    let value ← value.withMoments
    let rest ← entriesWithMoments rest
    some ((key, value) :: rest)

end

end Value

end BuildOptions.Toml
