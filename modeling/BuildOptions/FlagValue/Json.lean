import BuildOptions.FlagValue
import BuildOptions.Json.Printer
import BuildOptions.Json.Reader
import BuildOptions.Target

/-! Flag values and targets as JSON: a switch is a Boolean and a scalar a string, so a value's kind
is kept.  A target is a string with its name, or an object whose one member has that name and no
value. -/

namespace BuildOptions

namespace FlagValue

/-- A value as a JSON document. -/
def toJson : FlagValue → Json
  | switch on => .bool on
  | scalar text => .string text

/-- A value, and what follows it. -/
def readJson (cs : List Char) : Option (FlagValue × List Char) :=
  match cs with
  | '"' :: _ => (Json.readString cs).map fun r => (scalar r.1, r.2)
  | 't' :: _ => (Json.expect "true".toList cs).map fun rest => (switch true, rest)
  | 'f' :: _ => (Json.expect "false".toList cs).map fun rest => (switch false, rest)
  | _ => none

/-- The value that a JSON text stands for.  Only Booleans and strings are values. -/
def ofJsonText? (text : String) : Option FlagValue := Json.readAll readJson text

end FlagValue

namespace Target

/-- A target as a JSON document. -/
def toJson (target : Target) : Json := .string target.name

/-- A target, and what follows it. -/
def readJson : List Char → Option (Target × List Char)
  | '\x7b' :: cs => do
    let (name, rest) ← Json.readString (Json.skipSpace cs)
    let target ← ofName? name
    let rest ← Json.expect [':'] (Json.skipSpace rest)
    let rest ← Json.expect "null".toList (Json.skipSpace rest)
    let rest ← Json.expect ['\x7d'] (Json.skipSpace rest)
    some (target, rest)
  | cs => do
    let (name, rest) ← Json.readString cs
    let target ← ofName? name
    some (target, rest)

/-- The target that a JSON text stands for. -/
def ofJsonText? (text : String) : Option Target := Json.readAll readJson text

end Target

end BuildOptions
