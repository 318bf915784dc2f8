import BuildOptions.Report.Resolution

/-! The grammar of the command line.  Options stand before the command or after it; those that every
command has may stand on either side, and what is given after the command replaces what is given
before it.  An option waits for its value until the next word that is none, and is settled when the
next option begins or the words of its side end: only then is it found out that the value is missing
or that the option was given before. -/

namespace BuildOptions.CommandLine

/-- The options of the command line. -/
inductive Key where
  | target
  | profile
  | noProfile
  | assignment
  | format
  | check
  | explain
  | changed
  | allTargets
  | digest
  | emit
  | packageVersion
  | output
deriving DecidableEq, Repr

/-- What an option takes: nothing, a text, a path, which is not empty, or a text each time that it
is given. -/
inductive Taking where
  | nothing
  | text
  | path
  | texts
deriving DecidableEq, Repr

namespace Key

/-- The word after the two hyphens of an option. -/
def word : Key → String
  | target => "target"
  | profile => "profile"
  | noProfile => "no-profile"
  | assignment => "option"
  | format => "format"
  | check => "check"
  | explain => "explain"
  | changed => "changed"
  | allTargets => "all-targets"
  | digest => "digest"
  | emit => "emit"
  | packageVersion => "package-version"
  | output => "output"

/-- What an option takes. -/
def taking : Key → Taking
  | noProfile | check | explain | changed | allTargets | digest => .nothing
  | target | format | emit | packageVersion => .text
  | profile | output => .path
  | assignment => .texts

/-- The options that every command has. -/
def shared : List Key := [target, profile, noProfile, assignment, format]

end Key

/-- The commands by name. -/
inductive CommandName where
  | flags
  | rules
  | resolve
  | validate
  | identity
  | toolchain
deriving DecidableEq, Repr

namespace CommandName

/-- Every command. -/
def all : List CommandName := [flags, rules, resolve, validate, identity, toolchain]

/-- The word that calls a command. -/
def word : CommandName → String
  | flags => "flags"
  | rules => "rules"
  | resolve => "resolve"
  | validate => "validate"
  | identity => "identity"
  | toolchain => "toolchain"

/-- The command that a word calls. -/
def ofWord? (s : String) : Option CommandName := all.find? (·.word = s)

/-- The options that only this command has. -/
def keys : CommandName → List Key
  | flags | validate => []
  | rules => [.check]
  | resolve => [.explain, .changed, .allTargets]
  | identity => [.digest]
  | toolchain => [.emit, .packageVersion, .output]

end CommandName

/-- Why a command line is not carried out. -/
inductive Refusal where
  | helpAsked
  | versionAsked
  | nothingGiven
  | commandMissing
  | unknownCommand (word : String)
  | unknownArgument (word : String)
  | invalidValue (key : Key)
  | givenTwice (key : Key)
  | unexpectedValue (word : String)
deriving DecidableEq, Repr

/-- The word that asks for help on commands. -/
def helpWord : String := "help"

/-- One side of the command: which of the options can be given, and whether the command is still to
come. -/
structure Side where
  keys : List Key
  beforeCommand : Bool

/-- Before the command, the shared options can be given. -/
def Side.before : Side := ⟨Key.shared, true⟩

/-- After the command, its own options can be given too. -/
def Side.after (name : CommandName) : Side := ⟨Key.shared ++ name.keys, false⟩

/-- Options with their values, in the order in which they were settled. -/
abbrev Given := List (Key × String)

/-- What is read of one side: the settled options, and the one that is not settled yet, with its
value or still without. -/
structure Progress where
  given : Given
  pending : Option (Key × Option String)

namespace Progress

/-- Nothing is read. -/
def none : Progress := ⟨[], .none⟩

/-- The progress with an option settled. -/
def record (progress : Progress) (key : Key) (value : String) : Except Refusal Progress :=
  if key.taking ≠ .texts ∧ progress.given.any (·.1 = key) then .error (.givenTwice key)
  else if key.taking = .path ∧ value = "" then .error (.invalidValue key)
  else .ok ⟨progress.given ++ [(key, value)], .none⟩

/-- The progress with the pending option settled. -/
def settle (progress : Progress) : Except Refusal Progress :=
  match progress.pending with
  | .none => .ok progress
  | some (key, .none) => .error (.invalidValue key)
  | some (key, some value) => progress.record key value

/-- The option that still waits for its value. -/
def waiting? (progress : Progress) : Option Key :=
  match progress.pending with
  | some (key, .none) => some key
  | _ => .none

/-- The progress after an option, with the value that is attached to it or without. -/
def give (progress : Progress) (key : Key) (attached : Option String) :
    Except Refusal Progress := do
  let progress ← progress.settle
  match attached with
  | some value => progress.record key value
  | .none =>
    if key.taking = .nothing then progress.record key ""
    else return { progress with pending := some (key, .none) }

/-- Settling, and then the refusal. -/
def refuse (progress : Progress) (refusal : Refusal) : Except Refusal Progress := do
  let _ ← progress.settle
  throw refusal

end Progress

/-- A word after its hyphens, cut at the first equals sign. -/
def cutValue (cs : List Char) : String × Option String :=
  match Overrides.cutAtEquals cs with
  | some (name, value) => (String.ofList name, some (String.ofList value))
  | none => (String.ofList cs, none)

/-- The progress after a word with two hyphens. -/
def readLong (side : Side) (progress : Progress) (cs : List Char) : Except Refusal Progress :=
  let (name, value) := cutValue cs
  let whole := "--" ++ String.ofList cs
  if name = "help" ∨ (side.beforeCommand ∧ name = "version") then
    if value.isSome then .error (.unexpectedValue whole)
    else progress.refuse (if name = "help" then .helpAsked else .versionAsked)
  else
    match side.keys.find? (·.word = name) with
    | none => .error (.unknownArgument whole)
    | some key =>
      if key.taking = .nothing ∧ value.isSome then .error (.unexpectedValue whole)
      else progress.give key value

/-- A value that is attached to a one-letter option, without the equals sign before it. -/
def attachedValue : List Char → Option String
  | [] => none
  | '=' :: value => some (String.ofList value)
  | value => some (String.ofList value)

/-- The progress after a word with one hyphen. -/
def readShort (side : Side) (progress : Progress) (letter : Char) (rest : List Char) :
    Except Refusal Progress :=
  if letter = 'h' then progress.refuse .helpAsked
  else if letter = 'V' ∧ side.beforeCommand then progress.refuse .versionAsked
  else if letter = 'o' then progress.give .assignment (attachedValue rest)
  else .error (.unknownArgument (String.ofList ('-' :: letter :: rest)))

/-- The refusal of a word that is no option and no value. -/
def Side.refusalOf (side : Side) (word : String) : Refusal :=
  if side.beforeCommand then .unknownCommand word else .unknownArgument word

/-- The refusal of a word after a pair of hyphens: options and commands cannot stand there. -/
def Side.refusalAfterHyphens (side : Side) (word : String) : Refusal :=
  if (CommandName.ofWord? word).isSome ∨ word = helpWord then .unknownArgument word
  else side.refusalOf word

/-- What help is asked on: a command at most. -/
def helpRefusal : List String → Refusal
  | [] => .helpAsked
  | [word] =>
    if (CommandName.ofWord? word).isSome ∨ word = helpWord then .helpAsked else .unknownCommand word
  | word :: next :: _ =>
    if (CommandName.ofWord? word).isSome ∨ word = helpWord then .unknownCommand next
    else .unknownCommand word

/-- The words of one side: what they give, and the command with the words after it, if one comes. -/
def readSide (side : Side) (progress : Progress) :
    List String → Except Refusal (Progress × Option (CommandName × List String))
  | [] => .ok (progress, none)
  | word :: rest =>
    let command? :=
      if side.beforeCommand ∧ progress.waiting?.isNone then CommandName.ofWord? word else none
    match command? with
    | some name => .ok (progress, some (name, rest))
    | none =>
      if side.beforeCommand ∧ progress.waiting?.isNone ∧ word = helpWord then
        .error (helpRefusal rest)
      else
        match word.toList with
        | ['-', '-'] =>
          match rest with
          | [] => .ok (progress, none)
          | next :: _ => .error (side.refusalAfterHyphens next)
        | '-' :: '-' :: cs => do readSide side (← readLong side progress cs) rest
        | '-' :: letter :: cs => do readSide side (← readShort side progress letter cs) rest
        | _ =>
          match progress.waiting? with
          | some key =>
            readSide side { progress with pending := some (key, some word) } rest
          | none => .error (side.refusalOf word)

/-- The value of an option that is given once: after the command, else before it. -/
def value? (before after : Given) (key : Key) : Option String :=
  (after.lookup key).or (before.lookup key)

/-- The option is given on either side. -/
def isGiven (before after : Given) (key : Key) : Bool := (value? before after key).isSome

/-- The values of an option that can be given more than once: those after the command, else those
before it. -/
def values (before after : Given) (key : Key) : List String :=
  let valuesOf (given : Given) := (given.filter (·.1 = key)).map (·.2)
  if after.any (·.1 = key) then valuesOf after else valuesOf before

/-- What a command is asked to do. -/
inductive Command where
  | flags
  | rules (check : Bool)
  | resolve (view : View)
  | validate
  | identity (digestOnly : Bool)
  | toolchain (emit? packageVersion? output? : Option String)
deriving DecidableEq, Repr

/-- A command line that can be carried out. -/
structure Invocation where
  target? : Option String
  profile? : Option String
  noProfile : Bool
  assignments : List String
  format? : Option String
  command : Command
deriving DecidableEq, Repr

/-- The command with the options after it. -/
def Command.of (name : CommandName) (given : Given) : Command :=
  let has (key : Key) := given.any (·.1 = key)
  match name with
  | .flags => .flags
  | .rules => .rules (has .check)
  | .resolve => .resolve ⟨has .explain, has .changed, has .allTargets⟩
  | .validate => .validate
  | .identity => .identity (has .digest)
  | .toolchain =>
    .toolchain (given.lookup .emit) (given.lookup .packageVersion) (given.lookup .output)

/-- What a command line asks for, or why it is refused. -/
def read (words : List String) : Except Refusal Invocation := do
  let (before, command?) ← readSide .before .none words
  match command? with
  | none =>
    let before ← before.settle
    throw (if before.given.isEmpty then .nothingGiven else .commandMissing)
  | some (name, rest) =>
    let (after, _) ← readSide (.after name) .none rest
    let after := (← after.settle).given
    let before := (← before.settle).given
    return {
      target? := value? before after .target
      profile? := value? before after .profile
      noProfile := isGiven before after .noProfile
      assignments := values before after .assignment
      format? := value? before after .format
      command := .of name after }

end BuildOptions.CommandLine
