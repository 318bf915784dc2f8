import BuildOptions.Text.Blank
import BuildOptions.Text.Decimal
import BuildOptions.Text.Quoted

/-! Package versions `MAJOR.MINOR.PATCH`, with a pre-release `-PRE` and build metadata `+BUILD` or
without.  A version is read from left to right and the first problem is reported.  Only the three
numbers are kept. -/

namespace BuildOptions

/-- The numbers of a package version. -/
structure Version where
  major : UInt64
  minor : UInt64
  micro : UInt64
deriving DecidableEq, Repr

namespace Version

/-- The parts of a version. -/
inductive Part where
  | major
  | minor
  | patch
  | preRelease
  | build
deriving DecidableEq, Repr

/-- A part as messages name it. -/
def Part.describe : Part → String
  | major => "major version number"
  | minor => "minor version number"
  | patch => "patch version number"
  | preRelease => "pre-release identifier"
  | build => "build metadata"

/-- What can be wrong with a version. -/
inductive Problem where
  | empty
  | unexpectedEnd (part : Part)
  | unexpectedIn (part : Part) (c : Char)
  | unexpectedAfter (part : Part) (c : Char)
  | leadingZero (part : Part)
  | overflow (part : Part)
  | emptySegment (part : Part)
deriving DecidableEq, Repr

/-- The wording of a problem. -/
def Problem.message : Problem → String
  | empty => "empty string, expected a semver version"
  | unexpectedEnd part => s!"unexpected end of input while parsing {part.describe}"
  | unexpectedIn part c =>
    s!"unexpected character {Text.quotedChar c} while parsing {part.describe}"
  | unexpectedAfter part c => s!"unexpected character {Text.quotedChar c} after {part.describe}"
  | leadingZero part => s!"invalid leading zero in {part.describe}"
  | overflow part => s!"value of {part.describe} exceeds u64::MAX"
  | emptySegment part => s!"empty identifier segment in {part.describe}"

/-- A text that is no version, as it was given, and the problem with it. -/
structure Error where
  input : String
  problem : Problem
deriving DecidableEq, Repr

/-- The wording of an error. -/
def Error.message (error : Error) : String :=
  s!"invalid package version '{error.input}': {error.problem.message}"

/-- A number: decimal digits that start with a zero only if it is the only one, and denote at most
2^64 - 1. -/
def readNumber (part : Part) (cs : List Char) : Except Problem (UInt64 × List Char) :=
  match cs.takeWhile Char.isDigit, cs.dropWhile Char.isDigit with
  | [], [] => .error (.unexpectedEnd part)
  | [], c :: _ => .error (.unexpectedIn part c)
  | digits, rest =>
    if digits.head? = some '0' ∧ 1 < digits.length then .error (.leadingZero part)
    else if UInt64.size ≤ Text.decimalValue digits then .error (.overflow part)
    else .ok (UInt64.ofNat (Text.decimalValue digits), rest)

/-- What follows the dot after a number. -/
def readDot (part : Part) : List Char → Except Problem (List Char)
  | '.' :: rest => .ok rest
  | c :: _ => .error (.unexpectedAfter part c)
  | [] => .error (.unexpectedEnd part)

/-- A letter, a digit or a hyphen. -/
def isSegmentChar (c : Char) : Bool := c.isAlphanum || c = '-'

/-- The segment is written with a zero that its number does not need. -/
def hasLeadingZero (segment : List Char) : Bool :=
  segment.all Char.isDigit && segment.head? = some '0' && 1 < segment.length

/-- What follows the segments that start here.  A pre-release has no numbers with a leading zero. -/
def readSegments (part : Part) (cs : List Char) : Except Problem (List Char) :=
  let segment := cs.takeWhile isSegmentChar
  if segment.isEmpty then .error (.emptySegment part)
  else if part = .preRelease ∧ hasLeadingZero segment then .error (.leadingZero part)
  else
    match _h : cs.dropWhile isSegmentChar with
    | '.' :: rest => readSegments part rest
    | rest => .ok rest
termination_by cs.length
decreasing_by
  have := (List.dropWhile_sublist isSegmentChar (l := cs)).length_le
  simp only [_h, List.length_cons] at this
  omega

/-- The part read last and what follows it, where the part `part` may start with `mark`. -/
def readSuffix (mark : Char) (part last : Part) :
    List Char → Except Problem (Part × List Char)
  | [] => .ok (last, [])
  | c :: rest =>
    if c = mark then (readSegments part rest).map ((part, ·)) else .ok (last, c :: rest)

/-- A version without blanks around it. -/
def readChars (cs : List Char) : Except Problem Version := do
  if cs.isEmpty then throw .empty
  let (major, cs) ← readNumber .major cs
  let cs ← readDot .major cs
  let (minor, cs) ← readNumber .minor cs
  let cs ← readDot .minor cs
  let (micro, cs) ← readNumber .patch cs
  let (last, cs) ← readSuffix '-' .preRelease .patch cs
  let (last, cs) ← readSuffix '+' .build last cs
  match cs with
  | [] => return ⟨major, minor, micro⟩
  | c :: _ => throw (.unexpectedAfter last c)

/-- The numbers of the version that a text stands for. -/
def read (text : String) : Except Error Version :=
  (readChars (Text.trimChars text.toList)).mapError fun problem => ⟨text, problem⟩

/-- The version of a package that nothing names a version for. -/
def ofPackage : String := "2.3.0"

/-- The variables that export a version, with their values in decimal. -/
def exported (version : Version) : List (String × String) :=
  [("CELIX_MAJOR", Text.decimal version.major.toNat),
    ("CELIX_MINOR", Text.decimal version.minor.toNat),
    ("CELIX_MICRO", Text.decimal version.micro.toNat)]

end Version

end BuildOptions
