import BuildOptions.Text.Decimal

/-! Dates and times of TOML: a date, a time of day, or both with or without an offset.  A second may
be the sixtieth, for leap seconds; fractions count to the nanosecond. -/

namespace BuildOptions.Toml

/-- A day of the Gregorian calendar. -/
structure Date where
  year : Nat
  month : Nat
  day : Nat
deriving DecidableEq, Repr

/-- A time of day. -/
structure Time where
  hour : Nat
  minute : Nat
  second : Nat
  nanosecond : Nat
deriving DecidableEq, Repr

/-- How far a local time is ahead of universal time. -/
inductive Offset where
  | universal
  | minutes (ahead : Int)
deriving DecidableEq, Repr

/-- A date, a time, or both; an offset comes only with both. -/
structure DateTime where
  date? : Option Date
  time? : Option Time
  offset? : Option Offset
deriving DecidableEq, Repr

/-! ### Writing -/

/-- A number in decimal, with zeros in front up to a width. -/
def zeroPadded (width n : Nat) : String :=
  let digits := Nat.toDigits 10 n
  String.ofList (List.replicate (width - digits.length) '0' ++ digits)

/-- The text of a date. -/
def Date.render (date : Date) : String :=
  zeroPadded 4 date.year ++ "-" ++ zeroPadded 2 date.month ++ "-" ++ zeroPadded 2 date.day

/-- The text of a time; a fraction has no zeros at its end, and none is written for a whole
second. -/
def Time.render (time : Time) : String :=
  zeroPadded 2 time.hour ++ ":" ++ zeroPadded 2 time.minute ++ ":" ++ zeroPadded 2 time.second ++
    if time.nanosecond = 0 then ""
    else
      let digits := (zeroPadded 9 time.nanosecond).toList
      String.ofList ('.' :: (digits.reverse.dropWhile (· = '0')).reverse)

/-- The text of an offset. -/
def Offset.render : Offset → String
  | universal => "Z"
  | minutes ahead =>
    (if ahead < 0 then "-" else "+") ++ zeroPadded 2 (ahead.natAbs / 60) ++ ":" ++
      zeroPadded 2 (ahead.natAbs % 60)

/-- The text of a date, a time or both, with a `T` between them. -/
def DateTime.render (moment : DateTime) : String :=
  let date := (moment.date?.map Date.render).getD ""
  let time := (moment.time?.map Time.render).getD ""
  let between := if moment.date?.isSome && moment.time?.isSome then "T" else ""
  date ++ between ++ time ++ (moment.offset?.map Offset.render).getD ""

/-! ### Reading -/

/-- The number of exactly `count` decimal digits, and what follows them. -/
def readFixed (count : Nat) (cs : List Char) : Option (Nat × List Char) :=
  let digits := cs.take count
  if digits.length = count ∧ digits.all Char.isDigit then
    some (Text.decimalValue digits, cs.drop count)
  else none

/-- What follows the character `c`. -/
def readChar (c : Char) : List Char → Option (List Char)
  | d :: rest => if d = c then some rest else none
  | [] => none

/-- The year has a 29th of February. -/
def isLeapYear (year : Nat) : Bool := year % 4 = 0 && (year % 100 ≠ 0 || year % 400 = 0)

/-- The number of days of a month. -/
def daysIn (year month : Nat) : Nat :=
  if month = 2 then (if isLeapYear year then 29 else 28)
  else if month = 4 ∨ month = 6 ∨ month = 9 ∨ month = 11 then 30
  else 31

/-- A date `YYYY-MM-DD` that is in the calendar. -/
def readDate (cs : List Char) : Option (Date × List Char) := do
  let (year, cs) ← readFixed 4 cs
  let cs ← readChar '-' cs
  let (month, cs) ← readFixed 2 cs
  let cs ← readChar '-' cs
  let (day, cs) ← readFixed 2 cs
  if 1 ≤ month ∧ month ≤ 12 ∧ 1 ≤ day ∧ day ≤ daysIn year month then
    some (⟨year, month, day⟩, cs)
  else none

/-- The nanoseconds of a fraction of a second; digits beyond the ninth do not count. -/
def nanoseconds (digits : List Char) : Nat :=
  let kept := digits.take 9
  Text.decimalValue kept * Nat.pow 10 (9 - kept.length)

/-- A fraction of a second, if one follows. -/
def readFraction (cs : List Char) : Nat × List Char :=
  match cs with
  | '.' :: rest =>
    match rest.takeWhile Char.isDigit with
    | [] => (0, cs)
    | digits => (nanoseconds digits, rest.dropWhile Char.isDigit)
  | _ => (0, cs)

/-- A time `HH:MM:SS` with or without a fraction. -/
def readTime (cs : List Char) : Option (Time × List Char) := do
  let (hour, cs) ← readFixed 2 cs
  let cs ← readChar ':' cs
  let (minute, cs) ← readFixed 2 cs
  let cs ← readChar ':' cs
  let (second, cs) ← readFixed 2 cs
  let (nanosecond, cs) := readFraction cs
  if hour ≤ 23 ∧ minute ≤ 59 ∧ second ≤ 60 then
    some (⟨hour, minute, second, nanosecond⟩, cs)
  else none

/-- An offset `Z` or `+HH:MM` or `-HH:MM`, of less than a day. -/
def readOffset : List Char → Option (Offset × List Char)
  | 'Z' :: cs | 'z' :: cs => some (.universal, cs)
  | c :: cs => do
    if c ≠ '+' ∧ c ≠ '-' then none
    let (hour, cs) ← readFixed 2 cs
    let cs ← readChar ':' cs
    let (minute, cs) ← readFixed 2 cs
    let total := hour * 60 + minute
    if hour ≤ 23 ∧ minute ≤ 59 then
      some (.minutes (if c = '-' then -(total : Int) else total), cs)
    else none
  | [] => none

/-- The time after a date, and the offset after the time, as far as they follow. -/
def readClock (date : Date) (cs : List Char) : DateTime × List Char :=
  let alone : DateTime × List Char := (⟨some date, none, none⟩, cs)
  match cs with
  | c :: rest =>
    if c = 'T' ∨ c = 't' ∨ c = ' ' then
      match readTime rest with
      | some (time, rest) =>
        match readOffset rest with
        | some (offset, rest) => (⟨some date, some time, some offset⟩, rest)
        | none => (⟨some date, some time, none⟩, rest)
      | none => alone
    else alone
  | [] => alone

/-- A date with what follows it, or a time of day. -/
def readDateTime (cs : List Char) : Option (DateTime × List Char) :=
  match readDate cs with
  | some (date, rest) => some (readClock date rest)
  | none => (readTime cs).map fun r => (⟨none, some r.1, none⟩, r.2)

/-- The date and time that a whole text stands for. -/
def DateTime.ofText? (text : String) : Option DateTime :=
  match readDateTime text.toList with
  | some (moment, []) => some moment
  | _ => none

end BuildOptions.Toml
