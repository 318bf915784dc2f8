import BuildOptions.Catalog.Celix
import BuildOptions.CommandLine.Arguments
import BuildOptions.Profile.Search
import BuildOptions.Report.Build
import BuildOptions.Report.Tables
import BuildOptions.Report.Verdict

/-! Carrying out a command line.  The first fault counts: the format, then the profile, then what
the command needs, then the command itself. -/

namespace BuildOptions.CommandLine

variable {m : Type → Type} [Monad m]

/-- The profile that a command line asks for, or the nearest one. -/
def chooseProfile (files : Files m) (here : Directory) (invocation : Invocation) :
    m (Except Failure (Option Profile)) := do
  if invocation.noProfile then return .ok none
  match invocation.profile? with
  | some path => return (← Profile.load files (.given path)).map some
  | none => return (← Profile.find files here).map fun found => found.map (·.1)

/-- The session of a command line and a profile. -/
def Invocation.session (invocation : Invocation) (host : Except Failure Target)
    (profile? : Option Profile) (version? : Option String) : Except Failure Session :=
  Session.build .celix host profile? invocation.target? invocation.assignments version?

/-- A text, written to a file if one is named and printed otherwise. -/
def deliver (files : Files m) (output? : Option String) (text : String) : m Outcome := do
  match output? with
  | none => return .printed text
  | some path =>
    if ← files.write (.given path) text then return .printed ""
    else return .failed (.unwritable path)

/-- The toolchain of a session in the form that is asked for. -/
def toolchainText (invocation : Invocation) (host : Except Failure Target)
    (profile? : Option Profile) (format : Format) (emit? packageVersion? : Option String) :
    Except Failure String := do
  let emission ← Emission.read format emit?
  let session ← invocation.session host profile? packageVersion?
  Report.toolchain .celix session emission

/-- What a command comes to, once the format and the profile are known. -/
def perform (files : Files m) (host : Except Failure Target) (invocation : Invocation)
    (format : Format) (profile? : Option Profile) : m Outcome := do
  match invocation.command with
  | .flags => return .printed (Report.flags .celix format)
  | .rules check => return Report.rulesOutcome .celix format check
  | .resolve view =>
    return .ofExcept ((invocation.session host profile? none).map fun session =>
      Report.resolution .celix session view format)
  | .validate =>
    match invocation.session host profile? none with
    | .ok session => return Report.verdict .celix session format
    | .error failure => return .failed failure
  | .identity digestOnly =>
    return .ofExcept (do
      Report.identity .celix (← invocation.session host profile? none) format digestOnly)
  | .toolchain emit? packageVersion? output? =>
    match toolchainText invocation host profile? format emit? packageVersion? with
    | .ok text => deliver files output? text
    | .error failure => return .failed failure

/-- What a command line comes to in a working directory of a host. -/
def runOn (host : Except Failure Target) (files : Files m) (here : Directory)
    (invocation : Invocation) : m Outcome := do
  match Format.read invocation.format? with
  | .error failure => return .failed failure
  | .ok format =>
    match ← chooseProfile files here invocation with
    | .error failure => return .failed failure
    | .ok profile? => perform files host invocation format profile?

/-- The host that the program is built for. -/
def builtFor : Target := .linux

/-- What a command line comes to when the program that is built carries it out. -/
def run (files : Files m) (here : Directory) (invocation : Invocation) : m Outcome :=
  runOn (.ok builtFor) files here invocation

end BuildOptions.CommandLine
