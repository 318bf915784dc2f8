import BuildOptions.CommandLine.Arguments

/-! What the command line says when it is asked for help, and when it refuses its arguments. -/

namespace BuildOptions.CommandLine

/-- What the commands and options are. -/
def usage : String :=
  "Usage: celix-conf [OPTIONS] <COMMAND>\n\n" ++
  "Commands: flags, rules, resolve, validate, identity, toolchain, help\n\n" ++
  "Options:\n" ++
  "      --target <TARGET>      the operating system to build for\n" ++
  "      --profile <PROFILE>    the profile to read\n" ++
  "      --no-profile           read no profile\n" ++
  "  -o, --option <NAME=VALUE>  set an option\n" ++
  "      --format <FORMAT>      text or json\n" ++
  "  -h, --help                 print this text\n" ++
  "  -V, --version              print the version\n"

/-- The wording of a refusal, for help and version the text that is asked for. -/
def Refusal.message : Refusal → String
  | helpAsked | nothingGiven => usage
  | versionAsked => "celix-conf " ++ Version.ofPackage ++ "\n"
  | commandMissing => "error: a command is missing\n\n" ++ usage
  | unknownCommand word => s!"error: unknown command '{word}'\n\n" ++ usage
  | unknownArgument word => s!"error: unexpected argument '{word}'\n\n" ++ usage
  | invalidValue key => s!"error: a value is required for '--{key.word}'\n\n" ++ usage
  | givenTwice key => s!"error: '--{key.word}' cannot be used multiple times\n\n" ++ usage
  | unexpectedValue word => s!"error: unexpected value in '{word}'\n\n" ++ usage

/-- The exit code of a refusal: none of failure for what is asked for. -/
def Refusal.exitCode : Refusal → UInt32
  | helpAsked | versionAsked => 0
  | _ => 2

end BuildOptions.CommandLine
