import BuildOptions.CommandLine.Run
import BuildOptions.CommandLine.Usage

/-! The program: the arguments are read and carried out with the files of the machine. -/

namespace BuildOptions.CommandLine

/-- A file is there, whether it can be read or not; a directory is none. -/
def isFileOfMachine (path : String) : IO Bool := do
  try
    let _ ← IO.FS.readBinFile path
    return true
  catch
    | .permissionDenied .. => return true
    | _ => return false

/-- Access to the files of the machine. -/
def machineFiles : Files IO where
  isFile path := isFileOfMachine path.render
  read? path := do
    try return some (← IO.FS.readFile path.render)
    catch _ => return none
  write path text := do
    try
      IO.FS.writeFile path.render text
      return true
    catch _ => return false

/-- The working directory, below the root of the machine's files. -/
def workingDirectory : IO Directory := do
  let path := toString (← IO.currentDir)
  return ⟨"", ((path.splitOn "/").filter (· ≠ "")).reverse⟩

/-- Carries out a command line, prints what it comes to, and gives the exit code. -/
def execute (words : List String) : IO UInt32 := do
  match read words with
  | .error refusal =>
    if refusal.exitCode = 0 then IO.print refusal.message else IO.eprint refusal.message
    return refusal.exitCode
  | .ok invocation =>
    let outcome ← run machineFiles (← workingDirectory) invocation
    IO.print outcome.output
    match outcome.failure? with
    | none => return 0
    | some failure =>
      IO.eprintln s!"error: {failure.message}"
      return 1

end BuildOptions.CommandLine

def main (words : List String) : IO UInt32 := BuildOptions.CommandLine.execute words
