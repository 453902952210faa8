import ReceiptTemplate.CommandLine.Program

/-!
# Main — the program as it is started

Reads the variables of the environment and the files that arguments name, and prints the outcome.
-/

open ReceiptTemplate

/-- The environment variables that set something. -/
def readVariables : IO (Entries String) := do
  let names :=
    [Settings.localeVariable, Settings.logLevelVariable, Settings.lengthVariable,
     Settings.depthVariable, Settings.cacheVariable]
  names.filterMapM fun name => do
    return (← IO.getEnv name).map fun value => (name, value)

/-- What a path names, if it names anything. -/
def readEntry? (path : String) : IO (Option CommandLine.FileEntry) := do
  try
    return some (.text (← IO.FS.readFile path))
  catch
    | .inappropriateType .. => return some .directory
    | _ => return none

/-- The files that arguments may name, after an equals sign or without one. -/
def readFiles (arguments : List String) : IO (Entries CommandLine.FileEntry) := do
  let paths := arguments ++ arguments.filterMap fun a => (CommandLine.cutValue a).2
  paths.filterMapM fun path => do
    return (← readEntry? path).map fun entry => (CommandLine.Path.simplest path, entry)

def main (arguments : List String) : IO UInt32 := do
  let call : CommandLine.Call := ⟨arguments, ← readVariables, ← readFiles arguments⟩
  let outcome := CommandLine.run call
  IO.print outcome.output
  IO.eprint outcome.errors
  return outcome.exitCode.toUInt32
