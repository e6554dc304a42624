import TableSchema.CommandLine.Run

/-!
The program: it reads the files that its arguments name, runs, and writes.
-/

namespace TableSchema.CommandLine

def configurationDirectory : IO String := do
  match ← IO.getEnv "CDC_DDL_CONFIG_DIR" with
  | some directory => if directory ≠ "" then return directory
  | none => pure ()
  return (← IO.getEnv "HOME").getD "" ++ "/.cdc_ddl"

def readFile? (path : String) : IO (Option String) := do
  try
    return some (← IO.FS.readFile path)
  catch _ =>
    return none

/-- What a run can read, as far as its arguments ask for it. -/
def surroundings (arguments : List String) : IO Surroundings := do
  let defaultConfiguration := (← configurationDirectory) ++ "/config.toml"
  match parse? arguments with
  | none => return { defaultConfiguration }
  | some i =>
    let paths := i.paths defaultConfiguration
    let files ← paths.filterMapM fun path => do
      return (← readFile? path).map (path, ·)
    let input ← if paths.contains "-" then (← IO.getStdin).readToEnd else pure ""
    return { files, defaultConfiguration, input }

end TableSchema.CommandLine

open TableSchema.CommandLine in
def main (arguments : List String) : IO UInt32 := do
  let time := toString (← IO.monoMsNow)
  let (output, code) := run time (← surroundings arguments) arguments
  (← IO.getStdout).putStr output.out
  (← IO.getStderr).putStr output.err
  return (code % 256).toNat.toUInt32
