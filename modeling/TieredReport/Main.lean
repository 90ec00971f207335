/-
# The program

Reads the files that the command line and the settings name, answers with
`Cli.run`, and prints. Counters go to standard error so that standard output
holds the document alone.
-/
import TieredReport.Cli

namespace TieredReport

/-- The text of a file, if it can be read. -/
def readText? (path : String) : IO (Option String) := do
  try
    return some (← IO.FS.readFile path)
  catch _ =>
    return none

/-- The variables of the environment, where the system lists them. -/
def environment : IO (List (String × String)) := do
  let some listing ← readText? "/proc/self/environ" | return []
  return ((Text.splitOn '\x00' listing.toList).filterMap (Text.cut? '=')).map fun v =>
    (String.ofList v.1, String.ofList v.2)

/-- The files that a command line may need, by name. -/
def candidates (args : List String) (env : List (String × String)) : List String :=
  let stems := Settings.fileStems env
  args.filter (!Cli.isFlag ·) ++ stems ++ stems.map (· ++ ".json")

/-- Print a counter in the text format of a metrics endpoint. -/
def printCounter (counter : String × Nat) : IO Unit :=
  IO.eprintln ("report_engine_" ++ counter.1 ++ " " ++ toString counter.2)

end TieredReport

open TieredReport

/-- Answer the command line. -/
def main (args : List String) : IO UInt32 := do
  let env ← environment
  let files ← (candidates args env).filterMapM fun path => do
    return (← readText? path).map (path, ·)
  match Cli.run args (files.lookup ·) env with
  | .ok success =>
    IO.println success.document.toJson.pretty
    (success.counters.getD []).forM printCounter
    return 0
  | .error failure =>
    failure.report.forM (IO.eprintln ·)
    return 1
