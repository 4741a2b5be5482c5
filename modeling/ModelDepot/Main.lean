import ModelDepot.Rehearsal.Invocation
import Std.Time.DateTime.Timestamp

/-!
The program. A run keeps its database in memory and reaches no remote authority, so a service that
waits has nothing more to do and is stopped.
-/
namespace ModelDepot.Main

/-- The variables of the environment that a run looks at. -/
def variableNames : List String :=
  "PMR_CONFIG" :: Settings.Override.commandLog.envName :: Settings.Override.all.map (·.envName)

def environment : IO (String → Option String) := do
  let found ← variableNames.filterMapM fun name => do
    return (← IO.getEnv name).map (name, ·)
  return fun name => found.lookup name

/-- The working directory with the file of the settings, if there is one. -/
def files (args : List String) (env : String → Option String) : IO Rehearsal.Files := do
  let files := Rehearsal.Files.empty (← IO.currentDir).toString
  match CommandLine.parse args env with
  | .run _ (some path) =>
    try return files.write path (← IO.FS.readBinFile path).data.toList
    catch _ => return files
  | _ => return files

/-- Appends the events to the log file, where the log has a directory. -/
def writeLog (report : Rehearsal.Report) : IO Unit := do
  match report.logging with
  | some { destination := .directory path, .. } =>
    IO.FS.createDirAll path
    let file ← IO.FS.Handle.mk (path ++ "/procmodel.log") .append
    for event in report.events do file.putStrLn event.line
  | _ => return

def run (args : List String) : IO UInt32 := do
  let env ← environment
  let now ← Std.Time.Timestamp.now
  let invocation : Rehearsal.Invocation :=
    { args := args
      env := env
      files := ← files args env
      clock := Int64.ofInt now.toSecondsSinceUnixEpoch.val }
  let report := invocation.run
  IO.print report.ending.output
  for line in report.errorLines do IO.eprintln line
  writeLog report
  return UInt32.ofNat report.ending.code

end ModelDepot.Main

def main (args : List String) : IO UInt32 := ModelDepot.Main.run args
