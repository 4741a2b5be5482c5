import ModelDepot.Settings.Override
import ModelDepot.Logging
import ModelDepot.Service

/-!
The command line: which job the arguments ask for, and what is printed and reported of it.
-/
namespace ModelDepot

namespace CommandLine

/-- What the program can be run for. -/
inductive Job where
  | serve
  | cleanup
  | backfill
  | config
  deriving DecidableEq, Repr

def programName : String := "procmodel"
def version : String := "0.1.0"

def jobs : List (String × Job) :=
  [("serve", .serve), ("cleanup", .cleanup), ("backfill", .backfill), ("config", .config)]

def describe : Job → String
  | .serve => "Run consumers and the cleanup loop until interrupted (default)"
  | .cleanup => "Run a single reconciliation pass and exit"
  | .backfill => "Seed owner grants for documents the authority does not know, then exit"
  | .config => "Print the effective configuration as JSON"

/-- What the arguments ask for. -/
inductive Asked where
  | run (job : Job) (configFile : Option String)
  | showVersion
  | showHelp
  | showJobHelp (name : String) (job : Job)
  | showHelpHelp
  | usageError
  deriving DecidableEq, Repr

/-- The arguments behind a job, which takes none but the request for help. Flags of one letter may
    be joined, of which the first one decides; two dashes end the flags. -/
def parseJob (name : String) (job : Job) (file : Option String) : List String → Asked
  | [] | ["--"] => .run job file
  | arg :: _ =>
    if arg.startsWith "-h" || arg = "--help" then .showJobHelp name job else .usageError

/-- The arguments behind the word for help. -/
def parseHelp : List String → Asked
  | [] => .showHelp
  | [name] =>
    match jobs.lookup name with
    | some job => .showJobHelp name job
    | none => if name = "help" then .showHelpHelp else .usageError
  | _ => .usageError

/-- The arguments from the first one that is not yet read; the file of the settings stands before
    the job. -/
def parseFrom (file : Option String) : List String → Asked
  | [] | ["--"] => .run .serve file
  | "--config" :: rest =>
    match rest with
    | [] => .usageError
    | value :: rest =>
      if file.isSome || value = "" || (value.startsWith "-" && value ≠ "-") then .usageError
      else parseFrom (some value) rest
  | arg :: rest =>
    if arg.startsWith "-V" || arg = "--version" then .showVersion
    else if arg.startsWith "-h" || arg = "--help" then .showHelp
    else if arg.startsWith "--config=" then
      let value := String.ofList (arg.toList.drop "--config=".length)
      if file.isSome || value = "" then .usageError else parseFrom (some value) rest
    else if arg = "help" then parseHelp rest
    else
      match jobs.lookup arg with
      | some job => parseJob arg job file rest
      | none => .usageError

/-- The request of the arguments; the environment names the file of the settings when they do
    not. -/
def parse (args : List String) (env : String → Option String) : Asked :=
  match parseFrom none args with
  | .run job none =>
    match env "PMR_CONFIG" with
    | none => .run job none
    | some file => if file = "" then .usageError else .run job (some file)
  | request => request

def padded (width : Nat) (text : String) : String :=
  text ++ String.ofList (List.replicate (width - text.length) ' ')

def helpText (env : String → Option String) : String :=
  let rows := jobs.map (fun t => (t.1, describe t.2)) ++
    [("help", "Print this message or the help of the given subcommand(s)")]
  "Process model repository service\n\nUsage: " ++ programName ++
    " [OPTIONS] [COMMAND]\n\nCommands:\n" ++
    String.join (rows.map fun r => "  " ++ padded 10 r.1 ++ r.2 ++ "\n") ++
    "\nOptions:\n      --config <CONFIG>  JSON config file; `PMR_*` environment variables " ++
    "override its fields [env: PMR_CONFIG=" ++ (env "PMR_CONFIG").getD "" ++ "]\n" ++
    "  -h, --help             Print help\n  -V, --version          Print version\n"

def jobHelpText (name : String) (job : Job) : String :=
  describe job ++ "\n\nUsage: " ++ programName ++ " " ++ name ++
    "\n\nOptions:\n  -h, --help  Print help\n"

def helpHelpText : String :=
  "Print this message or the help of the given subcommand(s)\n\nUsage: " ++ programName ++
    " help [COMMAND]...\n\nArguments:\n  [COMMAND]...  Print help for the subcommand(s)\n"

/-- A text of members, one on a line. -/
def prettyMembers (members : List (String × String)) : String :=
  "\x7b\n" ++ ",\n".intercalate (members.map fun m =>
    "  " ++ Json.printText m.1 ++ ": " ++ m.2) ++ "\n\x7d"

/-- The settings, one on a line. -/
def prettySettings (settings : Settings) : String := prettyMembers (Settings.shape.printed settings)

/-- The end of a run. -/
structure Ending where
  code : Nat
  output : String := ""
  /-- What is printed on the standard error by itself. -/
  complaint : Option String := none
  deriving DecidableEq, Repr

def complain (problem : String) : Ending :=
  { code := 1, complaint := some (programName ++ ": " ++ problem) }

/-- What is reported before a run ends with a failure. -/
def exitEvent (problem : String) : Event :=
  ⟨.error, "cli_exit", "cli", "error", [("error", problem)]⟩

def needsRemote : String :=
  "cleanup needs a remote permission authority; " ++
    "the in-memory one holds no grants in a one-shot run"

/-- What is printed when a job ends well. -/
def cleanupText (report : CleanupReport) : String :=
  "permissions_removed=" ++ toString report.permissionsRemoved ++ " documents_removed=" ++
    toString report.documentsRemoved ++ "\n"

def backfillText (report : BackfillReport) : String :=
  "scanned=" ++ toString report.scanned ++ " granted=" ++ toString report.granted ++ "\n"

/-- The work of a job once everything is open: what is printed, or why it failed. -/
def work (settings : Settings) : Job → Program String String
  | .cleanup =>
    if settings.usesLocalAuthority then Program.fail needsRemote
    else do
      let report ← (Service.cleanup settings).pass.mapError (·.message)
      return cleanupText report
  | .backfill => do
    let report ← (Backfill.run settings.processTopic).mapError (·.message)
    return backfillText report
  | .serve => do
    (Service.start settings).mapError (·.message)
    return ""
  | .config => pure (prettySettings settings ++ "\n")

/-- The end of a run after its work; a failure is reported. -/
def conclude : Except String String → Ending × List Event
  | .ok output => ({ code := 0, output := output }, [])
  | .error problem => ({ code := 1 }, [exitEvent problem])

/-- What is looked at before the work. -/
structure Surroundings where
  /-- The working directory. -/
  directory : String
  env : String → Option String
  /-- The bytes of a file, or why it cannot be read. -/
  readFile : String → Except String (List UInt8)
  /-- Makes a directory where it is missing, or says why that failed. -/
  makeDirectory : String → Option String

/-- What a run comes to: its end, or work under settings with reports that go somewhere. -/
inductive Plan where
  | finish (ending : Ending)
  | work (job : Job) (settings : Settings) (logging : Logging)

/-- The settings of a file under the environment. -/
def settingsOf (around : Surroundings) (file : Option String) : Except SettingsError Settings :=
  match file with
  | none => Settings.load none around.env
  | some path =>
    match around.readFile path with
    | .ok bytes => Settings.load (some bytes) around.env
    | .error problem => .error (.io path problem)

/-- The plan for a job. The settings are printed as they are; for other jobs the directory of the
    log files is looked up from the root. -/
def planJob (around : Surroundings) (job : Job) (settings : Settings) : Plan :=
  if job = .config then .finish { code := 0, output := prettySettings settings ++ "\n" }
  else
    let settings := { settings with logDir := settings.logDir.map (Path.below around.directory) }
    match Logging.init none settings.logLevel settings.logDir around.makeDirectory with
    | .ok logging => .work job settings logging
    | .error problem => .finish (complain problem.message)

def plan (args : List String) (around : Surroundings) : Plan :=
  match parse args around.env with
  | .usageError => .finish { code := 2 }
  | .showVersion => .finish { code := 0, output := programName ++ " " ++ version ++ "\n" }
  | .showHelp => .finish { code := 0, output := helpText around.env }
  | .showJobHelp name job => .finish { code := 0, output := jobHelpText name job }
  | .showHelpHelp => .finish { code := 0, output := helpHelpText }
  | .run job file =>
    match settingsOf around file with
    | .ok settings => planJob around job settings
    | .error problem => .finish (complain problem.message)

end CommandLine
end ModelDepot
