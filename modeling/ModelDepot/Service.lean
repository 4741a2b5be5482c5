import ModelDepot.Settings
import ModelDepot.Backfill
import ModelDepot.Consumer
import ModelDepot.CleanupLoop
import ModelDepot.Authority.Local
import ModelDepot.Authority.Remote

/-!
The service as its settings describe it: what it is opened with, what is done before it runs, and
which consumer and cleanup passes it runs.
-/
namespace ModelDepot

inductive StartError where
  | database (problem : DatabaseError)
  | store (problem : StoreError)
  | authority (problem : AuthorityError)
  | log (problem : LogError)
  | control (problem : ControlError)
  deriving DecidableEq, Repr

namespace StartError

def message : StartError → String
  | database problem => "unable to open document store: " ++ problem.message
  | store problem => "unable to prepare document store: " ++ problem.message
  | authority problem => "unable to set up permission authority: " ++ problem.message
  | log problem => "unable to open command log: " ++ problem.message
  | control problem => "startup step failed: " ++ problem.message

def causes : StartError → List String
  | database problem => problem.message :: problem.causes
  | store problem => problem.message :: problem.causes
  | authority problem => problem.message :: problem.causes
  | log problem => [problem.message]
  | control problem => problem.message :: problem.causes

end StartError

/-! ### Opening -/

namespace Database

/-- What is reported of a step that was taken. -/
def stepEvent (step : SchemaStep) : Event :=
  ⟨.info, "db_migrate", "db", "ok",
    [("version", toString step.version), ("step", step.label)]⟩

/-- Takes steps one by one, with a report of each that was taken. -/
def takeSteps : List SchemaStep → Database → List Event → Except DatabaseError Database × List Event
  | [], db, events => (.ok db, events)
  | step :: more, db, events =>
    match step.run db with
    | .ok db => takeSteps more db (events ++ [stepEvent step])
    | .error problem => (.error problem, events)

/-- A database as it was found, which may not be changed by everyone. -/
structure Found where
  db : Database := {}
  isWritable : Bool := true

/-- The database at the latest version, with what is reported on the way. -/
def migrateReported (found : Found) : Except DatabaseError Database × List Event :=
  match found.db.pendingSteps with
  | .error problem => (.error problem, [])
  | .ok steps =>
    if steps.isEmpty || found.isWritable then takeSteps steps found.db [] else (.error .sqlite, [])

/-- Opens a database and brings it to the latest version. -/
def openReported (mode : String) (found : Except DatabaseError Found) :
    Except DatabaseError Database × List Event :=
  let start : Event := ⟨.info, "db_open", "db", "start", [("mode", mode)]⟩
  let failure (code : String) (problem : DatabaseError) : Event :=
    ⟨.error, "db_open", "db", "error",
      [("mode", mode), Event.someDuration, ("error_code", code), ("error", problem.message)]⟩
  match found with
  | .error problem => (.error problem, [start, failure "db_open_failed" problem])
  | .ok found =>
    match migrateReported found with
    | (.ok db, events) =>
      (.ok db, start :: events ++
        [⟨.info, "db_open", "db", "ok", [("mode", mode), Event.someDuration]⟩])
    | (.error problem, events) =>
      (.error problem, start :: events ++ [failure "db_bootstrap_failed" problem])

end Database

/-- The grants are kept in this process or behind an address. -/
inductive AuthorityBackend where
  | inProcess (authority : LocalAuthority)
  | remote (authority : RemoteAuthority)

namespace Log

/-- The log that the settings name; only the one in memory is at hand. -/
def ofSettings (settings : Settings) : Except LogError Log :=
  match settings.commandLog with
  | .memory => .ok (Log.new settings.memoryLogPartitions.toNat)
  | .kafka => .error (.backend "kafka backend requested but the `kafka` feature is disabled")

end Log

namespace Service

/-- The path that stands for a database without a file. -/
def memoryPath : String := ":memory:"

/-- How the database is opened. -/
def databaseMode (settings : Settings) : String :=
  if settings.databasePath = memoryPath then "memory" else "file"

/-- The authority that the settings name. -/
def openAuthority (settings : Settings) : Except AuthorityError AuthorityBackend × Event :=
  if settings.usesLocalAuthority then
    (.ok (.inProcess {}), ⟨.info, "authority_init", "runtime", "ok", [("backend", "memory")]⟩)
  else
    (.remote <$> RemoteAuthority.at settings.permissionsUrl settings.permissionsAdminToken,
      ⟨.info, "authority_init", "runtime", "ok",
        [("backend", "http"), ("url", settings.permissionsUrl)]⟩)

/-- What a service works with. -/
structure Opened where
  store : Store
  authority : AuthorityBackend
  log : Log

/-- Opens everything that the settings name, with a database as it was found. -/
def openAll (settings : Settings) (found : Except DatabaseError Database.Found) :
    Except StartError Opened × List Event :=
  match Database.openReported (databaseMode settings) found with
  | (.error problem, events) => (.error (.database problem), events)
  | (.ok db, events) =>
    match Store.ofDatabase db with
    | .error problem => (.error (.store problem), events)
    | .ok store =>
      let (authority, event) := openAuthority settings
      let events := events ++ [event]
      match authority with
      | .error problem => (.error (.authority problem), events)
      | .ok authority =>
        match Log.ofSettings settings with
        | .error problem => (.error (.log problem), events)
        | .ok log => (.ok ⟨store, authority, log⟩, events)

/-! ### Running -/

def channel (settings : Settings) : Channel := ⟨settings.processTopic, settings.debug⟩

def consumer (settings : Settings) : Consumer :=
  ⟨settings.processTopic, settings.groupId, settings.retryPolicy, settings.debug⟩

def cleanup (settings : Settings) : Cleanup :=
  ⟨settings.processTopic, settings.cleanupGrace, settings.cleanupPageSize.toNat⟩

def cleanupLoop? (settings : Settings) : Option CleanupLoop :=
  settings.cleanupInterval.map fun interval => ⟨cleanup settings, interval⟩

def boolText (b : Bool) : String := if b then "true" else "false"

/-- Whether grants are backfilled when the service starts; a local authority has forgotten them. -/
def backfillsAtStart (settings : Settings) : Bool :=
  settings.runStartupMigration || settings.usesLocalAuthority

/-- What is done before the service runs. -/
def start (settings : Settings) : Program StartError Unit := do
  (Control.registerTopic settings.processTopic).mapError .control
  if backfillsAtStart settings then
    let report ← (Backfill.run settings.processTopic).mapError .control
    Program.report ⟨.info, "startup_backfill", "runtime", "ok",
      [("local_authority", boolText settings.usesLocalAuthority),
        ("granted", toString report.granted)]⟩
  Program.report ⟨.info, "service_start", "runtime", "ok",
    [("topic", settings.processTopic), ("group", settings.groupId), ("consumers", "1"),
      ("cleanup", boolText settings.cleanupInterval.isSome)]⟩

def stopStarts : Event := ⟨.info, "service_stop", "runtime", "start", []⟩
def stopEnds : Event := ⟨.info, "service_stop", "runtime", "ok", []⟩

end Service
end ModelDepot
