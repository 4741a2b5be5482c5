import ModelDepot.Retry
import ModelDepot.Text.Cut
import ModelDepot.Json.Shape

/-!
The settings of the service, their text, and which of them are admitted.
-/
namespace ModelDepot

/-- Where the commands are kept. -/
inductive LogBackend where
  | memory
  | kafka
  deriving DecidableEq, Repr

namespace LogBackend

def name : LogBackend → String
  | memory => "memory"
  | kafka => "kafka"

def choices : List (String × LogBackend) := [memory, kafka].map fun b => (b.name, b)
def reader : Json.Reader LogBackend := Json.Reader.choice choices
def print (backend : LogBackend) : String := Json.printText backend.name

end LogBackend

structure Settings where
  logLevel : String := "debug"
  /-- The directory of the log files; without one the log goes to the standard error. -/
  logDir : Option String := none
  databasePath : String := "procmodel.sqlite3"
  commandLog : LogBackend := .memory
  kafkaUrl : String := "localhost:9092"
  groupId : String := "process-model-repository"
  processTopic : String := "processmodel"
  memoryLogPartitions : UInt64 := 4
  permissionsUrl : String := "http://localhost:8080"
  permissionsAdminToken : String := ""
  authorityTimeoutSecs : UInt64 := 10
  consumerRetryBaseMs : UInt64 := 1000
  consumerRetryWindowSecs : UInt64 := 600
  cleanupIntervalSecs : UInt64 := 600
  cleanupGraceSecs : UInt64 := 60
  cleanupPageSize : UInt64 := 1000
  runStartupMigration : Bool := false
  debug : Bool := false
  deriving DecidableEq, Repr

inductive SettingsError where
  | io (path problem : String)
  | parse (fault : Json.Fault)
  | invalidOverride (name reason : String)
  | invalid (reason : String)
  deriving DecidableEq, Repr

def SettingsError.message : SettingsError → String
  | .io path problem => "unable to read config " ++ Json.marked path ++ ": " ++ problem
  | .parse fault => "malformed config: " ++ fault.message
  | .invalidOverride name reason => "invalid value in " ++ Json.marked name ++ ": " ++ reason
  | .invalid reason => "invalid config: " ++ reason

namespace Settings

private def count (name wanted : String) (get : Settings → UInt64)
    (set : UInt64 → Settings → Settings) : Json.Member Settings :=
  .of name (Json.Reader.count wanted) Json.printCount get set

def shape : Json.Shape Settings where
  title := "ServiceConfig"
  blank := {}
  members := [
    .text "log_level" (·.logLevel) fun x s => { s with logLevel := x },
    .of "log_dir" (Json.Reader.nullable Json.Reader.text) (Json.printNullable Json.printText)
      (·.logDir) fun x s => { s with logDir := x },
    .text "database_path" (·.databasePath) fun x s => { s with databasePath := x },
    .of "command_log" LogBackend.reader LogBackend.print (·.commandLog)
      fun x s => { s with commandLog := x },
    .text "kafka_url" (·.kafkaUrl) fun x s => { s with kafkaUrl := x },
    .text "group_id" (·.groupId) fun x s => { s with groupId := x },
    .text "process_topic" (·.processTopic) fun x s => { s with processTopic := x },
    count "memory_log_partitions" "usize" (·.memoryLogPartitions)
      fun x s => { s with memoryLogPartitions := x },
    .text "permissions_url" (·.permissionsUrl) fun x s => { s with permissionsUrl := x },
    .text "permissions_admin_token" (·.permissionsAdminToken)
      fun x s => { s with permissionsAdminToken := x },
    count "authority_timeout_secs" "u64" (·.authorityTimeoutSecs)
      fun x s => { s with authorityTimeoutSecs := x },
    count "consumer_retry_base_ms" "u64" (·.consumerRetryBaseMs)
      fun x s => { s with consumerRetryBaseMs := x },
    count "consumer_retry_window_secs" "u64" (·.consumerRetryWindowSecs)
      fun x s => { s with consumerRetryWindowSecs := x },
    count "cleanup_interval_secs" "u64" (·.cleanupIntervalSecs)
      fun x s => { s with cleanupIntervalSecs := x },
    count "cleanup_grace_secs" "u64" (·.cleanupGraceSecs)
      fun x s => { s with cleanupGraceSecs := x },
    count "cleanup_page_size" "u64" (·.cleanupPageSize)
      fun x s => { s with cleanupPageSize := x },
    .flag "run_startup_migration" (·.runStartupMigration)
      fun x s => { s with runStartupMigration := x },
    .flag "debug" (·.debug) fun x s => { s with debug := x }]

/-- The settings in the bytes of a file. -/
def parse (bytes : List UInt8) : Except SettingsError Settings :=
  match shape.parse bytes with
  | .ok settings => .ok settings
  | .error fault => .error (.parse fault)

def validate (settings : Settings) : Except SettingsError Unit := do
  if Text.allBlank settings.processTopic then throw (.invalid "process_topic cannot be empty")
  if Text.allBlank settings.groupId then throw (.invalid "group_id cannot be empty")
  if settings.memoryLogPartitions = 0 then
    throw (.invalid "memory_log_partitions must be positive")
  if settings.consumerRetryBaseMs = 0 then
    throw (.invalid "consumer_retry_base_ms must be positive")
  if settings.commandLog = .kafka && Text.allBlank settings.kafkaUrl then
    throw (.invalid "kafka_url is required for the kafka command log")

def retryPolicy (settings : Settings) : RetryPolicy where
  baseUnit := .ofMillis settings.consumerRetryBaseMs.toNat
  window := .ofSeconds settings.consumerRetryWindowSecs.toNat

/-- The time between two cleanup passes; zero means that there are none. -/
def cleanupInterval (settings : Settings) : Option Duration :=
  if settings.cleanupIntervalSecs = 0 then none
  else some (.ofSeconds settings.cleanupIntervalSecs.toNat)

def cleanupGrace (settings : Settings) : Duration := .ofSeconds settings.cleanupGraceSecs.toNat

def authorityTimeout (settings : Settings) : Duration :=
  .ofSeconds settings.authorityTimeoutSecs.toNat

/-- The grants are kept in this process, not by a remote authority. -/
def usesLocalAuthority (settings : Settings) : Bool :=
  let url := Text.trim settings.permissionsUrl
  url == "" || url == "-"

end Settings
end ModelDepot
