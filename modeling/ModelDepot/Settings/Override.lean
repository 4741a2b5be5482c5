import ModelDepot.Settings

/-!
Settings replaced by variables of the environment. Each variable is read as a value of the kind of
its setting; the first one in the order of the settings' names that cannot be read is reported.
-/
namespace ModelDepot

/-- Why a text is no count. -/
inductive CountError where
  | empty
  | invalidDigit
  | tooLarge
  deriving DecidableEq, Repr

def CountError.message : CountError → String
  | .empty => "cannot parse integer from empty string"
  | .invalidDigit => "invalid digit found in string"
  | .tooLarge => "number too large to fit in target type"

/-- The value with one more digit. -/
def appendDigit (value : Nat) (c : Char) : Except CountError Nat :=
  if !c.isDigit then .error .invalidDigit
  else
    let next := value * 10 + (c.toNat - '0'.toNat)
    if next < UInt64.size then .ok next else .error .tooLarge

/-- A count in decimal digits, with or without a plus sign. -/
def parseCount (text : List Char) : Except CountError UInt64 :=
  match text with
  | [] => .error .empty
  | ['+'] => .error .invalidDigit
  | '+' :: digits => UInt64.ofNat <$> digits.foldlM appendDigit 0
  | digits => UInt64.ofNat <$> digits.foldlM appendDigit 0

/-- A yes or no in one of its spellings. -/
def parseSwitch (text : String) : Except String Bool :=
  let word := Text.asciiLower (Text.trim text)
  if ["true", "1", "yes"].contains word then .ok true
  else if ["false", "0", "no"].contains word then .ok false
  else .error ("expected a boolean, got " ++ Json.marked word)

namespace Settings

/-- How the variable of one setting replaces it: by a text that is always accepted, or one that
    may be refused with a reason. -/
structure Override where
  name : String
  apply : String → Settings → Except String Settings

namespace Override

/-- The variable of a setting. -/
def envName (o : Override) : String := "PMR_" ++ String.ofList (o.name.toList.map Char.toUpper)

def text (name : String) (set : String → Settings → Settings) : Override :=
  ⟨name, fun raw s => .ok (set raw s)⟩

def count (name : String) (set : UInt64 → Settings → Settings) : Override :=
  ⟨name, fun raw s =>
    match parseCount (Text.trimChars raw.toList) with
    | .ok n => .ok (set n s)
    | .error problem => .error problem.message⟩

def switch (name : String) (set : Bool → Settings → Settings) : Override :=
  ⟨name, fun raw s => (parseSwitch raw).map fun b => set b s⟩

/-- An absent directory stays absent under an empty variable. -/
def logDir : Override :=
  ⟨"log_dir", fun raw s =>
    .ok (if s.logDir.isNone && raw = "" then s else { s with logDir := some raw })⟩

/-- The settings but the kind of the command log, in the order of their names. -/
def all : List Override := [
  count "authority_timeout_secs" fun x s => { s with authorityTimeoutSecs := x },
  count "cleanup_grace_secs" fun x s => { s with cleanupGraceSecs := x },
  count "cleanup_interval_secs" fun x s => { s with cleanupIntervalSecs := x },
  count "cleanup_page_size" fun x s => { s with cleanupPageSize := x },
  count "consumer_retry_base_ms" fun x s => { s with consumerRetryBaseMs := x },
  count "consumer_retry_window_secs" fun x s => { s with consumerRetryWindowSecs := x },
  text "database_path" fun x s => { s with databasePath := x },
  switch "debug" fun x s => { s with debug := x },
  text "group_id" fun x s => { s with groupId := x },
  text "kafka_url" fun x s => { s with kafkaUrl := x },
  logDir,
  text "log_level" fun x s => { s with logLevel := x },
  count "memory_log_partitions" fun x s => { s with memoryLogPartitions := x },
  text "permissions_admin_token" fun x s => { s with permissionsAdminToken := x },
  text "permissions_url" fun x s => { s with permissionsUrl := x },
  text "process_topic" fun x s => { s with processTopic := x },
  switch "run_startup_migration" fun x s => { s with runStartupMigration := x }]

/-- The kind of the command log is the one setting whose text may fit no value of its kind; that
    is found out when all others have been read, and not put down to its variable. -/
def commandLog : Override :=
  ⟨"command_log", fun raw s =>
    match LogBackend.choices.lookup raw with
    | some backend => .ok { s with commandLog := backend }
    | none => .error (Json.Misfit.variant raw (LogBackend.choices.map (·.1))).message⟩

/-- The settings with the variable of one of them, if it is set. -/
def applyFrom (env : String → Option String) (o : Override) (blamed : String)
    (settings : Settings) : Except SettingsError Settings :=
  match env o.envName with
  | none => .ok settings
  | some raw =>
    match o.apply raw settings with
    | .ok changed => .ok changed
    | .error reason => .error (.invalidOverride blamed reason)

end Override

/-- The settings with those replaced whose variables are set. -/
def withOverrides (settings : Settings) (env : String → Option String) :
    Except SettingsError Settings := do
  let changed ← Override.all.foldlM (fun s o => o.applyFrom env o.envName s) settings
  Override.commandLog.applyFrom env "PMR_*" changed

/-- The settings of a file, or the standard ones without a file, under the environment. -/
def load (file : Option (List UInt8)) (env : String → Option String) :
    Except SettingsError Settings := do
  let base ← match file with
    | some bytes => parse bytes
    | none => pure {}
  let settings ← base.withOverrides env
  settings.validate
  return settings

end Settings
end ModelDepot
