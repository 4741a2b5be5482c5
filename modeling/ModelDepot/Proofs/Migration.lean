import Mathlib.Data.List.Basic
import ModelDepot.Service

/-!
A database is brought to the latest version by statements in one transaction. What they do is kept when the
transaction is committed, and nothing of it when one of them fails (`make_statements`). Main statement: whatever the
database is and whichever statements it refuses, all pending steps are taken or none, with the rows as they were, and
a second time there is nothing to do (`migrate_whole`).
-/
namespace ModelDepot.Database

/-! ### Statements in a transaction -/

/-- A statement of the schema. -/
inductive Statement where
  | createTable
  | indexPublish
  | indexLastUpdated
  | indexName
  | setVersion (version : Nat)

def Statement.apply : Statement → Database → Except DatabaseError Database
  | createTable, db => .ok db.withTable
  | indexPublish, db => db.withIndex "publish" (·.publish) fun i => { i with publish := true }
  | indexLastUpdated, db => db.withIndex "last_updated_unix" (·.lastUpdated) fun i => { i with lastUpdated := true }
  | indexName, db => db.withIndex "name" (·.name) fun i => { i with name := true }
  | setVersion version, db => .ok { db with version := version }

/-- The statements of the step to a version; the last one notes that it was taken. -/
def statements : Nat → List Statement
  | 1 => [.createTable, .setVersion 1]
  | 2 => [.indexPublish, .indexLastUpdated, .indexName, .setVersion 2]
  | _ => []

/-- The database after statements, each of which succeeds. -/
def carriedOut (statements : List Statement) (db : Database) : Except DatabaseError Database :=
  statements.foldlM (fun db statement => statement.apply db) db

/-- The database after steps, each of which succeeds. -/
def stepsTaken (steps : List SchemaStep) (db : Database) : Except DatabaseError Database :=
  steps.foldlM (fun db step => step.run db) db

/-- A handle on a database: what is kept, and what an open transaction makes of it. -/
structure Handle where
  kept : Database
  working : Option Database := none

inductive Call where
  | begin
  | execute (statement : Statement)
  | commit

namespace Handle

/-- Outside of a transaction a statement changes what is kept. A call that fails changes nothing. -/
def respond (handle : Handle) : Call → Except DatabaseError Handle
  | .begin =>
    match handle.working with
    | none => .ok { handle with working := some handle.kept }
    | some _ => .error .sqlite
  | .execute statement =>
    match handle.working with
    | none => (statement.apply handle.kept).map fun db => { handle with kept := db }
    | some db => (statement.apply db).map fun db => { handle with working := some db }
  | .commit =>
    match handle.working with
    | none => .error .sqlite
    | some db => .ok { kept := db }

/-- What is left when a transaction is given up. -/
def rollBack (handle : Handle) : Handle := { handle with working := none }

/-- Makes calls up to the first one that fails. Any of them may be refused, told by how many come after it. -/
def make (refuses : Nat → Bool) : List Call → Handle → Except DatabaseError Unit × Handle
  | [], handle => (.ok (), handle)
  | call :: more, handle =>
    if refuses more.length then (.error .sqlite, handle)
    else
      match handle.respond call with
      | .error problem => (.error problem, handle)
      | .ok handle => make refuses more handle

/-- The calls that carry out statements and keep what they did. -/
def finishing (todo : List Statement) : List Call := todo.map .execute ++ [.commit]

/-- The calls that take steps in one transaction. -/
def calls (steps : List SchemaStep) : List Call :=
  .begin :: finishing (steps.flatMap fun step => statements step.version)

/-- Brings the database to the latest version; a transaction that does not succeed is given up. -/
def migrate (refuses : Nat → Bool) (handle : Handle) : Except DatabaseError Unit × Handle :=
  match handle.kept.pendingSteps with
  | .error problem => (.error problem, handle)
  | .ok [] => (.ok (), handle)
  | .ok steps =>
    match make refuses (calls steps) handle with
    | (.ok (), handle) => (.ok (), handle)
    | (.error problem, handle) => (.error problem, handle.rollBack)

end Handle

/-- The rows of the table, if there is one. -/
def rows (db : Database) : List Row := (db.table.map Table.toList).getD []

/-- What bringing a database to the latest version answers and leaves. -/
structure MigratesWhole (db : Database) (answer : Except DatabaseError Unit) (left : Handle) : Prop where
  /-- No transaction is left open. -/
  closed : left.working = none
  /-- A failure leaves everything as it was. -/
  failed (problem : DatabaseError) : answer = .error problem → left.kept = db
  /-- A success leads to the latest version, with all rows as they were; at most indexes are added to a table. -/
  migrated : answer = .ok () → left.kept.version = latestVersion ∧ left.kept.rows = db.rows ∧
    ∀ table, db.table = some table → ∃ indexes, left.kept.table = some { table with indexes := indexes }
  /-- After a success no step is pending, and a second time nothing is changed, whatever is refused. -/
  settled : answer = .ok () → left.kept.pendingVersions = .ok [] ∧ ∀ refuses, left.migrate refuses = (.ok (), left)
  /-- A success from an earlier version leads to the table and all of its indexes. -/
  complete : answer = .ok () → db.version < latestVersion → left.kept.objects =
    ["index idx_processes_last_updated", "index idx_processes_name", "index idx_processes_publish", "table processes"]
  /-- Exactly a version above the latest one is unsupported. -/
  unsupported (found latest : Nat) : answer = .error (.unsupportedVersion found latest) ↔
    db.version = found ∧ latest = latestVersion ∧ latestVersion < found

variable {db : Database} {refuses : Nat → Bool}

/-! ### What is pending -/

theorem ok_of_bind {α β : Type} {first : Except DatabaseError α} {next : α → Except DatabaseError β} {result : β}
    (done : first >>= next = .ok result) : ∃ value, first = .ok value ∧ next value = .ok result := by
  cases first with
  | error => cases done
  | ok value => exact ⟨value, rfl, done⟩

theorem pendingSteps_of_negative (negative : db.version < 0) : db.pendingSteps = .error .sqlite := by
  simp [pendingSteps, readVersion, Int.not_le.mpr negative, bind, Except.bind]

theorem pendingSteps_of_newer {version : Nat} (found : db.version = version) (newer : latestVersion < version) :
    db.pendingSteps = .error (.unsupportedVersion version latestVersion) := by
  simp [pendingSteps, readVersion, found, newer, bind, Except.bind, throw, throwThe, MonadExceptOf.throw]

theorem pendingSteps_of_known {version : Nat} (found : db.version = version) (known : version ≤ latestVersion) :
    db.pendingSteps = .ok (SchemaStep.all.filter fun step => version < step.version) := by
  simp [pendingSteps, readVersion, found, Nat.not_lt.mpr known, bind, Except.bind, pure, Except.pure]

theorem pendingSteps_subset {steps : List SchemaStep} (pending : db.pendingSteps = .ok steps) : steps ⊆ SchemaStep.all := by
  obtain ⟨version, _, pending⟩ := ok_of_bind pending
  simp only at pending
  split at pending
  · cases pending
  · obtain rfl := Except.ok.inj pending
    exact fun step isPending => List.mem_of_mem_filter isPending

/-! ### What the statements do -/

theorem withIndex_eq_ok {column : String} {has : Indexes → Bool} {add : Indexes → Indexes} {changed : Database}
    (done : db.withIndex column has add = .ok changed) :
    ∃ table, db.table = some table ∧ changed =
      { db with table := some { table with indexes := if has table.indexes then table.indexes else add table.indexes } } := by
  unfold withIndex at done
  split at done
  · cases done
  · rename_i table present
    refine ⟨table, present, ?_⟩
    split at done
    · rename_i there
      obtain rfl := Except.ok.inj done
      obtain ⟨version, table⟩ := db
      simp_all
    · rename_i missing
      split at done
      · obtain rfl := Except.ok.inj done
        simp [missing]
      · cases done

theorem withIndex_error {column : String} {has : Indexes → Bool} {add : Indexes → Indexes} {problem : DatabaseError}
    (failed : db.withIndex column has add = .error problem) : problem = .sqlite := by
  unfold withIndex at failed
  split at failed
  · exact (Except.error.inj failed).symm
  · split at failed
    · cases failed
    · split at failed
      · cases failed
      · exact (Except.error.inj failed).symm

theorem Statement.apply_error {statement : Statement} {problem : DatabaseError}
    (failed : statement.apply db = .error problem) : problem = .sqlite := by
  cases statement with
  | createTable | setVersion => cases failed
  | indexPublish | indexLastUpdated | indexName =>
    rw [apply] at failed
    exact withIndex_error failed

/-- Each step is its statements. -/
theorem run_eq_carriedOut (db : Database) : ∀ step ∈ SchemaStep.all, step.run db = carriedOut (statements step.version) db := by
  intro step isStep
  simp only [SchemaStep.all, List.mem_cons, List.not_mem_nil, or_false] at isStep
  rcases isStep with rfl | rfl
  · rfl
  · simp only [SchemaStep.run, withIndexes, statements, carriedOut, List.foldlM_cons, List.foldlM_nil, Statement.apply,
      bind_assoc]
    rfl

@[simp] theorem carriedOut_append (first more : List Statement) (db : Database) :
    carriedOut (first ++ more) db = carriedOut first db >>= carriedOut more := List.foldlM_append

theorem carriedOut_steps {steps : List SchemaStep} (known : steps ⊆ SchemaStep.all) (db : Database) :
    carriedOut (steps.flatMap fun step => statements step.version) db = stepsTaken steps db := by
  induction steps generalizing db with
  | nil => rfl
  | cons step more ih =>
    obtain ⟨isStep, knownToo⟩ := List.cons_subset.mp known
    rw [List.flatMap_cons, carriedOut_append, ← run_eq_carriedOut db step isStep, stepsTaken, List.foldlM_cons]
    cases step.run db with
    | error => rfl
    | ok changed => exact ih knownToo changed

/-- All indexes of a table. -/
def allIndexes : Indexes := { publish := true, lastUpdated := true, name := true }

/-- After the index additions every index is there, whichever were there before. -/
theorem withIndexes_eq_ok {changed : Database} (done : db.withIndexes = .ok changed) :
    ∃ table, db.table = some table ∧ changed = { db with table := some { table with indexes := allIndexes } } := by
  obtain ⟨first, published, done⟩ := ok_of_bind done
  obtain ⟨second, dated, named⟩ := ok_of_bind done
  obtain ⟨table, present, rfl⟩ := withIndex_eq_ok published
  obtain ⟨withPublish, there, rfl⟩ := withIndex_eq_ok dated
  obtain rfl := Option.some.inj there
  obtain ⟨withLastUpdated, there, rfl⟩ := withIndex_eq_ok named
  obtain rfl := Option.some.inj there
  refine ⟨table, present, ?_⟩
  obtain ⟨columns, rows, ⟨publish, lastUpdated, name⟩⟩ := table
  cases publish <;> cases lastUpdated <;> cases name <;> rfl

/-! ### A transaction -/

open Handle in
/-- Statements in a transaction, and the end of it: either all of them are carried out and kept, or the transaction
    stays open and nothing is kept. Where nothing is refused, a statement that cannot be carried out is the cause. -/
theorem make_statements (refuses : Nat → Bool) (todo : List Statement) (kept working : Database) :
    (∃ db, carriedOut todo working = .ok db ∧
      make refuses (finishing todo) ⟨kept, some working⟩ = (.ok (), { kept := db })) ∨
    ∃ rest, make refuses (finishing todo) ⟨kept, some working⟩ = (.error .sqlite, ⟨kept, some rest⟩) ∧
      ((∀ count, refuses count = false) → carriedOut todo working = .error .sqlite) := by
  induction todo generalizing working with
  | nil =>
    by_cases refused : refuses 0
    · exact .inr ⟨working, by simp [finishing, make, refused], fun never => by simp [never] at refused⟩
    · exact .inl ⟨working, rfl, by simp [finishing, make, refused, respond]⟩
  | cons statement more ih =>
    rw [finishing, List.map_cons, List.cons_append, make, ← finishing]
    by_cases refused : refuses (finishing more).length
    · rw [if_pos refused]
      exact .inr ⟨working, rfl, fun never => by simp [never] at refused⟩
    rw [if_neg refused]
    cases applied : statement.apply working with
    | error problem =>
      obtain rfl := Statement.apply_error applied
      -- what the statements before this one did is in the open transaction only
      refine .inr ⟨working, by simp [respond, applied, Except.map], fun _ => ?_⟩
      simp [carriedOut, applied, bind, Except.bind]
    | ok changed =>
      have first : carriedOut (statement :: more) working = carriedOut more changed := by
        simp [carriedOut, applied, bind, Except.bind]
      simpa [first, respond, applied, Except.map] using ih changed

/-! ### The latest version -/

theorem run_withIndexes {changed : Database}
    (done : SchemaStep.run ⟨2, "process_indexes", withIndexes⟩ db = .ok changed) :
    ∃ table, db.table = some table ∧
      changed = { version := latestVersion, table := some { table with indexes := allIndexes } } := by
  obtain ⟨indexed, added, done⟩ := ok_of_bind done
  obtain ⟨table, present, rfl⟩ := withIndexes_eq_ok added
  exact ⟨table, present, (Except.ok.inj done).symm⟩

theorem withTable_table (db : Database) : db.withTable.table = some (db.table.getD Table.empty) := by
  unfold withTable
  cases there : db.table with
  | none => rfl
  | some table => simp [there]

/-- From any earlier version the steps lead to the latest one, where a table that was there has its columns and rows. -/
theorem stepsTaken_from {version : Nat} {changed : Database} (earlier : version < latestVersion)
    (done : stepsTaken (SchemaStep.all.filter fun step => version < step.version) db = .ok changed) :
    changed = { version := latestVersion, table := some { db.table.getD Table.empty with indexes := allIndexes } } := by
  match version, earlier with
  | 0, _ =>
    obtain ⟨made, created, done⟩ := ok_of_bind done
    obtain rfl := Except.ok.inj created
    obtain ⟨indexed, added, done⟩ := ok_of_bind done
    obtain ⟨table, present, rfl⟩ := run_withIndexes added
    obtain rfl := Except.ok.inj done
    rw [withTable_table] at present
    obtain rfl := Option.some.inj present
    rfl
  | 1, _ =>
    obtain ⟨indexed, added, done⟩ := ok_of_bind done
    obtain ⟨table, present, rfl⟩ := run_withIndexes added
    obtain rfl := Except.ok.inj done
    simp [present]

theorem takeSteps_eq (steps : List SchemaStep) (db : Database) (events : List Event) :
    (takeSteps steps db events).1 = stepsTaken steps db := by
  induction steps generalizing db events with
  | nil => rfl
  | cons step more ih =>
    rw [takeSteps, stepsTaken, List.foldlM_cons]
    cases step.run db with
    | error => rfl
    | ok changed => exact ih changed _

theorem rows_of_latest (db : Database) :
    rows { version := latestVersion, table := some { db.table.getD Table.empty with indexes := allIndexes } } = db.rows := by
  unfold rows
  cases db.table with
  | none => rfl
  | some table => rfl

theorem pendingSteps_of_latest (latest : db.version = latestVersion) : db.pendingSteps = .ok [] :=
  pendingSteps_of_known latest (Nat.le_refl _)

theorem pendingVersions_of_latest (latest : db.version = latestVersion) : db.pendingVersions = .ok [] := by
  simp [pendingVersions, pendingSteps_of_latest latest, bind, Except.bind, pure, Except.pure]

/-! ### Bringing a database to the latest version -/

namespace Handle

theorem migrate_of_failing {problem : DatabaseError} (failing : db.pendingSteps = .error problem) :
    migrate refuses { kept := db } = (.error problem, { kept := db }) := by
  simp [migrate, failing]

theorem migrate_of_latest (latest : db.version = latestVersion) :
    migrate refuses { kept := db } = (.ok (), { kept := db }) := by
  simp [migrate, pendingSteps_of_latest latest]

/-- Steps that are pending are all taken, or none is. Where nothing is refused, a step that fails is the cause. -/
theorem migrate_of_pending (refuses : Nat → Bool) {steps : List SchemaStep} (pending : db.pendingSteps = .ok steps)
    (something : steps ≠ []) :
    (∃ changed, stepsTaken steps db = .ok changed ∧ migrate refuses { kept := db } = (.ok (), { kept := changed })) ∨
    (migrate refuses { kept := db } = (.error .sqlite, { kept := db }) ∧
      ((∀ count, refuses count = false) → stepsTaken steps db = .error .sqlite)) := by
  rw [← carriedOut_steps (pendingSteps_subset pending)]
  cases steps with
  | nil => exact absurd rfl something
  | cons step more =>
    simp only [migrate, pending, calls, make]
    generalize ((step :: more).flatMap fun step => statements step.version) = todo
    by_cases refused : refuses (finishing todo).length
    · exact .inr ⟨by simp [refused, rollBack], fun never => by simp [never] at refused⟩
    · rw [if_neg refused]
      obtain ⟨changed, done, made⟩ | ⟨rest, made, cause⟩ := make_statements refuses todo db db
      · exact .inl ⟨changed, done, by simp [respond, made]⟩
      · exact .inr ⟨by simp [respond, made, rollBack], cause⟩

end Handle

/-- A failure that leaves the database as it was. -/
theorem MigratesWhole.of_error {problem : DatabaseError} (cause : ∀ found latest : Nat,
      problem = .unsupportedVersion found latest ↔
        db.version = found ∧ latest = latestVersion ∧ latestVersion < found) :
    MigratesWhole db (.error problem) { kept := db } where
  closed := rfl
  failed _ _ := rfl
  migrated done := by cases done
  settled done := by cases done
  complete done := by cases done
  unsupported found latest := by simpa using cause found latest

/-- A success at the latest version. -/
theorem MigratesWhole.of_latest {left : Database} (latest : left.version = latestVersion) (known : db.version ≤ latestVersion)
    (sameRows : left.rows = db.rows)
    (sameColumns : ∀ table, db.table = some table → ∃ indexes, left.table = some { table with indexes := indexes })
    (complete : db.version < latestVersion → left.objects =
      ["index idx_processes_last_updated", "index idx_processes_name", "index idx_processes_publish", "table processes"]) :
    MigratesWhole db (.ok ()) { kept := left } where
  closed := rfl
  failed problem failed := by cases failed
  migrated _ := ⟨latest, sameRows, sameColumns⟩
  settled _ := ⟨pendingVersions_of_latest latest, fun _ => Handle.migrate_of_latest latest⟩
  complete _ := complete
  unsupported found latest := by
    simp only [reduceCtorEq, false_iff, not_and]
    omega

theorem pending_of_earlier {version : Nat} (earlier : version < latestVersion) :
    (SchemaStep.all.filter fun step => version < step.version) ≠ [] := by
  match version, earlier with
  | 0, _ | 1, _ => simp [SchemaStep.all]

theorem MigratesWhole.of_earlier {version : Nat} (found : db.version = version) (earlier : version < latestVersion) :
    MigratesWhole db (Handle.migrate refuses { kept := db }).1 (Handle.migrate refuses { kept := db }).2 := by
  obtain ⟨changed, done, whole⟩ | ⟨whole, -⟩ := Handle.migrate_of_pending refuses
    (pendingSteps_of_known found (Nat.le_of_lt earlier)) (pending_of_earlier earlier)
  · rw [whole]
    obtain rfl := stepsTaken_from earlier done
    refine .of_latest rfl (by omega) (rows_of_latest db) (fun table there => ⟨allIndexes, by simp [there]⟩) fun _ => rfl
  · rw [whole]
    refine .of_error fun found latest => ?_
    simp only [reduceCtorEq, false_iff, not_and]
    omega

theorem migrate_outcome (refuses : Nat → Bool) (db : Database) :
    MigratesWhole db (Handle.migrate refuses { kept := db }).1 (Handle.migrate refuses { kept := db }).2 := by
  by_cases negative : db.version < 0
  · rw [Handle.migrate_of_failing (pendingSteps_of_negative negative)]
    refine .of_error fun found latest => ?_
    simp only [reduceCtorEq, false_iff, not_and]
    omega
  obtain ⟨version, found⟩ := Int.eq_ofNat_of_zero_le (Int.not_lt.mp negative)
  by_cases newer : latestVersion < version
  · rw [Handle.migrate_of_failing (pendingSteps_of_newer found newer)]
    refine .of_error fun other latest => ?_
    simp only [DatabaseError.unsupportedVersion.injEq]
    omega
  by_cases earlier : version < latestVersion
  · exact .of_earlier found earlier
  · have latest : db.version = latestVersion := by omega
    rw [Handle.migrate_of_latest latest]
    exact .of_latest latest (by omega) rfl (fun table there => ⟨table.indexes, there⟩) (by omega)

/-- What the service does is that a database which may not be changed refuses everything. -/
theorem migrateReported_eq (db : Database) (isWritable : Bool) :
    (migrateReported ⟨db, isWritable⟩).1 = (Handle.migrate (fun _ => !isWritable) { kept := db }).1.map fun _ =>
      (Handle.migrate (fun _ => !isWritable) { kept := db }).2.kept := by
  cases pending : db.pendingSteps with
  | error problem =>
    rw [Handle.migrate_of_failing pending]
    simp [migrateReported, pending, Except.map]
  | ok steps =>
    by_cases nothing : steps = []
    · simp [migrateReported, Handle.migrate, pending, nothing, takeSteps, Except.map]
    cases isWritable with
    | true =>
      simp only [migrateReported, pending, Bool.or_true, if_true, takeSteps_eq, Bool.not_true]
      obtain ⟨changed, done, whole⟩ | ⟨whole, cause⟩ := Handle.migrate_of_pending (fun _ => false)
        pending nothing
      · simp [done, whole, Except.map]
      · simp [cause, whole, Except.map]
    | false =>
      obtain ⟨step, more, rfl⟩ := List.exists_cons_of_ne_nil nothing
      simp [migrateReported, Handle.migrate, pending, Handle.calls, Handle.make, Except.map]

/-- Bringing a database to the latest version. For every database, however it was made, and whichever of its statements
    are refused, it is done as a whole or not at all; this is what the service does, where a database that may not be
    changed refuses everything. -/
theorem migrate_whole (db : Database) :
    (∀ refuses, MigratesWhole db (Handle.migrate refuses { kept := db }).1 (Handle.migrate refuses { kept := db }).2) ∧
    ∀ isWritable, (migrateReported ⟨db, isWritable⟩).1 =
      (Handle.migrate (fun _ => !isWritable) { kept := db }).1.map fun _ =>
        (Handle.migrate (fun _ => !isWritable) { kept := db }).2.kept :=
  ⟨fun refuses => migrate_outcome refuses db, migrateReported_eq db⟩

end ModelDepot.Database
