import ModelDepot.Store.Table

/-!
A database and the steps that bring it to the latest version. The steps are taken together or not
at all, and a step leaves alone what is there already.
-/
namespace ModelDepot

/-- A database file: its version, and the table of documents if it has one. -/
structure Database where
  version : Int := 0
  table : Option Table := none

namespace Database

def empty : Database := {}

/-- The version, which is read as a number without sign. -/
def readVersion (db : Database) : Except DatabaseError Nat :=
  if 0 ≤ db.version then .ok db.version.toNat else .error .sqlite

/-- The database with a table of documents. -/
def withTable (db : Database) : Database :=
  match db.table with
  | some _ => db
  | none => { db with table := some Table.empty }

/-- The database with one more index of its table, which needs the column unless the index is
    there already. -/
def withIndex (column : String) (has : Indexes → Bool) (add : Indexes → Indexes)
    (db : Database) : Except DatabaseError Database :=
  match db.table with
  | none => .error .sqlite
  | some table =>
    if has table.indexes then .ok db
    else if table.columns.contains column then
      .ok { db with table := some { table with indexes := add table.indexes } }
    else .error .sqlite

/-- The database with all indexes. -/
def withIndexes (db : Database) : Except DatabaseError Database := do
  let db ← db.withIndex "publish" (·.publish) fun i => { i with publish := true }
  let db ← db.withIndex "last_updated_unix" (·.lastUpdated)
    fun i => { i with lastUpdated := true }
  db.withIndex "name" (·.name) fun i => { i with name := true }

end Database

/-- One step of the schema. -/
structure SchemaStep where
  version : Nat
  label : String
  apply : Database → Except DatabaseError Database

namespace SchemaStep

def all : List SchemaStep := [
  ⟨1, "processes", fun db => .ok db.withTable⟩,
  ⟨2, "process_indexes", Database.withIndexes⟩]

/-- The database after the step, which knows that it was taken. -/
def run (step : SchemaStep) (db : Database) : Except DatabaseError Database := do
  let changed ← step.apply db
  return { changed with version := step.version }

end SchemaStep

namespace Database

def latestVersion : Nat := (SchemaStep.all.getLast?.map (·.version)).getD 0

/-- The steps that are still to be taken. -/
def pendingSteps (db : Database) : Except DatabaseError (List SchemaStep) := do
  let version ← db.readVersion
  if latestVersion < version then throw (.unsupportedVersion version latestVersion)
  return SchemaStep.all.filter fun step => version < step.version

def pendingVersions (db : Database) : Except DatabaseError (List Nat) := do
  return (← db.pendingSteps).map (·.version)

/-- The database at the latest version. -/
def migrate (db : Database) : Except DatabaseError Database := do
  (← db.pendingSteps).foldlM (fun db step => step.run db) db

/-- The names of the tables and indexes with their kinds, in order. -/
def objects (db : Database) : List String :=
  match db.table with
  | none => []
  | some table =>
    (if table.indexes.lastUpdated then ["index idx_processes_last_updated"] else []) ++
    (if table.indexes.name then ["index idx_processes_name"] else []) ++
    (if table.indexes.publish then ["index idx_processes_publish"] else []) ++
    ["table processes"]

end Database
end ModelDepot
