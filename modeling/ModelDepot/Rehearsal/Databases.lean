import ModelDepot.Rehearsal.Storage

/-!
Database files and at most one connection to a database.
-/
namespace ModelDepot.Rehearsal

/-- Some files, and the connection if there is one. -/
structure Databases where
  storage : Storage
  connection : Option Connection := none

inductive DatabaseStep where
  | «open» (file : String)
  | openInMemory
  | connect (file : String)
  | connectInMemory
  | close
  | writeFile (file : String) (bytes : List UInt8)
  | latest
  | setVersion (version : Int)
  | createTable (omitted : List String)
  | dropTable
  | version
  | pending
  | migrate
  | objects
  | tryStore

inductive DatabaseOutcome where
  | done
  | version (n : Nat)
  | versions (list : List Nat)
  | names (list : List String)
  | noConnection
  | databaseFailed (problem : DatabaseError)
  | storeFailed (problem : StoreError)

namespace Databases

/-- Nothing but an empty working directory. -/
def empty (directory : String) : Databases := { storage := { files := .empty directory } }

/-- The path to the file of a database. -/
def path (d : Databases) (file : String) : String :=
  Path.below d.storage.files.directory (file ++ ".db")

def disconnect (d : Databases) : Databases := { d with connection := none }

/-- Opens a database at the latest version; what fails leaves no connection. -/
def openAt (d : Databases) (path : String) : DatabaseOutcome × Databases :=
  let (reached, storage) := d.storage.connectLogged [] path
  let opened := (Database.openReported "" (reached.bind storage.found)).1
  match reached, opened with
  | .ok c, .ok db => (.done, { storage := storage.save c db, connection := some c })
  | _, .error problem | .error problem, _ => (.databaseFailed problem, { storage := storage })

/-- Connects to a database as it is; what fails leaves the connection that was there. -/
def connectTo (d : Databases) (path : String) : DatabaseOutcome × Databases :=
  match d.storage.connect [] path with
  | (.ok c, storage) => (.done, { storage := storage, connection := some c })
  | (.error problem, storage) => (.databaseFailed problem, { d with storage := storage })

/-- The outcome of something with the connected database. -/
def withDatabase (d : Databases)
    (f : Connection → Except DatabaseError Database → DatabaseOutcome × Databases) :
    DatabaseOutcome × Databases :=
  match d.connection with
  | none => (.noConnection, d)
  | some c => f c (d.storage.read c)

/-- A question to the connected database. -/
def ask (d : Databases) (question : Database → DatabaseOutcome) : DatabaseOutcome × Databases :=
  d.withDatabase fun _ found =>
    match found with
    | .error problem => (.databaseFailed problem, d)
    | .ok db => (question db, d)

/-- A change of the connected database, which stays as it was when the change fails. -/
def change (d : Databases) (f : Database → Except DatabaseError Database) :
    DatabaseOutcome × Databases :=
  d.withDatabase fun c found =>
    match found.bind f with
    | .error problem => (.databaseFailed problem, d)
    | .ok changed =>
      if c.isWritable then (.done, { d with storage := d.storage.save c changed })
      else (.databaseFailed .sqlite, d)

def ofExcept {α : Type} (outcome : α → DatabaseOutcome) :
    Except DatabaseError α → DatabaseOutcome
  | .ok value => outcome value
  | .error problem => .databaseFailed problem

/-- A table without a key and with some columns left out. -/
def bareTable (omitted : List String) (db : Database) : Except DatabaseError Database :=
  let columns := (Column.all.map Column.label).filter (!omitted.contains ·)
  if db.table.isSome || columns.isEmpty then .error .sqlite
  else .ok { db with table := some { columns := columns, rows := .loose [] } }

def withoutTable (db : Database) : Except DatabaseError Database :=
  if db.table.isSome then .ok { db with table := none } else .error .sqlite

/-- A document that is put into a store to see whether that can be done. -/
def probe : Document := { id := "probe", name := "Probe" }

/-- The database at the latest version, where it is not there already. -/
def migrate (d : Databases) : DatabaseOutcome × Databases :=
  d.withDatabase fun c found =>
    match found.bind fun db => (Database.migrateReported ⟨db, c.isWritable⟩).1 with
    | .error problem => (.databaseFailed problem, d)
    | .ok db => (.done, { d with storage := d.storage.save c db })

/-- Makes a store of the connection, which is used up, and stores a document in it. -/
def tryStore (d : Databases) : DatabaseOutcome × Databases :=
  d.withDatabase fun c found =>
    match found with
    | .error problem => (.storeFailed (.database problem), d.disconnect)
    | .ok db =>
      match (Store.ofDatabase db).bind (·.upsert probe) with
      | .error problem => (.storeFailed problem, d.disconnect)
      | .ok store =>
        if c.isWritable then
          let storage := d.storage.save c { db with table := some store.table }
          (.names store.allIds.toList, { storage := storage })
        else (.storeFailed (.database .sqlite), d.disconnect)

def step (d : Databases) : DatabaseStep → DatabaseOutcome × Databases
  | .open file => d.openAt (d.path file)
  | .openInMemory => d.openAt DatabaseAddress.memoryName
  | .connect file => d.connectTo (d.path file)
  | .connectInMemory => d.connectTo DatabaseAddress.memoryName
  | .close => (.done, d.disconnect)
  | .writeFile file bytes =>
    let files := d.storage.files.write (d.path file) bytes
    (.done, { d with storage := { d.storage with files := files } })
  | .latest => (.version Database.latestVersion, d)
  | .setVersion version => d.change fun db => .ok { db with version := version }
  | .createTable omitted => d.change (bareTable omitted)
  | .dropTable => d.change withoutTable
  | .version => d.ask fun db => ofExcept .version db.readVersion
  | .pending => d.ask fun db => ofExcept .versions db.pendingVersions
  | .migrate => d.migrate
  | .objects => d.ask fun db => .names db.objects
  | .tryStore => d.tryStore

end Databases
end ModelDepot.Rehearsal
