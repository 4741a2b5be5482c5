import ModelDepot.Rehearsal.Files
import ModelDepot.Store.Address

/-!
Databases in files and in memory, and connections to them. All who are connected to a database see
what any of them changes; a database in memory lasts as long as someone is connected to it.
-/
namespace ModelDepot.Rehearsal

/-- Where a database is kept. -/
inductive Home where
  | memory (key : String)
  | file (names : Names)
  deriving DecidableEq, Repr

structure Connection where
  home : Home
  isWritable : Bool := true
  /-- It reads a file that is changed by way of a log. -/
  canLog : Bool := true
  /-- It takes the file as nobody has changed it since it was saved. -/
  isImmutable : Bool := false
  /-- The name under which its pages are shared. -/
  sharedAs : Option String := none
  deriving DecidableEq, Repr

/-- A file when some connections to it are in use: without any it is saved by the last ones. -/
def FileDatabase.release (file : FileDatabase) (users : List Connection) : FileDatabase :=
  if !users.isEmpty then { file with isOnlyRead := users.all (!·.isWritable) }
  else if file.isOnlyRead then file
  else { file with saved := file.current }

structure Storage where
  files : Files
  /-- Databases in memory by their keys. -/
  memories : List (String × Database) := []
  /-- How many databases were made for one connection alone. -/
  made : Nat := 0

namespace Storage

/-- The database that the content of a file is; one byte is as good as none. -/
def fileDatabase? : Content → Option FileDatabase
  | .bytes [] | .bytes [_] => some { current := {}, saved := {}, isLogged := false }
  | .bytes _ => none
  | .database file => some file

/-- The database in a file. -/
def file? (s : Storage) (names : Names) : Option FileDatabase :=
  (s.files.contents.lookup names).bind fileDatabase?

/-- The database behind a connection. -/
def read (s : Storage) (c : Connection) : Except DatabaseError Database :=
  match c.home with
  | .memory key =>
    match s.memories.lookup key with
    | some db => .ok db
    | none => .error .sqlite
  | .file names =>
    match s.file? names with
    | none => .error .sqlite
    | some file =>
      if c.isImmutable then .ok (if file.isLogged then file.saved else file.current)
      else if file.isLogged && !c.canLog then .error .sqlite
      else .ok file.current

def putFile (s : Storage) (names : Names) (file : FileDatabase) : Storage :=
  { s with files := s.files.put names (.database file) }

def putMemory (s : Storage) (key : String) (db : Database) : Storage :=
  { s with memories := (key, db) :: s.memories.filter (·.1 ≠ key) }

/-- The storage with another database behind a connection, if that may change it. -/
def save (s : Storage) (c : Connection) (db : Database) : Storage :=
  if c.isWritable then
    match c.home with
    | .memory key => s.putMemory key db
    | .file names =>
      match s.file? names with
      | some file => s.putFile names { file with current := db }
      | none => s
  else s

/-! ### Connections -/

/-- The number of bytes that are put behind a name for the file that makes a change safe. -/
def safeguardSize : Nat := "-journal".utf8ByteSize

/-- A name to which something can be added. -/
def hasRoom (names : Names) : Bool :=
  names.getLast?.all fun name => name.utf8ByteSize + safeguardSize ≤ Files.maxName

/-- The key of pages by the means and a name, which is that of a file from the root. -/
def pageKey (address : DatabaseAddress) (name : String) : String :=
  address.means.label ++ " " ++ name

/-- The connection in use that works with the pages of a key. -/
def sharer? (inUse : List Connection) (address : DatabaseAddress) (key : String) :
    Option Connection :=
  if address.sharesPages then inUse.find? (·.sharedAs = some key) else none

/-- The key under which a database in memory is found again, if it can be. -/
def memoryKey? (address : DatabaseAddress) : Option String :=
  if address.isTemporary then none
  else if address.sharesPages ||
      (!address.isInMemory && address.name.startsWith "/" && address.name ≠ "/") then
    some (pageKey address address.name)
  else none

/-- Connects to a database in memory. -/
def connectMemory (s : Storage) (inUse : List Connection) (address : DatabaseAddress) :
    Connection × Storage :=
  let isWritable := address.mode ≠ .readOnly && !address.isImmutable
  match memoryKey? address with
  | none =>
    let key := toString s.made
    ({ home := .memory key, isWritable := isWritable },
      { s with made := s.made + 1 }.putMemory key {})
  | some key =>
    match sharer? inUse address key with
    | some c => (c, s)
    | none =>
      let s := if (s.memories.lookup key).isSome then s else s.putMemory key {}
      ({ home := .memory key
         isWritable := isWritable
         sharedAs := if address.sharesPages then some key else none }, s)

/-- A file after whose permissions that of a new database is modelled must be there. -/
def hasModel (s : Storage) (address : DatabaseAddress) : Bool :=
  match address.options.lookup "modeof" with
  | none => true
  | some path =>
    match s.files.find path with
    | .ok (.file _) | .ok .directory => true
    | _ => false

/-- Connects to a database in a file, which is made if that is allowed. -/
def connectFile (s : Storage) (inUse : List Connection) (address : DatabaseAddress) :
    Except DatabaseError Connection × Storage :=
  match s.files.databaseNames address.name with
  | none => (.error .sqlite, s)
  | some names =>
    let key := pageKey address ("/" ++ "/".intercalate names)
    match sharer? inUse address key with
    | some c => (.ok c, s)
    | none =>
      let c : Connection :=
        { home := .file names
          isWritable := address.mode ≠ .readOnly && !address.isImmutable && hasRoom names
          canLog := address.canLog
          isImmutable := address.isImmutable
          sharedAs := if address.sharesPages then some key else none }
      if !s.hasModel address then (.error .sqlite, s)
      else
        match s.files.place names, s.files.place names.dropLast with
        | .file _, _ => (if Files.devices.contains names then .error .sqlite else .ok c, s)
        | .free, .directory =>
          if address.mode = .create then
            (.ok c, { s with files := s.files.put names (.bytes []) })
          else (.error .sqlite, s)
        | _, _ => (.error .sqlite, s)

/-- Connects to the database that a path names. -/
def connect (s : Storage) (inUse : List Connection) (path : String) :
    Except DatabaseError Connection × Storage :=
  if path.contains '\x00' then (.error .sqlite, s)
  else
    match DatabaseAddress.ofPath? path with
    | none => (.error .sqlite, s)
    | some address =>
      if address.isInMemory || address.isTemporary || address.means = .memory then
        let (c, s) := s.connectMemory inUse address
        (.ok c, s)
      else s.connectFile inUse address

/-- Has changes written to a log first, where a connection can do that. -/
def startLog (s : Storage) (c : Connection) : Except DatabaseError Unit × Storage :=
  match s.read c, c.home with
  | .error problem, _ => (.error problem, s)
  | .ok _, .memory _ => (.ok (), s)
  | .ok db, .file names =>
    if c.isImmutable || !c.canLog || (s.file? names).any (·.isLogged) then (.ok (), s)
    else if c.isWritable then
      (.ok (), s.putFile names { current := db, saved := db, isLogged := true })
    else (.error .sqlite, s)

/-- Connects to the database that a path names, with changes by way of a log. -/
def connectLogged (s : Storage) (inUse : List Connection) (path : String) :
    Except DatabaseError Connection × Storage :=
  match s.connect inUse path with
  | (.error problem, s) => (.error problem, s)
  | (.ok c, s) =>
    match s.startLog c with
    | (.ok (), s) => (.ok c, s)
    | (.error problem, s) => (.error problem, s)

/-- What a connection finds. -/
def found (s : Storage) (c : Connection) : Except DatabaseError Database.Found :=
  (s.read c).map fun db => ⟨db, c.isWritable⟩

/-- The storage with the database behind a connection at the latest version, if it gets there. -/
def migrated (s : Storage) (c : Connection) : Storage :=
  match (s.found c).bind fun found => (Database.migrateReported found).1 with
  | .ok db => s.save c db
  | .error _ => s

/-- The storage when only some connections are in use; other databases in memory are gone. -/
def release (s : Storage) (inUse : List Connection) : Storage :=
  let users (home : Home) : List Connection :=
    inUse.filter fun c => c.home = home && !c.isImmutable
  let settle (entry : Names × Content) : Names × Content :=
    match entry with
    | (names, .database file) => (names, .database (file.release (users (.file names))))
    | entry => entry
  { s with
    files := { s.files with contents := s.files.contents.map settle }
    memories := s.memories.filter fun entry => !(users (.memory entry.1)).isEmpty }

end Storage
end ModelDepot.Rehearsal
