import ModelDepot.Logging
import ModelDepot.Service

/-!
A few files and directories. A path is walked part by part from the root, or from the working
directory when it does not start there; what is not known is taken to be missing.
-/
namespace ModelDepot.Rehearsal

/-- Why a path does not lead to what is wanted. -/
inductive FileProblem where
  | missing
  | notDirectory
  | isDirectory
  | occupied
  | invalidName
  | longName
  deriving DecidableEq, Repr

namespace FileProblem

def kind : FileProblem → String
  | missing => "NotFound"
  | notDirectory => "NotADirectory"
  | isDirectory => "IsADirectory"
  | occupied => "AlreadyExists"
  | invalidName => "InvalidInput"
  | longName => "InvalidFilename"

/-- The problem in the words of the system. -/
def message : FileProblem → String
  | missing => "No such file or directory (os error 2)"
  | notDirectory => "Not a directory (os error 20)"
  | isDirectory => "Is a directory (os error 21)"
  | occupied => "File exists (os error 17)"
  | invalidName => "file name contained an unexpected NUL byte"
  | longName => "File name too long (os error 36)"

/-- The problem by its kind alone. -/
def tag (problem : FileProblem) : String := "<io " ++ problem.kind ++ ">"

end FileProblem

/-- The names on a path from the root. -/
abbrev Names := List String

/-- A database in a file. -/
structure FileDatabase where
  current : Database
  /-- The content when nobody used the file last. -/
  saved : Database
  /-- Changes are first written to a log beside the file. -/
  isLogged : Bool
  /-- Those who used it last may only read, and so do not save it when they go. -/
  isOnlyRead : Bool := false

/-- What a file holds. -/
inductive Content where
  | bytes (bytes : List UInt8)
  | database (db : FileDatabase)

/-- The bytes with which the file of a database begins. -/
def databaseMark : List UInt8 := Json.utf8 "SQLite format 3" ++ [0]

def Content.toBytes : Content → List UInt8
  | .bytes list => list
  | .database _ => databaseMark

/-- What is at the end of a path. -/
inductive Place where
  | file (content : Content)
  | directory
  | free

structure Files where
  /-- The working directory. -/
  directory : String
  directories : List Names
  contents : List (Names × Content)

namespace Files

/-- The beginnings of a path. -/
def ancestors (names : Names) : List Names :=
  (List.range (names.length + 1)).map fun count => names.take count

/-- The directories that every system has. -/
def systemDirectories : List Names :=
  (["bin", "boot", "dev", "etc", "home", "lib", "media", "mnt", "opt", "proc", "root", "run",
    "sbin", "srv", "sys", "tmp", "usr", "var"].map fun name => [name]) ++
  (["bin", "lib", "local", "sbin", "share", "src"].map fun name => ["usr", name]) ++
  (["cache", "lib", "log", "tmp"].map fun name => ["var", name]) ++
  [["dev", "pts"], ["dev", "shm"], ["proc", "self"]]

/-- The names of devices, which hold nothing and keep nothing. -/
def devices : List Names :=
  ["null", "zero", "full", "random", "urandom", "tty"].map fun name => ["dev", name]

/-- The beginnings of files that every system has. -/
def systemFiles : List (Names × String) :=
  [(["etc", "passwd"], "root:x:0:0:root:/root:/bin/bash\n"), (["etc", "group"], "root:x:0:\n"),
    (["etc", "hosts"], "127.0.0.1 localhost\n"), (["etc", "hostname"], "localhost\n"),
    (["etc", "os-release"], "NAME=\n")]

/-- An empty working directory. -/
def empty (directory : String) : Files where
  directory := directory
  directories := systemDirectories ++ ancestors (Path.names directory)
  contents := devices.map (fun names => (names, .bytes [])) ++
    systemFiles.map fun entry => (entry.1, .bytes (Json.utf8 entry.2))

/-- The largest number of bytes in a name. -/
def maxName : Nat := 255

/-- The largest number of bytes in a path. -/
def maxPath : Nat := 4095

def place (f : Files) (names : Names) : Place :=
  match f.contents.lookup names with
  | some content => .file content
  | none => if f.directories.contains names then .directory else .free

/-- The parts of a path from the root. -/
def parts (f : Files) (path : String) : List String := Path.parts (Path.below f.directory path)

/-- The names after one more part of a path, which leads out of a directory. -/
def enter (f : Files) (here : Names) (part : String) : Except FileProblem Names :=
  match f.place here with
  | .file _ => .error .notDirectory
  | .free => .error .missing
  | .directory =>
    if part = "." then .ok here
    else if part = ".." then .ok here.dropLast
    else if maxName < part.utf8ByteSize then .error .longName
    else .ok (here ++ [part])

/-- The names after a walk through directories. -/
def walk (f : Files) (parts : List String) : Except FileProblem Names := parts.foldlM f.enter []

/-- Some paths lead nowhere, whatever there is. -/
def checkPath (path : String) : Except FileProblem Unit :=
  if path.contains '\x00' then .error .invalidName
  else if path = "" then .error .missing
  else if maxPath < path.utf8ByteSize then .error .longName
  else .ok ()

/-- What is at the end of a path. -/
def find (f : Files) (path : String) : Except FileProblem Place := do
  checkPath path
  let place := f.place (← f.walk (f.parts path))
  match place with
  | .file _ => if path.endsWith "/" then throw .notDirectory else return place
  | _ => return place

/-- The bytes of a file. -/
def read (f : Files) (path : String) : Except FileProblem (List UInt8) := do
  match ← f.find path with
  | .file content => return content.toBytes
  | .directory => throw .isDirectory
  | .free => throw .missing

/-- The files with a content at some names. -/
def put (f : Files) (names : Names) (content : Content) : Files :=
  { f with contents := (names, content) :: f.contents.filter (·.1 ≠ names) }

/-- The names on a path as it is written. -/
def names (f : Files) (path : String) : Names := Path.names (Path.below f.directory path)

def write (f : Files) (path : String) (bytes : List UInt8) : Files :=
  f.put (f.names path) (.bytes bytes)

/-- The files with a store in a file. -/
def writeStore (f : Files) (path : String) (store : Store) : Files :=
  let db : Database := { version := Database.latestVersion, table := some store.table }
  f.put (f.names path) (.database { current := db, saved := db, isLogged := true })

/-! ### Directories -/

/-- The files with a directory at the end of some parts; those before it must be there. -/
def makeLast (f : Files) (parts : List String) : Except FileProblem Files := do
  match parts.getLast? with
  | none => throw .occupied
  | some last =>
    let names ← f.enter (← f.walk parts.dropLast) last
    if last = "." || last = ".." then throw .occupied
    match f.place names with
    | .free => return { f with directories := names :: f.directories }
    | _ => throw .occupied

def isDirectory (f : Files) (parts : List String) : Bool :=
  match (f.walk parts).map f.place with
  | .ok .directory => true
  | _ => false

/-- A directory that could not be made may be there already. -/
def orPresent (f : Files) (parts : List String) (made : Except FileProblem Files) :
    Except FileProblem Files :=
  if f.isDirectory parts then .ok f else made

/-- The files with a directory at the end of the first of some paths, each of which leads to the
    parent of the one before. -/
def makeAll (f : Files) : List (List String) → Except FileProblem Files
  | [] => .ok f
  | parts :: parents =>
    match f.makeLast parts with
    | .error .missing => do
      let f ← f.makeAll parents
      f.orPresent parts (f.makeLast parts)
    | made => f.orPresent parts made

/-- The parents of a path, the nearest first; what means the place itself does not count. -/
def parents (parts : List String) : List (List String) :=
  let plain := (parts.reverse.dropWhile (· = ".")).reverse
  ((ancestors plain).filter fun p => p.length < plain.length && p.getLast? ≠ some ".").reverse

/-- The files with a directory at the end of a path, and all directories on the way. -/
def makeDirectory (f : Files) (path : String) : Except FileProblem Files := do
  checkPath path
  let parts := f.parts path
  f.makeAll (parts :: parents parts)

/-! ### Databases -/

/-- The largest number of bytes in the names of a database while they are resolved, and after
    that. -/
def maxResolving : Nat := 511
def maxResolved : Nat := 504

/-- The number of bytes of the names, each behind a slash. -/
def bytesOf (names : Names) : Nat := names.foldl (fun n name => n + 1 + name.utf8ByteSize) 0

/-- The names after one more part of the path to a database. They are resolved without regard to
    what is missing, but nothing can be in a file. -/
def resolvePart (f : Files) (here : Names) (part : String) : Option Names :=
  if part = "." then some here
  else if part = ".." then some here.dropLast
  else
    let next := here ++ [part]
    if maxResolving < bytesOf next then none
    else
      match f.place here with
      | .file _ => none
      | .directory => if maxName < part.utf8ByteSize then none else some next
      | .free => some next

/-- The names of a database. -/
def databaseNames (f : Files) (path : String) : Option Names := do
  let names ← (f.parts path).foldlM f.resolvePart []
  if names.isEmpty || maxResolved < bytesOf names then none else return names

end Files
end ModelDepot.Rehearsal
