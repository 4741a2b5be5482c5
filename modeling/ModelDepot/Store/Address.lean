import ModelDepot.Http.Percent
import ModelDepot.Text.Cut
import ModelDepot.Text.Lossy

/-!
Where a database is. A path is the name of a file, unless it begins as an address; then it has a
name, options, and a last part that says nothing.
-/
namespace ModelDepot

/-- What may be done with a database that is opened. -/
inductive OpenMode where
  | readOnly
  | readWrite
  | create
  /-- The database is in memory, whatever its name is. -/
  | memory
  deriving DecidableEq, Repr

namespace OpenMode

def choices : List (String × OpenMode) :=
  [("ro", readOnly), ("rw", readWrite), ("rwc", create), ("memory", memory)]

/-- How much the mode asks for. -/
def rank : OpenMode → Nat
  | memory => 0
  | readOnly => 1
  | readWrite => 2
  | create => 3

/-- A later choice of the mode cannot ask for more than an earlier one, unless that one asked for
    memory. -/
def admits (current next : OpenMode) : Bool := current = memory || next.rank ≤ current.rank

end OpenMode

/-- The means by which the bytes of a database are read and written. -/
inductive StorageMeans where
  | standard
  | exclusive
  | withoutLocks
  /-- A second file beside the database locks it. -/
  | lockFile
  | memory
  deriving DecidableEq, Repr

namespace StorageMeans

def choices : List (String × StorageMeans) :=
  [("unix", standard), ("unix-excl", exclusive), ("unix-none", withoutLocks),
    ("unix-dotfile", lockFile), ("memdb", memory)]

def label (means : StorageMeans) : String :=
  ((choices.find? (·.2 = means)).map (·.1)).getD ""

end StorageMeans

/-- A database by its name, and how it is opened. -/
structure DatabaseAddress where
  name : String
  mode : OpenMode := .create
  means : StorageMeans := .standard
  /-- Whoever opens the database in this way too works with the same pages. -/
  sharesPages : Bool := false
  options : List (String × String) := []
  deriving DecidableEq, Repr

namespace DatabaseAddress

/-- How a path begins that is an address. -/
def scheme : String := "file:"

/-- The only host that may be named. -/
def localHost : List UInt8 := Json.utf8 "localhost"

/-- The text of some bytes in which spelled bytes are resolved; a zero byte ends it. -/
def decodeText (bytes : List UInt8) : String :=
  Text.lossy ((Http.percentDecode bytes).takeWhile (· != 0))

/-- The name and the value of an option; without a value it is empty. -/
def readOption (bytes : List UInt8) : String × String :=
  let separates (b : UInt8) : Bool := b = 0x3d
  (decodeText (bytes.takeWhile (!separates ·)),
    decodeText ((bytes.dropWhile (!separates ·)).drop 1))

/-- The options that have a name. -/
def readOptions (bytes : List UInt8) : List (String × String) :=
  ((Text.splitAtAll (· == 0x26) bytes).map readOption).filter (·.1 ≠ "")

/-- The address after one more option; most options are only kept. -/
def apply (address : DatabaseAddress) : String × String → Option DatabaseAddress
  | ("mode", value) => do
    let mode ← OpenMode.choices.lookup value
    if address.mode.admits mode then return { address with mode := mode } else none
  | ("cache", "shared") => some { address with sharesPages := true }
  | ("cache", "private") => some { address with sharesPages := false }
  | ("cache", _) => none
  | _ => some address

/-- The means that the last option for them names. -/
def readMeans (options : List (String × String)) : Option StorageMeans :=
  match options.reverse.lookup "vfs" with
  | none => some .standard
  | some value => StorageMeans.choices.lookup value

/-- The address in what follows its beginning. -/
def readBody (bytes : List UInt8) : Option DatabaseAddress := do
  let bytes ← match bytes with
    | 0x2f :: 0x2f :: rest =>
      let host := rest.takeWhile (· != 0x2f)
      if host.isEmpty || host = localHost then some (rest.drop host.length) else none
    | _ => some bytes
  let bytes := bytes.takeWhile (· != 0x23)
  let options := readOptions ((bytes.dropWhile (· != 0x3f)).drop 1)
  let means ← readMeans options
  let start : DatabaseAddress :=
    { name := decodeText (bytes.takeWhile (· != 0x3f)), means := means, options := options }
  options.foldlM apply start

/-- The database that a path names, unless it is an address that nobody understands. -/
def ofPath? (path : String) : Option DatabaseAddress :=
  if path.startsWith scheme then readBody ((Json.utf8 path).drop scheme.utf8ByteSize)
  else some { name := path }

/-- The number that the digits at the beginning of a text spell. -/
def digitsValue (base value : Nat) : List UInt8 → Nat
  | [] => value
  | b :: rest =>
    match Json.hexValue? b with
    | some digit => if digit < base then digitsValue base (value * base + digit) rest else value
    | none => value

/-- The number at the beginning of a text, with hexadecimal digits behind `0x`. -/
def leadingNumber : List UInt8 → Nat
  | 0x30 :: 0x78 :: rest | 0x30 :: 0x58 :: rest => digitsValue 16 0 rest
  | text => digitsValue 10 0 text

/-- A value that means yes: a word for it, or a number of 31 bits whose last 8 are not all zero. -/
def meansYes (value : String) : Bool :=
  if value.toList.head?.any Char.isDigit then
    let number := leadingNumber (Json.utf8 value)
    number < 0x80000000 && number % 0x100 ≠ 0
  else ["on", "yes", "true"].contains (Text.asciiLower value)

/-- The first option of a name means yes. -/
def isSet (address : DatabaseAddress) (option : String) : Bool :=
  (address.options.lookup option).any meansYes

/-- The name of a database in memory. -/
def memoryName : String := ":memory:"

/-- The database is kept in memory, without regard to the means. -/
def isInMemory (address : DatabaseAddress) : Bool :=
  address.name = memoryName || address.mode = .memory

/-- The database is kept for this use alone, and nowhere else. -/
def isTemporary (address : DatabaseAddress) : Bool := address.name = ""

def isImmutable (address : DatabaseAddress) : Bool :=
  !address.isInMemory && !address.isTemporary && address.isSet "immutable"

/-- Changes are first written to a log beside the file. -/
def canLog (address : DatabaseAddress) : Bool :=
  (address.means = .standard || address.means = .exclusive) && !address.isSet "nolock"

end DatabaseAddress
end ModelDepot
