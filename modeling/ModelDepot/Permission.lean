import ModelDepot.Text.Cut
import ModelDepot.Json.Shape

/-!
What a caller may want to do with a resource, and which of these wishes a set of rights grants.
-/
namespace ModelDepot

inductive Permission where
  | read
  | write
  | execute
  | administrate
  deriving DecidableEq, Repr

namespace Permission

def all : List Permission := [read, write, execute, administrate]

def code : Permission → String
  | read => "r"
  | write => "w"
  | execute => "x"
  | administrate => "a"

def name : Permission → String
  | read => "Read"
  | write => "Write"
  | execute => "Execute"
  | administrate => "Administrate"

/-- The permissions by their codes. -/
def choices : List (String × Permission) := all.map fun p => (p.code, p)

/-- The permission with the given code, which may stand between blanks. -/
def ofCode? (text : String) : Option Permission := choices.lookup (Text.trim text)

def reader : Json.Reader Permission := Json.Reader.choice choices

def print (p : Permission) : String := Json.printText p.code

end Permission

/-- Which permissions a subject has. -/
structure Rights where
  read : Bool := false
  write : Bool := false
  execute : Bool := false
  administrate : Bool := false
  deriving DecidableEq, Repr

namespace Rights

def full : Rights := ⟨true, true, true, true⟩

def allow (rights : Rights) : Permission → Bool
  | .read => rights.read
  | .write => rights.write
  | .execute => rights.execute
  | .administrate => rights.administrate

def shape : Json.Shape Rights where
  title := "PermissionsMap"
  blank := {}
  members := [
    .flag "read" (·.read) fun b r => { r with read := b },
    .flag "write" (·.write) fun b r => { r with write := b },
    .flag "execute" (·.execute) fun b r => { r with execute := b },
    .flag "administrate" (·.administrate) fun b r => { r with administrate := b }]

end Rights
end ModelDepot
