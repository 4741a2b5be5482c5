import ModelDepot.Json.Printer

/-!
Records in text. A shape lists the members of a record once, and gives both directions: the
printer writes the members in this order, and the reader takes them in any order under their names,
or in this order as a sequence.
-/
namespace ModelDepot.Json

/-- One member of the records `σ`. -/
structure Member (σ : Type) where
  name : String
  /-- Other names under which the member is read. -/
  aliases : List String
  required : Bool
  /-- Reads the value and puts it into a record. -/
  read : Reader (σ → σ)
  /-- The text of the member's value, or nothing when the member is left out. -/
  print : σ → Option String

namespace Member
variable {σ : Type}

/-- A member that is always written. -/
def of {α : Type} (name : String) (read : Reader α) (print : α → String) (get : σ → α)
    (set : α → σ → σ) : Member σ :=
  ⟨name, [], false, set <$> read, fun value => some (print (get value))⟩

def text (name : String) (get : σ → String) (set : String → σ → σ) : Member σ :=
  of name Reader.text printText get set

def flag (name : String) (get : σ → Bool) (set : Bool → σ → σ) : Member σ :=
  of name Reader.flag printFlag get set

def stamp (name : String) (get : σ → Int64) (set : Int64 → σ → σ) : Member σ :=
  of name Reader.stamp printStamp get set

def dict {α : Type} (name : String) (read : Reader α) (print : α → String) (get : σ → Dict α)
    (set : Dict α → σ → σ) : Member σ :=
  of name (Reader.dict read) (printDict print) get set

/-- A member that may be absent and is left out when it is. -/
def optional {α : Type} (name : String) (read : Reader α) (print : α → String)
    (get : σ → Option α) (set : Option α → σ → σ) : Member σ :=
  ⟨name, [], false, set <$> Reader.nullable read, fun value => (get value).map print⟩

/-- The member, which then must be present. -/
def needed (m : Member σ) : Member σ := { m with required := true }

/-- The member, read under another name too. -/
def alsoNamed (m : Member σ) (other : String) : Member σ := { m with aliases := other :: m.aliases }

def answersTo (m : Member σ) (key : String) : Bool := key == m.name || m.aliases.contains key

end Member

/-- The members of the records `σ`, with the record that stands before any of them is read. -/
structure Shape (σ : Type) where
  title : String
  blank : σ
  members : List (Member σ)

namespace Shape
variable {σ : Type} (shape : Shape σ)

/-- What messages call the record. -/
def wanted : String := "struct " ++ shape.title

def wantedLength : String :=
  shape.wanted ++ " with " ++ toString shape.members.length ++
    (if shape.members.length = 1 then " element" else " elements")

/-- The first member that must be there and was not seen. -/
def firstMissing? (seen : List String) : Option String :=
  (shape.members.find? fun m => m.required && !seen.contains m.name).map (·.name)

/-- Members by name up to the closing mark. -/
def readNamed : Nat → Bool → List String → σ → Reader σ
  | 0, _, _, _ => Reader.fail .malformed
  | fuel + 1, isFirst, seen, value => do
    if ← Reader.anotherMember isFirst then
      let key ← Reader.quotedText
      match shape.members.find? (·.answersTo key) with
      | none =>
        Reader.keyEnd
        Reader.skip
        readNamed fuel false seen value
      | some m =>
        if seen.contains m.name then Reader.fail (.misfit (.repeated m.name))
        else
          Reader.keyEnd
          let put ← m.read
          readNamed fuel false (m.name :: seen) (put value)
    else
      match shape.firstMissing? seen with
      | some name => Reader.fail (.misfit (.missing name))
      | none =>
        Reader.advance
        return value

/-- Members in order, of which the last ones may be absent unless they must be there. -/
def readListed : List (Member σ) → Nat → σ → Reader σ
  | [], _, value => do
    Reader.close closeList
    return value
  | m :: more, index, value => do
    if ← Reader.anotherElement (index == 0) then
      let put ← m.read
      readListed more (index + 1) (put value)
    else if m.required then Reader.fail (.misfit (.length index shape.wantedLength))
    else readListed more index value

/-- Reads a record. -/
def read : Reader σ := do
  let b ← Reader.peek
  if b = openMap then
    Reader.advance
    shape.readNamed ((← get).length + 1) true [] shape.blank
  else if b = openList then
    Reader.advance
    shape.readListed shape.members 0 shape.blank
  else Reader.refuse shape.wanted

/-- The members that are written, with the text of their values. -/
def printed (value : σ) : List (String × String) :=
  shape.members.filterMap fun m => (m.print value).map (m.name, ·)

def print (value : σ) : String := printMembers (shape.printed value)

/-- The record that the whole input holds. -/
def parse (input : List UInt8) : Except Fault σ := shape.read.parse input

end Shape
end ModelDepot.Json
