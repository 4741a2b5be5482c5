import ModelDepot.Json.Reader

/-!
The compact text of values. Quoted texts keep every character but the marks of the notation and
the controls.
-/
namespace ModelDepot.Json

def hexDigit (n : Nat) : Char := (Nat.digitChar n)

/-- One character between quotes. -/
def printChar (c : Char) : List Char :=
  if c = '"' then ['\\', '"']
  else if c = '\\' then ['\\', '\\']
  else if c.toNat = 0x08 then ['\\', 'b']
  else if c.toNat = 0x0c then ['\\', 'f']
  else if c = '\n' then ['\\', 'n']
  else if c = '\r' then ['\\', 'r']
  else if c = '\t' then ['\\', 't']
  else if c.toNat < 0x20 then
    ['\\', 'u', '0', '0', hexDigit (c.toNat / 16), hexDigit (c.toNat % 16)]
  else [c]

def printText (s : String) : String :=
  String.ofList ('"' :: (s.toList.flatMap printChar ++ ['"']))

def printFlag (b : Bool) : String := if b then "true" else "false"
def printStamp (n : Int64) : String := toString n.toInt
def printCount (n : UInt64) : String := toString n.toNat
def printNullable {α : Type} (print : α → String) : Option α → String
  | none => "null"
  | some value => print value

def printMember (member : String × String) : String := printText member.1 ++ ":" ++ member.2

/-- Members between braces, in the given order. -/
def printMembers (members : List (String × String)) : String :=
  "\x7b" ++ ",".intercalate (members.map printMember) ++ "\x7d"

/-- A map with its keys in order. -/
def printDict {α : Type} (print : α → String) (dict : Dict α) : String :=
  printMembers (dict.toList.map fun entry => (entry.1, print entry.2))

end ModelDepot.Json
