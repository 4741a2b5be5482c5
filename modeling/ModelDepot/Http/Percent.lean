import ModelDepot.Json.Bytes

/-!
Bytes spelled with a percent sign and two hexadecimal digits.
-/
namespace ModelDepot.Http

def upperHex (n : Nat) : Char := (Nat.digitChar n).toUpper

/-- The spelling of one byte. -/
def escapeByte (b : UInt8) : List Char :=
  ['%', upperHex (b.toNat / 16), upperHex (b.toNat % 16)]

/-- The text with those characters spelled by their bytes that are not kept. -/
def percentEncode (kept : Char → Bool) (s : String) : String :=
  String.ofList (s.toList.flatMap fun c =>
    if kept c then [c] else (String.utf8EncodeChar c).flatMap escapeByte)

/-- The bytes of a text in which spelled bytes are resolved. -/
def percentDecode : List UInt8 → List UInt8
  | 0x25 :: a :: b :: rest =>
    match Json.hexValue? a, Json.hexValue? b with
    | some x, some y => UInt8.ofNat (x * 16 + y) :: percentDecode rest
    | _, _ => 0x25 :: percentDecode (a :: b :: rest)
  | b :: rest => b :: percentDecode rest
  | [] => []

/-- The characters below the first blank and the last one of ASCII. -/
def isControl (c : Char) : Bool := c.toNat < 0x20 || c.toNat = 0x7f

def isPlain (c : Char) : Bool := c.toNat < 0x80 && !isControl c

/-- What stays as it is in a path that is only a text. -/
def keptInText (c : Char) : Bool := isPlain c

def keptFragment (c : Char) : Bool := isPlain c && !(" \"<>`".toList.contains c)

/-- What stays as it is in a path. -/
def keptPath (c : Char) : Bool := keptFragment c && !(['#', '?', '\x7b', '\x7d'].contains c)

/-- What stays as it is in one segment that is put into a path. -/
def keptSegment (special : Bool) (c : Char) : Bool :=
  keptPath c && c != '/' && c != '%' && !(special && c == '\\')

def keptQuery (special : Bool) (c : Char) : Bool :=
  isPlain c && !(" \"#<>".toList.contains c) && !(special && c == '\'')

def keptUserInfo (c : Char) : Bool := keptPath c && !("/:;=@[\\]^|".toList.contains c)

/-- One character of a form. -/
def formChar (c : Char) : List Char :=
  if c = ' ' then ['+']
  else if c.isAlphanum || c = '*' || c = '-' || c = '.' || c = '_' then [c]
  else (String.utf8EncodeChar c).flatMap escapeByte

def formEncode (s : String) : String := String.ofList (s.toList.flatMap formChar)

/-- The pairs of a form. -/
def formPairs (pairs : List (String × String)) : String :=
  "&".intercalate (pairs.map fun p => formEncode p.1 ++ "=" ++ formEncode p.2)

end ModelDepot.Http
