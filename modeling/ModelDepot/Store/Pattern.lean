import ModelDepot.Text.Cut

/-!
Search patterns. In a pattern one sign stands for any run of characters, one for any single
character, and one takes its meaning from the sign after it. A text that is searched for is
escaped, so it stands for itself up to the case of ASCII letters.
-/
namespace ModelDepot.Pattern

inductive Token where
  | anyRun
  | anyOne
  | char (c : Char)
  deriving DecidableEq, Repr

/-- The parts of a pattern; one that ends with a lone escape sign has none. -/
def tokens : List Char → Option (List Token)
  | [] => some []
  | '\\' :: [] => none
  | '\\' :: c :: rest => (tokens rest).map (.char c :: ·)
  | '%' :: rest => (tokens rest).map (.anyRun :: ·)
  | '_' :: rest => (tokens rest).map (.anyOne :: ·)
  | c :: rest => (tokens rest).map (.char c :: ·)

/-- ASCII letters are compared without their case. -/
def sameLetter (a b : Char) : Bool := a.toLower == b.toLower

/-- Some end of the text is accepted. -/
def someEnd (accepts : List Char → Bool) : List Char → Bool
  | [] => accepts []
  | c :: rest => accepts (c :: rest) || someEnd accepts rest

/-- The whole text matches the parts. -/
def matchTokens : List Token → List Char → Bool
  | [], text => text.isEmpty
  | .anyRun :: more, text => someEnd (matchTokens more) text
  | .anyOne :: more, text =>
    match text with
    | [] => false
    | _ :: rest => matchTokens more rest
  | .char p :: more, text =>
    match text with
    | [] => false
    | c :: rest => sameLetter p c && matchTokens more rest

/-- The last two numbers of the first plane are no characters to a comparison, which reads them
    both as the character for what cannot be read. -/
def readAs (c : Char) : Char :=
  if c.toNat = 0xfffe || c.toNat = 0xffff then '\ufffd' else c

/-- The characters that a comparison reads; the first NUL ends a text. -/
def compared (text : String) : List Char :=
  (text.toList.takeWhile (· != '\x00')).map readAs

/-- The text matches the pattern. -/
def matchText (pattern : String) (text : String) : Bool :=
  match tokens (compared pattern) with
  | none => false
  | some parts => matchTokens parts (compared text)

def escapeChar (c : Char) : List Char :=
  if c = '%' || c = '_' || c = '\\' then ['\\', c] else [c]

/-- The pattern of the texts that contain the given one. -/
def containing (search : String) : String :=
  String.ofList ('%' :: (search.toList.flatMap escapeChar ++ ['%']))

/-- The longest pattern in bytes. -/
def maxBytes : Nat := 50000

end ModelDepot.Pattern
