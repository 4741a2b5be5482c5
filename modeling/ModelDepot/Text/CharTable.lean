import ModelDepot.Text.Cut

/-!
Tables of characters that are written as texts. Characters stand there by their numbers in
hexadecimal digits, and entries are apart by blanks.
-/
namespace ModelDepot.Text

def hexDigit (c : Char) : Nat :=
  if c.isDigit then c.toNat - '0'.toNat else c.toNat - 'a'.toNat + 10

def hexNumber (digits : List Char) : Nat := digits.foldl (fun n c => n * 16 + hexDigit c) 0

/-- Some characters one after another. -/
structure CharRange where
  first : Nat
  last : Nat
  deriving DecidableEq, Repr

namespace CharRange

/-- A range is its two ends with a dash between them, or its only character. -/
def ofChars (text : List Char) : CharRange :=
  match splitChars '-' text with
  | [first, last] => ⟨hexNumber first, hexNumber last⟩
  | _ => ⟨hexNumber text, hexNumber text⟩

def contains (range : CharRange) (c : Char) : Bool :=
  range.first ≤ c.toNat && c.toNat ≤ range.last

end CharRange

/-- The entries of a table. -/
def entries (lines : List String) : List (List Char) :=
  lines.flatMap fun line => splitChars ' ' line.toList

def ranges (lines : List String) : List CharRange := (entries lines).map CharRange.ofChars

def isIn (table : List CharRange) (c : Char) : Bool := table.any (·.contains c)

/-- The characters of a spelling, with points between them. -/
def spelledChars (text : List Char) : List Char :=
  (splitChars '.' text).map fun digits => Char.ofNat (hexNumber digits)

/-- An entry spells a character and those right behind it: the number of the first one, and the
    spellings with commas between them. -/
def spellingsOf (entry : List Char) : List (Char × List Char) :=
  match splitChars '>' entry with
  | [first, texts] =>
    let texts := splitChars ',' texts
    (List.range texts.length).zipWith
      (fun i text => (Char.ofNat (hexNumber first + i), spelledChars text)) texts
  | _ => []

def spellings (lines : List String) : List (Char × List Char) :=
  (entries lines).flatMap spellingsOf

end ModelDepot.Text
