/-!
What texts are cut at: the blanks at their ends, and the signs between their parts.
-/
namespace ModelDepot.Text

/-- The characters with the Unicode property of white space. -/
def isBlank (c : Char) : Bool :=
  let n := c.toNat
  (0x09 ≤ n && n ≤ 0x0d) || n == 0x20 || n == 0x85 || n == 0xa0 || n == 0x1680 ||
    (0x2000 ≤ n && n ≤ 0x200a) || n == 0x2028 || n == 0x2029 || n == 0x202f ||
    n == 0x205f || n == 0x3000

/-- The characters without the blanks at either end. -/
def trimChars (cs : List Char) : List Char :=
  ((cs.dropWhile isBlank).reverse.dropWhile isBlank).reverse

/-- The text without the blanks at either end. -/
def trim (s : String) : String := String.ofList (trimChars s.toList)

/-- The text holds nothing but blanks. -/
def allBlank (s : String) : Bool := s.toList.all isBlank

/-- The text with its ASCII letters in lower case. -/
def asciiLower (s : String) : String := String.ofList (s.toList.map Char.toLower)

/-- The parts of a list between the elements that separate. -/
def splitAtAll {α : Type} (separates : α → Bool) : List α → List (List α)
  | [] => [[]]
  | x :: rest =>
    if separates x then [] :: splitAtAll separates rest
    else
      match splitAtAll separates rest with
      | [] => [[x]]
      | part :: more => (x :: part) :: more

def splitChars (c : Char) (text : List Char) : List (List Char) := splitAtAll (· == c) text

end ModelDepot.Text
