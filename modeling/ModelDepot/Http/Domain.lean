import ModelDepot.Http.Domain.Mapping
import ModelDepot.Http.Domain.Composition
import ModelDepot.Http.Domain.Direction
import ModelDepot.Http.Domain.Joining
import ModelDepot.Http.Domain.Punycode
import ModelDepot.Http.Percent
import ModelDepot.Text.Lossy

/-!
Names of hosts in any script. A name is read as its labels, in the characters that they stand for.
-/
namespace ModelDepot.Http.Domain

/-- Characters that no name may hold. -/
def isForbidden (c : Char) : Bool :=
  isControl c || " #/:<>?@[\\]^|%".toList.contains c

/-- What the labels begin with that stand for others. -/
def codedMark : List Char := "xn--".toList

/-- The longest label that stands for another one, without the mark. -/
def maxCoded : Nat := 2000

/-- The longest label of other than ASCII characters. -/
def maxUncoded : Nat := 1000

def isAscii (label : List Char) : Bool := label.all (·.toNat < 0x80)

/-- The characters of a label stand where they may. -/
def isSound (label : List Char) : Bool :=
  isAscii label ||
    (!label.head?.any isMark && admitsSigns [] label && label.length ≤ maxUncoded)

/-- A label that another one stands for is read as it is. -/
def isRead (label : List Char) : Bool :=
  label.all (fun c => readChar c == some [c]) && composedForm label == label

/-- The label in the characters that it stands for. -/
def readLabel (label : List Char) : Option (List Char) := do
  let label ←
    if codedMark.isPrefixOf label then
      let coded := label.drop codedMark.length
      if !isAscii coded || label.getLast? = some '-' || maxCoded < coded.length then none
      else (Punycode.decode coded).filter isRead
    else some label
  if isSound label then some label else none

/-- The labels of a name, unless there is no such name. -/
def read (name : List UInt8) : Option (List (List Char)) := do
  let text := composedForm ((← (Text.lossy name).toList.mapM readChar).flatten)
  if text.any isForbidden then none
  else
    let labels ← (Text.splitChars '.' text).mapM readLabel
    if Direction.admitsAll labels then some labels else none

/-- The labels with points between them. -/
def join (labels : List (List Char)) : List Char := (labels.intersperse ['.']).flatten

end ModelDepot.Http.Domain
