import ModelDepot.Text.Quoted

/-!
Why a text is refused: it ends too early, it is not JSON, or it is JSON of another kind than the
one wanted.
-/
namespace ModelDepot.Json

/-- What was found in the place of another value. -/
inductive Found where
  | null
  | boolean (value : Bool)
  | integer (value : Int)
  | fraction (shown : String)
  | text (value : String)
  | sequence
  | map
  deriving DecidableEq, Repr

/-- How a value differs from what is wanted in its place. -/
inductive Misfit where
  | kind (found : Found) (wanted : String)
  | range (value : Int) (wanted : String)
  | length (count : Nat) (wanted : String)
  | missing (field : String)
  | repeated (field : String)
  | variant (name : String) (known : List String)
  deriving DecidableEq, Repr

inductive Fault where
  | endsEarly
  | malformed
  | misfit (problem : Misfit)
  deriving DecidableEq, Repr

/-- A name set off from the words around it. -/
def marked (name : String) : String := "`" ++ name ++ "`"

def Found.message : Found → String
  | .null => "null"
  | .boolean value => "boolean " ++ marked (if value then "true" else "false")
  | .integer value => "integer " ++ marked (toString value)
  | .fraction shown => "floating point " ++ marked shown
  | .text value => "string " ++ Text.quoted value
  | .sequence => "sequence"
  | .map => "map"

/-- The known names: two are joined by a word, more are listed. -/
def alternatives (known : List String) : String :=
  match known with
  | [one] => marked one
  | [one, other] => marked one ++ " or " ++ marked other
  | names => "one of " ++ ", ".intercalate (names.map marked)

def Misfit.message : Misfit → String
  | .kind found wanted => "invalid type: " ++ found.message ++ ", expected " ++ wanted
  | .range value wanted =>
    "invalid value: " ++ (Found.integer value).message ++ ", expected " ++ wanted
  | .length count wanted => "invalid length " ++ toString count ++ ", expected " ++ wanted
  | .missing field => "missing field " ++ marked field
  | .repeated field => "duplicate field " ++ marked field
  | .variant name known =>
    "unknown variant " ++ marked name ++ ", expected " ++ alternatives known

def Fault.message : Fault → String
  | .endsEarly => "<json eof>"
  | .malformed => "<json syntax>"
  | .misfit problem => "<json data: " ++ problem.message ++ ">"

end ModelDepot.Json
