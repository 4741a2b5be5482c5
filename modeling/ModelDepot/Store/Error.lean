import ModelDepot.Document

/-!
What may go wrong with the database and with the store in it.
-/
namespace ModelDepot

inductive DatabaseError where
  /-- The database itself refuses. -/
  | sqlite
  | unsupportedVersion (found latest : Nat)
  deriving DecidableEq, Repr

namespace DatabaseError

def message : DatabaseError → String
  | sqlite => "<sqlite>"
  | unsupportedVersion found latest =>
    "document store schema version " ++ toString found ++ " is newer than supported " ++
      toString latest

/-- What lies behind the error, outermost first. -/
def causes : DatabaseError → List String
  | sqlite => ["<sqlite>"]
  | unsupportedVersion .. => []

end DatabaseError

inductive StoreError where
  | validation (problem : ValidationError)
  | database (problem : DatabaseError)
  | invalidData (problem : String)
  | invalidQuery (problem : String)
  | wrongVersion (expected actual : Nat)
  | missingTable (table : String)
  | missingColumn (table column : String)
  | lockPoisoned
  | worker (problem : String)
  deriving DecidableEq, Repr

namespace StoreError

def message : StoreError → String
  | validation problem => problem.message
  | database problem => problem.message
  | invalidData problem => "invalid persisted process data: " ++ problem
  | invalidQuery problem => "invalid process query: " ++ problem
  | wrongVersion expected actual =>
    "connection schema version " ++ toString actual ++ " does not match expected " ++
      toString expected
  | missingTable table => "required table " ++ Json.marked table ++ " is missing"
  | missingColumn table column =>
    "required column " ++ Json.marked (table ++ "." ++ column) ++ " is missing"
  | lockPoisoned => "document store connection lock is poisoned"
  | worker problem => "document store worker failed: " ++ problem

def causes : StoreError → List String
  | validation problem => [problem.message]
  | database problem => problem.message :: problem.causes
  | _ => []

end StoreError
end ModelDepot
