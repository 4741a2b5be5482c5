import ModelDepot.Grants

/-!
What is asked of the permission authority, and what it answers or fails with.
-/
namespace ModelDepot

inductive AuthorityError where
  /-- No answer arrived. -/
  | transport
  | status (code : Nat) (problem : String)
  | decode (problem : String)
  | invalidUrl (problem : String)
  | unknownTopic (topic : String)
  | unavailable (problem : String)
  deriving DecidableEq, Repr

namespace AuthorityError

def message : AuthorityError → String
  | transport => "permission authority request failed: <transport>"
  | status code problem =>
    "permission authority answered " ++ toString code ++ ": " ++ problem
  | decode problem => "unable to decode permission authority response: " ++ problem
  | invalidUrl problem => "invalid permission authority url: " ++ problem
  | unknownTopic topic =>
    "topic " ++ Json.marked topic ++ " is not registered at the permission authority"
  | unavailable problem => "permission authority unavailable: " ++ problem

def causes : AuthorityError → List String
  | transport => ["<transport>"]
  | _ => []

end AuthorityError

inductive AuthorityCall where
  /-- Makes a topic known, so that grants may be written for it. -/
  | setTopic (registration : Registration)
  | check (caller : Caller) (topic id : String) (permission : Permission)
  | checkMany (caller : Caller) (topic : String) (ids : List String) (permission : Permission)
  /-- The ids on which the caller has the permission. -/
  | accessible (caller : Caller) (topic : String) (page : Page) (permission : Permission)
  /-- All ids with a grant. -/
  | adminList (topic : String) (page : Page)
  | getResource (topic id : String)
  | setPermission (topic id : String) (grants : Grants)
  | removeResource (topic id : String)

/-- What a call is answered with when it succeeds. -/
abbrev AuthorityCall.Value : AuthorityCall → Type
  | .setTopic _ => Unit
  | .check .. => Bool
  | .checkMany .. => Dict Bool
  | .accessible .. => List String
  | .adminList .. => List String
  | .getResource .. => Option Grants
  | .setPermission .. => Unit
  | .removeResource .. => Unit

end ModelDepot
