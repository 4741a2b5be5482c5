import ModelDepot.Materialize
import ModelDepot.Duration

/-!
A cleanup pass removes the grants without a document and the documents without a grant. A
document is removed only when it was not updated for some time and the authority confirms that it
has no grant; a grant whose document arrives while it is removed is put back.
-/
namespace ModelDepot

inductive CleanupError where
  | inProgress
  | authority (problem : AuthorityError)
  | store (problem : StoreError)
  deriving DecidableEq, Repr

namespace CleanupError

def message : CleanupError → String
  | inProgress => "a cleanup pass is already running"
  | authority problem => "cleanup aborted: " ++ problem.message
  | store problem => "cleanup aborted: " ++ problem.message

def causes : CleanupError → List String
  | inProgress => []
  | authority problem => problem.message :: problem.causes
  | store problem => problem.message :: problem.causes

end CleanupError

/-- What a pass removed. -/
structure CleanupReport where
  permissionsRemoved : Nat := 0
  documentsRemoved : Nat := 0
  deriving DecidableEq, Repr

/-- How passes are made: for which topic, how long a document is left alone after its last
    update, and how many ids are listed at a time. -/
structure Cleanup where
  topic : String
  grace : Duration := .ofSeconds 60
  pageSize : Nat := 1000
  deriving DecidableEq, Repr

/-- All ids with a grant, from an offset on. The offsets are numbers of 64 bits, which bounds how
    many pages are left. -/
def listedIdsFrom (topic : String) (pageSize : Nat) :
    Nat → Nat → IdSet → Program AuthorityError IdSet
  | 0, _, ids => pure ids
  | left + 1, offset, ids => do
    let batch ← Program.authority id (.adminList topic ⟨pageSize, offset⟩)
    let ids := ids.insertMany batch
    if pageSize = 0 || batch.length < pageSize then return ids
    else listedIdsFrom topic pageSize left (offset + batch.length) ids

/-- All ids with a grant, listed page by page until one is not full. -/
def listedIds (topic : String) (pageSize : Nat) : Program AuthorityError IdSet :=
  listedIdsFrom topic pageSize UInt64.size 0 ∅

namespace Cleanup

def askStore (call : StoreCall) : Program CleanupError call.Value := Program.store .store call

def askAuthority (call : AuthorityCall) : Program CleanupError call.Value :=
  Program.authority .authority call

def stored (id : String) : Program CleanupError Bool := (Materialize.exists id).mapError .store

/-- Removes the grant of a document that is not stored, and answers whether it stayed removed. -/
def removeGrant (topic id : String) : Program CleanupError Bool := do
  match ← askAuthority (.getResource topic id) with
  | none => return false
  | some grants =>
    if ← stored id then return false
    else
      askAuthority (.removeResource topic id)
      if ← stored id then
        askAuthority (.setPermission topic id grants)
        Program.report ⟨.warn, "cleanup_grant", "service", "warn",
          [("id", id), ("action", "restored")]⟩
        return false
      else return true

/-- Removes the grants of the ids, and answers how many stayed removed. -/
def removeGrants (topic : String) : List String → Nat → Program CleanupError Nat
  | [], removed => pure removed
  | id :: more, removed => do
    if ← removeGrant topic id then removeGrants topic more (removed + 1)
    else removeGrants topic more removed

/-- The time before which an update is too old to protect a document. -/
def cutoff (grace : Duration) (now : Int64) : Int64 :=
  let seconds : Int := min grace.seconds Int64.maxValue.toInt
  Int64.ofInt (max Int64.minValue.toInt (now.toInt - seconds))

/-- Removes a stale document that has no grant, and answers whether it was there. -/
def removeDocument (topic id : String) : Program CleanupError Bool := do
  match ← askAuthority (.getResource topic id) with
  | some _ => return false
  | none => return (← (Materialize.remove id).mapError .store) = .deleted

def removeDocuments (topic : String) : List String → Nat → Program CleanupError Nat
  | [], removed => pure removed
  | id :: more, removed => do
    if ← removeDocument topic id then removeDocuments topic more (removed + 1)
    else removeDocuments topic more removed

/-- The ids of the first set that are not in the second one, in order. -/
def without (a b : IdSet) : List String := a.toList.filter (!b.contains ·)

/-- One pass. -/
def pass (c : Cleanup) : Program CleanupError CleanupReport := do
  let granted ← (listedIds c.topic c.pageSize).mapError .authority
  let documents ← askStore .allIds
  let permissionsRemoved ← removeGrants c.topic (without granted documents) 0
  let now ← Program.now
  let stale ← askStore (.staleIds (cutoff c.grace now))
  let ungranted := (without documents granted).filter stale.contains
  let documentsRemoved ← removeDocuments c.topic ungranted 0
  return ⟨permissionsRemoved, documentsRemoved⟩

/-- A pass, unless another one is running. -/
def passUnless (c : Cleanup) (running : Bool) : Program CleanupError CleanupReport :=
  if running then Program.fail .inProgress else c.pass

end Cleanup
end ModelDepot
