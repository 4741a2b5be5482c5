import ModelDepot.Program
import ModelDepot.Command

/-!
The effect of commands on the document store.
-/
namespace ModelDepot

inductive ApplyOutcome where
  | upserted
  | deleted
  | alreadyAbsent
  deriving DecidableEq, Repr

def ApplyOutcome.name : ApplyOutcome → String
  | .upserted => "Upserted"
  | .deleted => "Deleted"
  | .alreadyAbsent => "AlreadyAbsent"

namespace Materialize

def ask (call : StoreCall) : Program StoreError call.Value := Program.store id call

/-- Stores a document, which is stamped now if it has no stamp. -/
def upsert (doc : Document) : Program StoreError Unit := do
  if doc.isStamped then ask (.upsert doc)
  else
    let now ← Program.now
    ask (.upsert (doc.stampIfUnset now))

def remove (id : String) : Program StoreError ApplyOutcome := do
  return if ← ask (.delete id) then .deleted else .alreadyAbsent

def «exists» (id : String) : Program StoreError Bool := do
  return (← ask (.get id)).isSome

def apply : Command → Program StoreError ApplyOutcome
  | .put _ document => do
    upsert document
    return .upserted
  | .delete id _ => remove id

end Materialize
end ModelDepot
