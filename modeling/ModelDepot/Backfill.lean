import ModelDepot.Control

/-!
Backfill gives every stored document that has no grant a grant to its owner.
-/
namespace ModelDepot

structure BackfillReport where
  scanned : Nat := 0
  granted : Nat := 0
  deriving DecidableEq, Repr

namespace Backfill

/-- The number of documents that are read at a time. -/
def pageSize : Nat := 1000

/-- The number of pages whose offsets have 32 bits. -/
def maxPages : Nat := (UInt32.size - 1) / pageSize + 1

/-- Makes sure of the grants of some documents. -/
def grantAll (topic : String) : List Document → BackfillReport → Program ControlError BackfillReport
  | [], report => pure report
  | document :: more, report => do
    match ← Control.askAuthority (.getResource topic document.id) with
    | some _ => grantAll topic more { report with scanned := report.scanned + 1 }
    | none =>
      if document.owner = "" then
        Program.report ⟨.warn, "permission_backfill", "service", "warn",
          [("id", document.id), ("reason", "missing_owner")]⟩
      Control.askAuthority (.setPermission topic document.id (.forOwner document.owner))
      grantAll topic more ⟨report.scanned + 1, report.granted + 1⟩

/-- The pages from an offset on, up to the first one without documents. -/
def pagesFrom (topic : String) :
    Nat → Nat → BackfillReport → Program ControlError BackfillReport
  | 0, _, report => pure report
  | left + 1, offset, report => do
    let page ← Control.askStore (.list { limit := some pageSize, offset := offset })
    if page.items.isEmpty then return report
    else
      let report ← grantAll topic page.items report
      pagesFrom topic left (offset + pageSize) report

def run (topic : String) : Program ControlError BackfillReport := do
  Program.report ⟨.info, "permission_backfill", "service", "start", [("topic", topic)]⟩
  let report ← pagesFrom topic maxPages 0 {}
  Program.report ⟨.info, "permission_backfill", "service", "ok",
    [("topic", topic), ("scanned", toString report.scanned),
      ("granted", toString report.granted)]⟩
  return report

end Backfill
end ModelDepot
