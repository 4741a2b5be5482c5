import ModelDepot.Backfill
import ModelDepot.Proofs.Follows

/-!
The course of backfilling: pages are listed one after another, and for each document of a page missing grants are
given before the next one is looked at.
-/
namespace ModelDepot

/-- How far a backfill is. -/
inductive FillPoint where
  /-- Nothing was listed yet. -/
  | begun
  /-- These documents of a page are still to be looked at. -/
  | granting (rest : List Document)
  /-- The document has no grants, and these are to be looked at after it. -/
  | missing (document : Document) (rest : List Document)

/-- The calls of a backfill. -/
inductive FillRules (topic : String) : Rules FillPoint
  | report {point : FillPoint} {event : Event} : FillRules topic point (.report event) () point
  | first {page : DocumentPage} :
    FillRules topic .begun (.store (.list { limit := some Backfill.pageSize })) (.ok page) (.granting page.items)
  | next {offset : Nat} {page : DocumentPage} :
    FillRules topic (.granting []) (.store (.list { limit := some Backfill.pageSize, offset := offset })) (.ok page)
      (.granting page.items)
  | present {document : Document} {rest : List Document} {grants : Grants} :
    FillRules topic (.granting (document :: rest)) (.authority (.getResource topic document.id)) (.ok (some grants))
      (.granting rest)
  | absent {document : Document} {rest : List Document} :
    FillRules topic (.granting (document :: rest)) (.authority (.getResource topic document.id)) (.ok none)
      (.missing document rest)
  | given {document : Document} {rest : List Document} {answer : Except AuthorityError Unit} :
    FillRules topic (.missing document rest)
      (.authority (.setPermission topic document.id (.forOwner document.owner))) answer (.granting rest)

namespace Backfill
variable {topic : String}

theorem grantAll_follows (documents : List Document) (report : BackfillReport) :
    (grantAll topic documents report).Follows (FillRules topic) (fun _ point => point = .granting [])
      (.granting documents) := by
  induction documents generalizing report with
  | nil => rfl
  | cons document more ih =>
    apply Program.follows_bind
      (Q := fun found point =>
        point = if found.isSome then FillPoint.granting more else FillPoint.missing document more)
    · apply Program.follows_authority
      rintro (_ | grants)
      · exact ⟨_, .absent, rfl⟩
      · exact ⟨_, .present, rfl⟩
    rintro (_ | grants) point rfl
    · refine Program.follows_noted .report ?_
      apply Program.follows_bind (Q := fun _ point => point = FillPoint.granting more)
      · exact Program.follows_authority fun _ => ⟨_, .given, rfl⟩
      · rintro _ _ rfl
        exact ih _
    · exact ih _

/-- What follows on a page. -/
theorem listed_follows {left offset : Nat} (documents : List Document) (report : BackfillReport)
    (onward : ∀ report, (pagesFrom topic left offset report).Follows (FillRules topic)
      (fun _ point => point = .granting []) (.granting [])) :
    (if documents.isEmpty then pure report else do
      let report ← grantAll topic documents report
      pagesFrom topic left offset report).Follows (FillRules topic) (fun _ point => point = FillPoint.granting [])
        (.granting documents) := by
  split
  · rename_i none
    rw [List.isEmpty_iff.mp none]
    rfl
  · apply Program.follows_bind (grantAll_follows documents report)
    rintro report _ rfl
    exact onward report

theorem pagesFrom_follows (left offset : Nat) (report : BackfillReport) :
    (pagesFrom topic left offset report).Follows (FillRules topic) (fun _ point => point = .granting [])
      (.granting []) := by
  induction left generalizing offset report with
  | zero => rfl
  | succ left ih =>
    apply Program.follows_bind (Q := fun page point => point = FillPoint.granting page.items)
    · exact Program.follows_store fun page => ⟨_, .next, rfl⟩
    rintro page _ rfl
    exact listed_follows page.items report (ih (offset + pageSize))

/-- When a backfill ends, it has listed a page, and made sure of the grants of all that it listed. -/
theorem run_follows (topic : String) :
    (run topic).Follows (FillRules topic) (fun _ point => point = .granting []) .begun := by
  apply Program.follows_bind (Q := fun _ point => point = FillPoint.begun)
  · exact Program.follows_report ⟨_, .report, rfl⟩
  rintro _ _ rfl
  apply Program.follows_bind (Q := fun _ point => point = FillPoint.granting [])
  · apply Program.follows_bind (Q := fun page point => point = FillPoint.granting page.items)
    · exact Program.follows_store fun page => ⟨_, .first, rfl⟩
    rintro page _ rfl
    exact listed_follows page.items {} (pagesFrom_follows _ _)
  rintro report _ rfl
  apply Program.follows_bind (Q := fun _ point => point = FillPoint.granting [])
  · exact Program.follows_report ⟨_, .report, rfl⟩
  · exact fun _ _ same => same

end Backfill
end ModelDepot
