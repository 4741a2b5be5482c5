import ModelDepot.Cleanup
import ModelDepot.Proofs.Follows

/-!
The course of a cleanup pass: which calls are made at which point. What a pass has listed decides
which grants it may remove and which documents; for each one it looks again before it removes it, and
after it removed a grant.
-/
namespace ModelDepot

/-- What a pass has listed: the ids with a grant and those of documents. -/
structure Listed where
  granted : IdSet
  documents : IdSet

/-- How far a pass is. -/
inductive PassPoint where
  | listing (granted : IdSet)
  /-- Between the grants that are looked at. -/
  | revoking (listed : Listed)
  /-- A grant without a listed document is still there. -/
  | found (listed : Listed) (id : String) (grants : Grants)
  /-- There is no document for it. -/
  | absent (listed : Listed) (id : String) (grants : Grants)
  /-- It is removed. -/
  | revoked (listed : Listed) (id : String) (grants : Grants)
  /-- It is removed, and there is a document now. -/
  | arrived (listed : Listed) (id : String) (grants : Grants)
  | dating (listed : Listed) (time : Int64)
  /-- Between the stale documents that are looked at. -/
  | deleting (listed : Listed) (stale : IdSet)
  /-- A stale document without a listed grant has none. -/
  | ungranted (listed : Listed) (stale : IdSet) (id : String)

/-- Nothing is left to look at. -/
def PassPoint.Finished : PassPoint → Prop
  | .deleting _ _ => True
  | _ => False

/-- The calls of a pass. -/
inductive PassRules (c : Cleanup) : Rules PassPoint
  | report {point : PassPoint} {event : Event} : PassRules c point (.report event) () point
  | page {granted : IdSet} {offset : Nat} {batch : List String} :
    PassRules c (.listing granted) (.authority (.adminList c.topic ⟨c.pageSize, offset⟩)) (.ok batch)
      (.listing (granted.insertMany batch))
  | listed {granted documents : IdSet} :
    PassRules c (.listing granted) (.store .allIds) (.ok documents) (.revoking ⟨granted, documents⟩)
  | vanished {listed : Listed} {id : String} :
    PassRules c (.revoking listed) (.authority (.getResource c.topic id)) (.ok none) (.revoking listed)
  | found {listed : Listed} {id : String} {grants : Grants} (granted : id ∈ listed.granted)
    (unlisted : id ∉ listed.documents) :
    PassRules c (.revoking listed) (.authority (.getResource c.topic id)) (.ok (some grants)) (.found listed id grants)
  | kept {listed : Listed} {id : String} {grants : Grants} {document : Document} :
    PassRules c (.found listed id grants) (.store (.get id)) (.ok (some document)) (.revoking listed)
  | absent {listed : Listed} {id : String} {grants : Grants} :
    PassRules c (.found listed id grants) (.store (.get id)) (.ok none) (.absent listed id grants)
  | revoked {listed : Listed} {id : String} {grants : Grants} {answer : Except AuthorityError Unit} :
    PassRules c (.absent listed id grants) (.authority (.removeResource c.topic id)) answer (.revoked listed id grants)
  | settled {listed : Listed} {id : String} {grants : Grants} :
    PassRules c (.revoked listed id grants) (.store (.get id)) (.ok none) (.revoking listed)
  | arrived {listed : Listed} {id : String} {grants : Grants} {document : Document} :
    PassRules c (.revoked listed id grants) (.store (.get id)) (.ok (some document)) (.arrived listed id grants)
  | restored {listed : Listed} {id : String} {grants : Grants} {answer : Except AuthorityError Unit} :
    PassRules c (.arrived listed id grants) (.authority (.setPermission c.topic id grants)) answer (.revoking listed)
  | clock {listed : Listed} {time : Int64} : PassRules c (.revoking listed) .now time (.dating listed time)
  | dated {listed : Listed} {time : Int64} {stale : IdSet} :
    PassRules c (.dating listed time) (.store (.staleIds (Cleanup.cutoff c.grace time))) (.ok stale)
      (.deleting listed stale)
  | spared {listed : Listed} {stale : IdSet} {id : String} {grants : Grants} :
    PassRules c (.deleting listed stale) (.authority (.getResource c.topic id)) (.ok (some grants))
      (.deleting listed stale)
  | ungranted {listed : Listed} {stale : IdSet} {id : String} (stored : id ∈ listed.documents)
    (unlisted : id ∉ listed.granted) (old : id ∈ stale) :
    PassRules c (.deleting listed stale) (.authority (.getResource c.topic id)) (.ok none)
      (.ungranted listed stale id)
  | deleted {listed : Listed} {stale : IdSet} {id : String} {answer : Except StoreError Bool} :
    PassRules c (.ungranted listed stale id) (.store (.delete id)) answer (.deleting listed stale)

theorem listedIdsFrom_follows (c : Cleanup) (left offset : Nat) (ids : IdSet) :
    (listedIdsFrom c.topic c.pageSize left offset ids).Follows (PassRules c)
      (fun granted point => point = .listing granted) (.listing ids) := by
  induction left generalizing offset ids with
  | zero => rfl
  | succ left ih =>
    apply Program.follows_bind (Q := fun batch point => point = .listing (ids.insertMany batch))
    · exact Program.follows_authority fun batch => ⟨_, .page, rfl⟩
    · rintro batch point rfl
      dsimp only
      split
      · rfl
      · exact ih _ _

namespace Cleanup

theorem mem_without {a b : IdSet} {id : String} : id ∈ without a b ↔ id ∈ a ∧ id ∉ b := by
  simp [without, ← Std.ExtTreeSet.contains_iff_mem]

theorem stored_follows {γ : Type} {rules : Rules γ} {ending : Bool → γ → Prop} {g : γ} {id : String}
    (each : ∀ found, ∃ h, rules g (.store (.get id)) (.ok found) h ∧ ending found.isSome h) :
    (stored id).Follows rules ending g := by
  apply Program.follows_mapError
  apply Program.follows_bind (Q := fun found => ending found.isSome)
  · exact Program.follows_store each
  · exact fun _ _ ended => ended

variable {c : Cleanup}

theorem removeGrant_follows {listed : Listed} {id : String} (granted : id ∈ listed.granted)
    (unlisted : id ∉ listed.documents) :
    (removeGrant c.topic id).Follows (PassRules c) (fun _ point => point = .revoking listed) (.revoking listed) := by
  apply Program.follows_bind
    (Q := fun found point => point = (found.map (PassPoint.found listed id)).getD (.revoking listed))
  · apply Program.follows_authority
    rintro (_ | grants)
    · exact ⟨_, .vanished, rfl⟩
    · exact ⟨_, .found granted unlisted, rfl⟩
  rintro (_ | grants) point rfl
  · rfl
  apply Program.follows_bind
    (Q := fun found point => point = if found then .revoking listed else .absent listed id grants)
  · apply stored_follows
    rintro (_ | document)
    · exact ⟨_, .absent, rfl⟩
    · exact ⟨_, .kept, rfl⟩
  rintro (_ | _) point rfl
  · apply Program.follows_bind (Q := fun _ point => point = .revoked listed id grants)
    · exact Program.follows_authority fun _ => ⟨_, .revoked, rfl⟩
    rintro _ point rfl
    apply Program.follows_bind
      (Q := fun found point => point = if found then .arrived listed id grants else .revoking listed)
    · apply stored_follows
      rintro (_ | document)
      · exact ⟨_, .settled, rfl⟩
      · exact ⟨_, .arrived, rfl⟩
    rintro (_ | _) point rfl
    · rfl
    · apply Program.follows_bind (Q := fun _ point => point = .revoking listed)
      · exact Program.follows_authority fun _ => ⟨_, .restored, rfl⟩
      rintro _ point rfl
      apply Program.follows_bind (Q := fun _ point => point = .revoking listed)
      · exact Program.follows_report ⟨_, .report, rfl⟩
      rintro _ point rfl
      rfl
  · rfl

theorem removeGrants_follows (listed : Listed) {ids : List String}
    (candidates : ∀ id ∈ ids, id ∈ listed.granted ∧ id ∉ listed.documents)
    (removed : Nat) :
    (removeGrants c.topic ids removed).Follows (PassRules c) (fun _ point => point = .revoking listed)
      (.revoking listed) := by
  induction ids generalizing removed with
  | nil => rfl
  | cons id more ih =>
    obtain ⟨granted, unlisted⟩ := candidates id List.mem_cons_self
    apply Program.follows_bind (removeGrant_follows granted unlisted)
    have others := fun id member => candidates id (List.mem_cons_of_mem _ member)
    rintro (_ | _) point rfl
    · exact ih others removed
    · exact ih others (removed + 1)

theorem removeDocument_follows {listed : Listed} {stale : IdSet} {id : String} (stored : id ∈ listed.documents)
    (unlisted : id ∉ listed.granted) (old : id ∈ stale) :
    (removeDocument c.topic id).Follows (PassRules c) (fun _ point => point = .deleting listed stale)
      (.deleting listed stale) := by
  apply Program.follows_bind
    (Q := fun found point => point = if found.isSome then .deleting listed stale else .ungranted listed stale id)
  · apply Program.follows_authority
    rintro (_ | grants)
    · exact ⟨_, .ungranted stored unlisted old, rfl⟩
    · exact ⟨_, .spared, rfl⟩
  rintro (_ | grants) point rfl
  · apply Program.follows_bind (Q := fun _ point => point = .deleting listed stale)
    · apply Program.follows_mapError
      apply Program.follows_bind (Q := fun _ point => point = .deleting listed stale)
      · exact Program.follows_store fun _ => ⟨_, .deleted, rfl⟩
      · exact fun _ _ same => same
    · exact fun _ _ same => same
  · rfl

theorem removeDocuments_follows (listed : Listed) {stale : IdSet} {ids : List String}
    (candidates : ∀ id ∈ ids, (id ∈ listed.documents ∧ id ∉ listed.granted) ∧ id ∈ stale) (removed : Nat) :
    (removeDocuments c.topic ids removed).Follows (PassRules c) (fun _ point => point = .deleting listed stale)
      (.deleting listed stale) := by
  induction ids generalizing removed with
  | nil => rfl
  | cons id more ih =>
    obtain ⟨⟨stored, unlisted⟩, old⟩ := candidates id List.mem_cons_self
    apply Program.follows_bind (removeDocument_follows stored unlisted old)
    have others := fun id member => candidates id (List.mem_cons_of_mem _ member)
    rintro (_ | _) point rfl
    · exact ih others removed
    · exact ih others (removed + 1)

/-- A pass ends between two documents, when nothing is left open. -/
theorem pass_follows (c : Cleanup) :
    c.pass.Follows (PassRules c) (fun _ => PassPoint.Finished) (.listing ∅) := by
  apply Program.follows_bind (Program.follows_mapError (listedIdsFrom_follows c _ 0 ∅))
  rintro granted point rfl
  apply Program.follows_bind (Q := fun documents point => point = .revoking ⟨granted, documents⟩)
  · exact Program.follows_store fun _ => ⟨_, .listed, rfl⟩
  rintro documents point rfl
  apply Program.follows_bind (removeGrants_follows ⟨granted, documents⟩ (fun id member => mem_without.mp member) 0)
  rintro permissionsRemoved point rfl
  apply Program.follows_bind (Q := fun time point => point = .dating ⟨granted, documents⟩ time)
  · exact Program.follows_now fun _ => ⟨_, .clock, rfl⟩
  rintro time point rfl
  apply Program.follows_bind (Q := fun stale point => point = .deleting ⟨granted, documents⟩ stale)
  · exact Program.follows_store fun _ => ⟨_, .dated, rfl⟩
  rintro stale point rfl
  apply Program.follows_bind (removeDocuments_follows ⟨granted, documents⟩ (fun id member => ?_) 0)
  · rintro documentsRemoved point rfl
    trivial
  · obtain ⟨candidate, old⟩ := List.mem_filter.mp member
    exact ⟨mem_without.mp candidate, old⟩

end Cleanup
end ModelDepot
