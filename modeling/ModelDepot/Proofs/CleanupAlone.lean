import ModelDepot.Cleanup
import ModelDepot.Proofs.ApplyAlone
import ModelDepot.Proofs.Permits

/-!
What the parts of a cleanup pass do to a depot that nobody else changes meanwhile.
-/
namespace ModelDepot

/-- Only ids with a grant are listed. -/
theorem listedIdsFrom_completes {moment : Moment} {topic : String} {d : Depot}
    (registered : d.authority.isRegistered topic) (pageSize left offset : Nat) (ids : IdSet)
    (granted : ∀ id ∈ ids, (d.grants? topic id).isSome) :
    (listedIdsFrom topic pageSize left offset ids).Completes moment
      (fun listed e => e = d ∧ ∀ id ∈ listed, (d.grants? topic id).isSome) d := by
  induction left generalizing offset ids with
  | zero => exact ⟨rfl, granted⟩
  | succ left ih =>
    apply Program.completes_bind (Q := fun batch e => e = d ∧ ∀ id ∈ batch, id ∈ d.authority.ids topic)
    · exact Program.completes_authority (Authority.respond_adminList registered _)
        ⟨rfl, fun id member => Page.mem_of_cut member⟩
    rintro batch d ⟨rfl, listed⟩
    have more : ∀ id ∈ ids.insertMany batch, (d.grants? topic id).isSome := by
      intro id member
      rcases Std.ExtTreeSet.mem_insertMany_list.mp member with old | new
      · exact granted id old
      · exact Authority.mem_ids.mp (listed id (List.contains_iff_mem.mp new))
    dsimp only
    split
    · exact ⟨rfl, more⟩
    · exact ih _ _ more

namespace Cleanup
variable {moment : Moment} {topic : String} {d : Depot}

theorem stored_completes {id : String} (absent : d.row? id = none) :
    (stored id).Completes moment (fun found e => e = d ∧ found = false) d := by
  apply Program.completes_mapError
  apply Program.completes_bind (Q := fun found e => e = d ∧ found = none)
  · refine Program.completes_store (v := none) ?_ ⟨rfl, rfl⟩
    simp only [Store.respond, Store.get, show d.store.table.find? id = none from absent]
  · rintro _ _ ⟨rfl, rfl⟩
    exact ⟨rfl, rfl⟩

/-- The grants of an id without a document are removed, if there are any. -/
theorem removeGrant_completes {id : String} (absent : d.row? id = none) :
    (removeGrant topic id).Completes moment
      (fun gone e => gone = (d.grants? topic id).isSome ∧
        e = { d with authority := d.authority.eraseGrants topic id }) d := by
  apply Program.completes_bind (Q := fun found e => e = d ∧ found = d.grants? topic id)
  · exact Program.completes_authority rfl ⟨rfl, rfl⟩
  rintro found d ⟨rfl, rfl⟩
  cases granted : d.grants? topic id with
  | none =>
    exact ⟨rfl, congrArg (fun a => { d with authority := a }) (Authority.eraseGrants_of_missing granted).symm⟩
  | some grants =>
    apply Program.completes_bind (stored_completes absent)
    rintro _ d ⟨rfl, rfl⟩
    apply Program.completes_bind (Q := fun _ e => e = { d with authority := d.authority.eraseGrants topic id })
    · exact Program.completes_authority rfl rfl
    rintro _ revoked rfl
    apply Program.completes_bind
      (stored_completes (d := { d with authority := d.authority.eraseGrants topic id }) absent)
    rintro _ _ ⟨rfl, rfl⟩
    exact ⟨rfl, rfl⟩

/-- Every grant that goes is counted. -/
theorem removeGrants_completes {ids : List String} (absent : ∀ id ∈ ids, d.row? id = none) (removed : Nat) :
    (removeGrants topic ids removed).Completes moment
      (fun count e => e = { d with authority := ids.foldl (fun a id => a.eraseGrants topic id) d.authority } ∧
        count + (e.authority.ids topic).length = removed + (d.authority.ids topic).length) d := by
  induction ids generalizing d removed with
  | nil => exact ⟨rfl, rfl⟩
  | cons id more ih =>
    apply Program.completes_bind (removeGrant_completes (absent id List.mem_cons_self))
    rintro gone _ ⟨isGone, rfl⟩
    have fewer : gone.toNat + ((d.authority.eraseGrants topic id).ids topic).length =
        (d.authority.ids topic).length := by
      rw [isGone, Nat.add_comm]
      exact Authority.length_ids_eraseGrants d.authority topic id
    have onward := ih (d := { d with authority := d.authority.eraseGrants topic id })
      fun other member => absent other (List.mem_cons_of_mem _ member)
    have counted : (removeGrants topic more (removed + gone.toNat)).Completes moment
        (fun count e =>
          e = { d with authority := (id :: more).foldl (fun a id => a.eraseGrants topic id) d.authority } ∧
          count + (e.authority.ids topic).length = removed + (d.authority.ids topic).length)
        { d with authority := d.authority.eraseGrants topic id } := by
      refine Program.completes_mono (onward (removed + gone.toNat)) ?_
      rintro count e ⟨became, total⟩
      exact ⟨became, by rw [total, Nat.add_assoc, fewer]⟩
    cases gone with
    | false => exact counted
    | true => exact counted

/-- The removal of grants gets to each of the ids, and finds its grants as they were. -/
theorem removeGrants_leads {ids : List String} {id : String} (member : id ∈ ids)
    (absent : ∀ other ∈ ids, d.row? other = none) (removed : Nat) :
    ∃ more soFar e, Program.Leads moment (removeGrants topic ids removed) d (removeGrants topic (id :: more) soFar) e ∧
      (∀ other ∈ more, other ∈ ids) ∧ e.store = d.store ∧ e.authority.topics = d.authority.topics ∧
      e.grants? topic id = d.grants? topic id := by
  induction ids generalizing d removed with
  | nil => cases member
  | cons head more ih =>
    by_cases here : head = id
    · subst here
      exact ⟨more, removed, d, .still, fun _ => List.mem_cons_of_mem head, rfl, rfl, rfl⟩
    · have later : id ∈ more := (List.mem_cons.mp member).resolve_left fun same => here same.symm
      have removes : (removeGrant topic head).Completes moment _ d :=
        removeGrant_completes (absent head List.mem_cons_self)
      obtain ⟨gone, _, leads, -, rfl⟩ := Program.leads_of_completes removes
      have onward : ∀ removed, ∃ rest soFar e,
          Program.Leads moment (removeGrants topic more removed)
            { d with authority := d.authority.eraseGrants topic head } (removeGrants topic (id :: rest) soFar) e ∧
          (∀ other ∈ rest, other ∈ head :: more) ∧ e.store = d.store ∧ e.authority.topics = d.authority.topics ∧
          e.grants? topic id = d.grants? topic id := by
        intro removed
        obtain ⟨rest, soFar, e, onward, within, sameStore, sameTopics, sameGrants⟩ :=
          ih (d := { d with authority := d.authority.eraseGrants topic head }) later
            (fun other member => absent other (List.mem_cons_of_mem _ member)) removed
        refine ⟨rest, soFar, e, onward, fun other member => List.mem_cons_of_mem _ (within other member), sameStore,
          sameTopics.trans (Authority.topics_eraseGrants _ _ _), sameGrants.trans ?_⟩
        simp [Depot.grants?, Ne.symm here]
      have first : Program.Leads moment (removeGrants topic (head :: more) removed) d
          (removeGrants topic more (if gone then removed + 1 else removed))
          { d with authority := d.authority.eraseGrants topic head } := by
        cases gone with
        | false => exact Program.leads_bind leads _
        | true => exact Program.leads_bind leads _
      obtain ⟨rest, soFar, e, leads, found⟩ := onward (if gone then removed + 1 else removed)
      exact ⟨rest, soFar, e, Program.leads_trans first leads, found⟩

theorem stored_finds {id : String} {document : Document} (found : d.store.get id = .ok (some document)) :
    (stored id).Completes moment (fun found e => e = d ∧ found = true) d := by
  apply Program.completes_mapError
  apply Program.completes_bind (Q := fun found e => e = d ∧ found = some document)
  · refine Program.completes_store (v := some document) ?_ ⟨rfl, rfl⟩
    simp only [Store.respond, found]
  · rintro _ _ ⟨rfl, rfl⟩
    exact ⟨rfl, rfl⟩

/-- The grants of a document are left alone. -/
theorem removeGrant_spares {id : String} {document : Document} (found : d.store.get id = .ok (some document)) :
    (removeGrant topic id).Completes moment (fun gone e => gone = false ∧ e = d) d := by
  apply Program.completes_bind (Q := fun found e => e = d ∧ found = d.grants? topic id)
  · exact Program.completes_authority rfl ⟨rfl, rfl⟩
  rintro granted d ⟨rfl, rfl⟩
  cases d.grants? topic id with
  | none => exact ⟨rfl, rfl⟩
  | some grants =>
    apply Program.completes_bind (stored_finds found)
    rintro _ d ⟨rfl, rfl⟩
    exact ⟨rfl, rfl⟩

/-- The grants of a document are left alone among those of ids without one. -/
theorem removeGrants_spares {ids : List String} {id : String} {document : Document}
    (found : d.store.get id = .ok (some document)) (absent : ∀ other ∈ ids, other = id ∨ d.row? other = none)
    (removed : Nat) :
    (removeGrants topic ids removed).Completes moment
      (fun _ e => e.store = d.store ∧ e.grants? topic id = d.grants? topic id) d := by
  induction ids generalizing d removed with
  | nil => exact ⟨rfl, rfl⟩
  | cons head more ih =>
    have others : ∀ other ∈ more, other = id ∨ d.row? other = none :=
      fun other member => absent other (List.mem_cons_of_mem _ member)
    by_cases here : head = id
    · subst here
      apply Program.completes_bind (removeGrant_spares found)
      rintro _ d ⟨rfl, rfl⟩
      exact ih found others removed
    · apply Program.completes_bind
        (removeGrant_completes ((absent head List.mem_cons_self).resolve_left here))
      rintro gone _ ⟨-, rfl⟩
      have onward : ∀ removed, (removeGrants topic more removed).Completes moment
          (fun _ e => e.store = d.store ∧ e.grants? topic id = d.grants? topic id)
          { d with authority := d.authority.eraseGrants topic head } := by
        intro removed
        refine Program.completes_mono
          (ih (d := { d with authority := d.authority.eraseGrants topic head }) found others removed) ?_
        rintro _ e ⟨sameStore, sameGrants⟩
        refine ⟨sameStore, sameGrants.trans ?_⟩
        simp [Depot.grants?, Ne.symm here]
      cases gone with
      | false => exact onward removed
      | true => exact onward (removed + 1)

/-- A document without grants is removed, if there is one. -/
theorem removeDocument_completes (id : String) :
    (removeDocument topic id).Completes moment
      (fun gone e => gone = (!(d.grants? topic id).isSome && (d.row? id).isSome) ∧
        e = if (d.grants? topic id).isSome then d else { d with store := (d.store.delete id).2 }) d := by
  apply Program.completes_bind (Q := fun found e => e = d ∧ found = d.grants? topic id)
  · exact Program.completes_authority rfl ⟨rfl, rfl⟩
  rintro found d ⟨rfl, rfl⟩
  cases granted : d.grants? topic id with
  | some grants => exact ⟨rfl, rfl⟩
  | none =>
    apply Program.completes_bind
      (Q := fun outcome e => outcome = (if (d.row? id).isSome then .deleted else .alreadyAbsent) ∧
        e = { d with store := (d.store.delete id).2 })
    · apply Program.completes_mapError
      apply Program.completes_bind
        (Q := fun held e => held = (d.row? id).isSome ∧ e = { d with store := (d.store.delete id).2 })
      · exact Program.completes_store rfl ⟨rfl, rfl⟩
      · rintro _ _ ⟨rfl, rfl⟩
        exact ⟨rfl, rfl⟩
    · rintro _ _ ⟨rfl, rfl⟩
      refine ⟨?_, rfl⟩
      cases (d.row? id).isSome <;> rfl

/-- The removal of documents changes no grants, and at most removes documents without grants. -/
theorem removeDocuments_completes (ids : List String) (removed : Nat) :
    (removeDocuments topic ids removed).Completes moment
      (fun _ e => e.authority = d.authority ∧
        ∀ id, e.row? id = d.row? id ∨ d.grants? topic id = none ∧ e.row? id = none) d := by
  induction ids generalizing d removed with
  | nil => exact ⟨rfl, fun _ => .inl rfl⟩
  | cons id more ih =>
    apply Program.completes_bind (removeDocument_completes id)
    rintro wasRemoved e ⟨-, became⟩
    have step : e.authority = d.authority ∧
        ∀ other, e.row? other = d.row? other ∨ d.grants? topic other = none ∧ e.row? other = none := by
      rw [became]
      split
      · exact ⟨rfl, fun _ => .inl rfl⟩
      · rename_i ungranted
        refine ⟨rfl, fun other => ?_⟩
        rw [Depot.row?, Store.find?_delete]
        split
        · rename_i same
          exact .inr ⟨same ▸ Option.not_isSome_iff_eq_none.mp ungranted, rfl⟩
        · exact .inl rfl
    have onward : ∀ removed, (removeDocuments topic more removed).Completes moment
        (fun _ f => f.authority = d.authority ∧
          ∀ other, f.row? other = d.row? other ∨ d.grants? topic other = none ∧ f.row? other = none) e := by
      intro removed
      refine Program.completes_mono (ih (d := e) removed) ?_
      rintro _ f ⟨sameAuthority, rows⟩
      refine ⟨sameAuthority.trans step.1, fun other => ?_⟩
      rcases rows other with same | ⟨ungranted, gone⟩
      · rw [same]
        exact step.2 other
      · rw [Depot.grants?, step.1] at ungranted
        exact .inr ⟨ungranted, gone⟩
    cases wasRemoved with
    | false => exact onward removed
    | true => exact onward (removed + 1)

end Cleanup
end ModelDepot
