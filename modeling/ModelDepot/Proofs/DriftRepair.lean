import ModelDepot.Proofs.CleanupCourse
import ModelDepot.Proofs.Paging

/-!
What a whole cleanup pass does where no call fails and nobody else is active. It removes the grants
without a document, and of the documents without a grant those that were not updated for some time;
a second pass has nothing left to do. Main statement: `pass_repairs`.
-/
namespace ModelDepot

/-- The store without several documents. -/
def Store.deleteAll (ids : List String) (store : Store) : Store := ids.foldl (fun s id => (s.delete id).2) store

namespace Store

@[simp] theorem find?_deleteAll (ids : List String) (store : Store) (id : String) :
    (store.deleteAll ids).table.find? id = if id ∈ ids then none else store.table.find? id := by
  unfold deleteAll
  induction ids generalizing store with
  | nil => simp
  | cons head more ih =>
    rw [List.foldl_cons, ih, find?_delete]
    by_cases here : id = head
    · simp [here]
    · simp [here]

theorem distinct_deleteAll (ids : List String) {store : Store} (distinct : store.table.Distinct) :
    (store.deleteAll ids).table.Distinct := by
  unfold deleteAll
  induction ids generalizing store with
  | nil => exact distinct
  | cons head more ih => exact ih (distinct.erase head)

end Store

namespace Cleanup
variable {c : Cleanup} {moment : Moment} {d e : Depot}

theorem toInt_cutoff (grace : Duration) (now : Int64) :
    (cutoff grace now).toInt =
      max Int64.minValue.toInt (now.toInt - min (grace.seconds : Int) Int64.maxValue.toInt) := by
  have least : Int64.minValue.toInt = -2 ^ 63 := by decide
  have most : Int64.maxValue.toInt = 2 ^ 63 - 1 := by decide
  have below := Int64.toInt_lt now
  unfold cutoff
  rw [Int64.toInt_ofInt_of_le]
  · omega
  · omega

/-! ### What a pass removes -/

/-- The ids with a grant and without a document. -/
def orphans (c : Cleanup) (d : Depot) : List String := without (.ofList (d.authority.ids c.topic)) d.store.allIds

/-- The ids of documents without a grant and without a recent update. -/
def strays (c : Cleanup) (moment : Moment) (d : Depot) : List String :=
  (without d.store.allIds (.ofList (d.authority.ids c.topic))).filter
    (d.store.staleIds (cutoff c.grace moment.time)).contains

/-- The depot without them. -/
def swept (c : Cleanup) (moment : Moment) (d : Depot) : Depot :=
  { d with
    authority := (c.orphans d).foldl (fun a id => a.eraseGrants c.topic id) d.authority
    store := d.store.deleteAll (c.strays moment d) }

theorem mem_granted {id : String} :
    id ∈ (Std.ExtTreeSet.ofList (d.authority.ids c.topic) : IdSet) ↔ (d.grants? c.topic id).isSome := by
  rw [Std.ExtTreeSet.mem_ofList, List.contains_iff_mem, Authority.mem_ids]
  rfl

theorem mem_orphans (distinct : d.store.table.Distinct) {id : String} :
    id ∈ c.orphans d ↔ (d.grants? c.topic id).isSome ∧ d.row? id = none := by
  rw [orphans, mem_without, mem_granted, Store.mem_allIds_of_distinct distinct, Option.not_isSome_iff_eq_none]
  rfl

theorem mem_strays (distinct : d.store.table.Distinct) {id : String} :
    id ∈ c.strays moment d ↔
      d.grants? c.topic id = none ∧
        ∃ row, d.row? id = some row ∧ Store.isStale (cutoff c.grace moment.time) row := by
  rw [strays, List.mem_filter, mem_without, mem_granted, Store.mem_allIds_of_distinct distinct,
    Option.not_isSome_iff_eq_none]
  rw [Std.ExtTreeSet.contains_iff_mem, Store.mem_staleIds_of_distinct distinct]
  constructor
  · rintro ⟨⟨_, ungranted⟩, isOld⟩
    exact ⟨ungranted, isOld⟩
  · rintro ⟨ungranted, row, found, old⟩
    exact ⟨⟨Option.isSome_of_eq_some found, ungranted⟩, row, found, old⟩

/-! ### A pass at one of the grants -/

/-- Next are the grants of an id, then those of ids without a document; documents with grants will be left. -/
def Faces (c : Cleanup) (moment : Moment) (id : String) (d : Depot) (p : Program CleanupError CleanupReport) : Prop :=
  ∃ more soFar rest, p = removeGrants c.topic (id :: more) soFar >>= rest ∧ (∀ other ∈ more, d.row? other = none) ∧
    ∀ removed e, (rest removed).Completes moment
      (fun _ f => f.authority = e.authority ∧ ∀ id, (e.grants? c.topic id).isSome → f.row? id = e.row? id) e

/-- A pass that runs alone gets to each grant without a document. -/
theorem pass_faces {id : String} (registered : d.authority.isRegistered c.topic) (distinct : d.store.table.Distinct)
    (countable : (d.authority.ids c.topic).length < UInt64.size) (granted : (d.grants? c.topic id).isSome)
    (absent : d.row? id = none) :
    c.pass.Reaches moment
      (fun p e => c.Faces moment id d p ∧ e.store = d.store ∧ e.authority.topics = d.authority.topics ∧
        e.grants? c.topic id = d.grants? c.topic id) d := by
  apply Program.reaches_after (Program.completes_mapError (listedIds_completes registered countable c.pageSize))
  rintro _ d ⟨rfl, rfl⟩
  apply Program.reaches_after (Q := fun documents e => e = d ∧ documents = d.store.allIds)
  · exact Program.completes_store rfl ⟨rfl, rfl⟩
  rintro _ d ⟨rfl, rfl⟩
  have orphan : id ∈ c.orphans d := (mem_orphans distinct).mpr ⟨granted, absent⟩
  have allAbsent : ∀ other ∈ c.orphans d, d.row? other = none :=
    fun other member => ((mem_orphans distinct).mp member).2
  have gets : ∃ more soFar e, Program.Leads moment (removeGrants c.topic (c.orphans d) 0) d
      (removeGrants c.topic (id :: more) soFar) e ∧ _ := removeGrants_leads orphan allAbsent 0
  obtain ⟨more, soFar, e, leads, within, found⟩ := gets
  refine ⟨_, e, Program.leads_bind leads _, ?_, found⟩
  refine ⟨more, soFar, _, rfl, fun other member => allAbsent other (within other member), fun removed e => ?_⟩
  apply Program.completes_bind (Q := fun _ f => f = e)
  · exact Program.completes_now rfl
  rintro _ e rfl
  apply Program.completes_bind (Q := fun _ f => f = e)
  · exact Program.completes_store rfl rfl
  rintro _ e rfl
  apply Program.completes_bind (removeDocuments_completes _ 0)
  rintro _ f ⟨sameAuthority, rows⟩
  refine ⟨sameAuthority, fun id granted => (rows id).resolve_right fun both => ?_⟩
  rw [both.1] at granted
  cases granted

/-! ### A whole pass -/

/-- Every document that goes is counted. -/
theorem removeDocuments_deletes {ids : List String} (ungranted : ∀ id ∈ ids, d.grants? c.topic id = none)
    (distinct : d.store.table.Distinct) (removed : Nat) :
    (removeDocuments c.topic ids removed).Completes moment
      (fun count e => e = { d with store := d.store.deleteAll ids } ∧
        count + e.store.table.toList.length = removed + d.store.table.toList.length) d := by
  induction ids generalizing d removed with
  | nil => exact ⟨rfl, rfl⟩
  | cons id more ih =>
    apply Program.completes_bind (removeDocument_completes id)
    rintro gone e ⟨isGone, became⟩
    rw [ungranted id List.mem_cons_self] at isGone became
    obtain rfl : e = { d with store := (d.store.delete id).2 } := became
    have fewer : gone.toNat + (d.store.delete id).2.table.toList.length = d.store.table.toList.length := by
      rw [isGone, Nat.add_comm]
      exact distinct.length_erase id
    have onward := ih (d := { d with store := (d.store.delete id).2 })
      (fun other member => ungranted other (List.mem_cons_of_mem _ member)) (distinct.erase id)
    have counted : (removeDocuments c.topic more (removed + gone.toNat)).Completes moment
        (fun count e => e = { d with store := d.store.deleteAll (id :: more) } ∧
          count + e.store.table.toList.length = removed + d.store.table.toList.length)
        { d with store := (d.store.delete id).2 } := by
      refine Program.completes_mono (onward (removed + gone.toNat)) ?_
      rintro count e ⟨became, total⟩
      exact ⟨became, by rw [total, Nat.add_assoc, fewer]⟩
    cases gone with
    | false => exact counted
    | true => exact counted

/-- What was counted as removed and what is left is what there was. -/
structure Accounts (c : Cleanup) (report : CleanupReport) (d e : Depot) : Prop where
  permissions : report.permissionsRemoved + (e.authority.ids c.topic).length = (d.authority.ids c.topic).length
  documents : report.documentsRemoved + e.store.table.toList.length = d.store.table.toList.length

theorem pass_completes (registered : d.authority.isRegistered c.topic) (distinct : d.store.table.Distinct)
    (countable : (d.authority.ids c.topic).length < UInt64.size) :
    c.pass.Completes moment (fun report e => e = c.swept moment d ∧ c.Accounts report d e) d := by
  apply Program.completes_bind (Program.completes_mapError (listedIds_completes registered countable c.pageSize))
  rintro _ d ⟨rfl, rfl⟩
  apply Program.completes_bind (Q := fun documents e => e = d ∧ documents = d.store.allIds)
  · exact Program.completes_store rfl ⟨rfl, rfl⟩
  rintro _ d ⟨rfl, rfl⟩
  apply Program.completes_bind (removeGrants_completes (fun id member => ((mem_orphans distinct).mp member).2) 0)
  rintro permissionsRemoved revoked ⟨isRevoked, permissions⟩
  have sameStore : revoked.store = d.store := by rw [isRevoked]
  have stillUngranted : ∀ id, d.grants? c.topic id = none → revoked.grants? c.topic id = none := by
    intro id ungranted
    simpa [isRevoked, Depot.grants?] using fun _ => ungranted
  apply Program.completes_bind (Q := fun time e => e = revoked ∧ time = moment.time)
  · exact Program.completes_now ⟨rfl, rfl⟩
  rintro _ revoked ⟨rfl, rfl⟩
  apply Program.completes_bind
    (Q := fun old e => e = revoked ∧ old = d.store.staleIds (cutoff c.grace moment.time))
  · exact Program.completes_store rfl ⟨rfl, by rw [sameStore]⟩
  rintro _ revoked ⟨rfl, rfl⟩
  have ungranted : ∀ id ∈ c.strays moment d, revoked.grants? c.topic id = none :=
    fun id member => stillUngranted id ((mem_strays distinct).mp member).1
  apply Program.completes_bind (removeDocuments_deletes ungranted (by rw [sameStore]; exact distinct) 0)
  rintro documentsRemoved e ⟨isFinal, documents⟩
  rw [sameStore] at isFinal documents
  have sameGrants : e.authority = revoked.authority := by rw [isFinal]
  refine ⟨?_, ?_, ?_⟩
  · rw [isFinal, isRevoked]
    rfl
  · rw [sameGrants, permissions, Nat.zero_add]
  · rw [documents, Nat.zero_add]

theorem pass_sweeps (moment : Moment) (registered : d.authority.isRegistered c.topic)
    (distinct : d.store.table.Distinct) (countable : (d.authority.ids c.topic).length < UInt64.size) :
    ∃ report,
      (c.passUnless false).run (Depot.answer moment) d = (.ok report, c.swept moment d) ∧
        c.Accounts report d (c.swept moment d) := by
  obtain ⟨report, e, ran, isSwept, accounts⟩ :=
    Program.run_of_completes (pass_completes registered distinct countable)
  exact ⟨report, isSwept ▸ ran, isSwept ▸ accounts⟩

/-- The second depot is the first one with its drift repaired, and nothing else changed. -/
structure Repairs (c : Cleanup) (moment : Moment) (d e : Depot) : Prop where
  /-- The grants of stored documents are left. -/
  grants (id : String) (grants : Grants) :
    e.grants? c.topic id = some grants ↔ d.grants? c.topic id = some grants ∧ (d.row? id).isSome
  /-- Documents with grants are left, and those with a known and recent update. -/
  rows (id : String) (row : Row) :
    e.row? id = some row ↔
      d.row? id = some row ∧
        ((d.grants? c.topic id).isSome ∨
          row.lastUpdated ≠ 0 ∧
            max Int64.minValue.toInt (moment.time.toInt - min (c.grace.seconds : Int) Int64.maxValue.toInt) ≤
              row.lastUpdated.toInt)
  otherTopics (topic id : String) (other : topic ≠ c.topic) : e.grants? topic id = d.grants? topic id
  topics : e.authority.topics = d.authority.topics
  log : e.log = d.log
  distinct : e.store.table.Distinct

theorem isStale_cutoff {row : Row} :
    Store.isStale (cutoff c.grace moment.time) row = false ↔
      row.lastUpdated ≠ 0 ∧
        max Int64.minValue.toInt (moment.time.toInt - min (c.grace.seconds : Int) Int64.maxValue.toInt) ≤
          row.lastUpdated.toInt := by
  rw [← toInt_cutoff, ← Int64.le_iff_toInt_le]
  simp [Store.isStale, Int64.not_lt]

theorem swept_repairs (distinct : d.store.table.Distinct) : c.Repairs moment d (c.swept moment d) where
  grants id grants := by
    rw [swept, Depot.grants?, Authority.grants?_eraseAll, Option.ite_none_left_eq_some]
    constructor
    · rintro ⟨kept, granted⟩
      refine ⟨granted, Option.isSome_iff_ne_none.mpr fun absent => kept ⟨rfl, ?_⟩⟩
      exact (mem_orphans distinct).mpr ⟨Option.isSome_of_eq_some granted, absent⟩
    · rintro ⟨granted, stored⟩
      refine ⟨fun revoked => ?_, granted⟩
      rw [((mem_orphans distinct).mp revoked.2).2] at stored
      cases stored
  rows id row := by
    rw [swept, Depot.row?, Store.find?_deleteAll, Option.ite_none_left_eq_some]
    constructor
    · rintro ⟨kept, found⟩
      refine ⟨found, ?_⟩
      cases granted : d.grants? c.topic id with
      | some grants => exact .inl rfl
      | none =>
        refine .inr (isStale_cutoff.mp ?_)
        cases old : Store.isStale (cutoff c.grace moment.time) row with
        | false => rfl
        | true => exact absurd ((mem_strays distinct).mpr ⟨granted, row, found, old⟩) kept
    · rintro ⟨found, spared⟩
      refine ⟨fun stray => ?_, found⟩
      obtain ⟨ungranted, other, foundOther, old⟩ := (mem_strays distinct).mp stray
      obtain rfl := Option.some.inj (found.symm.trans foundOther)
      rcases spared with granted | recent
      · rw [ungranted] at granted
        cases granted
      · rw [isStale_cutoff.mpr recent] at old
        cases old
  otherTopics topic id other := by
    simp [swept, Depot.grants?, other]
  topics := Authority.topics_eraseAll _ _ _
  log := rfl
  distinct := Store.distinct_deleteAll _ distinct

/-- Nothing is left to repair. -/
theorem swept_of_repaired (repairs : c.Repairs moment d e) : c.swept moment e = e := by
  have kept : ∀ id, (d.grants? c.topic id).isSome → (d.row? id).isSome →
      (e.grants? c.topic id).isSome ∧ (e.row? id).isSome := by
    intro id granted stored
    obtain ⟨grants, isGrants⟩ := Option.isSome_iff_exists.mp granted
    obtain ⟨row, isRow⟩ := Option.isSome_iff_exists.mp stored
    exact ⟨Option.isSome_of_eq_some ((repairs.grants id grants).mpr ⟨isGrants, stored⟩),
      Option.isSome_of_eq_some ((repairs.rows id row).mpr ⟨isRow, .inl granted⟩)⟩
  have noOrphans : c.orphans e = [] := by
    refine List.eq_nil_iff_forall_not_mem.mpr fun id member => ?_
    obtain ⟨granted, absent⟩ := (mem_orphans repairs.distinct).mp member
    obtain ⟨grants, isGrants⟩ := Option.isSome_iff_exists.mp granted
    obtain ⟨before, stored⟩ := (repairs.grants id grants).mp isGrants
    have stillStored := (kept id (Option.isSome_of_eq_some before) stored).2
    rw [absent] at stillStored
    cases stillStored
  have noStrays : c.strays moment e = [] := by
    refine List.eq_nil_iff_forall_not_mem.mpr fun id member => ?_
    obtain ⟨ungranted, row, found, old⟩ := (mem_strays repairs.distinct).mp member
    obtain ⟨before, granted | recent⟩ := (repairs.rows id row).mp found
    · have stillGranted := (kept id granted (Option.isSome_of_eq_some before)).1
      rw [ungranted] at stillGranted
      cases stillGranted
    · rw [isStale_cutoff.mpr recent] at old
      cases old
  rw [swept, noOrphans, noStrays]
  rfl

theorem pass_of_repaired (repairs : c.Repairs moment d e) (registered : e.authority.isRegistered c.topic)
    (countable : (e.authority.ids c.topic).length < UInt64.size) :
    (c.passUnless false).run (Depot.answer moment) e = (.ok ⟨0, 0⟩, e) := by
  obtain ⟨⟨permissions, documents⟩, ran, accounts⟩ := pass_sweeps moment registered repairs.distinct countable
  rw [swept_of_repaired repairs] at ran accounts
  have noPermissions : permissions = 0 := Nat.add_eq_right.mp accounts.permissions
  have noDocuments : documents = 0 := Nat.add_eq_right.mp accounts.documents
  rw [ran, noPermissions, noDocuments]

/-- A pass that runs alone repairs the drift between grants and documents, reports how many of each
    it removed, and leaves nothing for a second one. -/
theorem pass_repairs (registered : d.authority.isRegistered c.topic) (distinct : d.store.table.Distinct)
    (countable : (d.authority.ids c.topic).length < UInt64.size) :
    ∃ report e,
      (c.passUnless false).run (Depot.answer moment) d = (.ok report, e) ∧
        c.Repairs moment d e ∧ c.Accounts report d e ∧
        (c.passUnless false).run (Depot.answer moment) e = (.ok ⟨0, 0⟩, e) := by
  obtain ⟨report, ran, accounts⟩ := pass_sweeps moment registered distinct countable
  have repairs : c.Repairs moment d (c.swept moment d) := swept_repairs distinct
  refine ⟨report, c.swept moment d, ran, repairs, accounts, ?_⟩
  have registeredStill : (c.swept moment d).authority.isRegistered c.topic := by
    rw [Authority.isRegistered, repairs.topics]
    exact registered
  have countableStill : ((c.swept moment d).authority.ids c.topic).length < UInt64.size :=
    Nat.lt_of_le_of_lt (accounts.permissions ▸ Nat.le_add_left _ _) countable
  exact pass_of_repaired repairs registeredStill countableStill

/-- Of the granted ids one has no document; of the documents without grants one has no stamp and one
    is recent. -/
def drifted : Depot where
  store := ⟨{ Table.empty with
    rows := .keyed ((((∅ : Dict Row).insert "kept" { id := "kept", lastUpdated := 1 }).insert "old"
      { id := "old" }).insert "recent" { id := "recent", lastUpdated := 90 }) }⟩
  authority :=
    ((({} : Authority).register (.ofTopic "t")).setGrants "t" "kept" (.forOwner "ann")).setGrants "t" "orphan"
      (.forOwner "bob")
  log := .new 1

def byOnes : Cleanup := { topic := "t", pageSize := 1 }

theorem pass_repairs_drifted :
    (drifted.authority.isRegistered byOnes.topic ∧ drifted.store.table.Distinct ∧
        (drifted.authority.ids byOnes.topic).length < UInt64.size) ∧
      ∃ report e,
        (byOnes.passUnless false).run (Depot.answer ⟨100, "x"⟩) drifted = (.ok report, e) ∧
          byOnes.Repairs ⟨100, "x"⟩ drifted e ∧ byOnes.Accounts report drifted e ∧
          (byOnes.passUnless false).run (Depot.answer ⟨100, "x"⟩) e = (.ok ⟨0, 0⟩, e) := by
  have registered : drifted.authority.isRegistered byOnes.topic := by decide
  have distinct : drifted.store.table.Distinct := by decide
  have countable : (drifted.authority.ids byOnes.topic).length < UInt64.size := by decide
  exact ⟨⟨registered, distinct, countable⟩, pass_repairs registered distinct countable⟩

example : ((byOnes.passUnless false).run (Depot.answer ⟨100, "x"⟩) drifted).1 = .ok ⟨1, 1⟩ := by decide +kernel

end Cleanup
end ModelDepot
