import ModelDepot.Proofs.DriftRepair
import ModelDepot.Proofs.Mishaps

/-!
A cleanup pass that is shown whatever ids as granted, and of which any call may fail. What it removes was
confirmed id by id, so nothing goes that should stay, and a pass that comes to its end has counted right.
Main statement: `passUnless_careful`.
-/
namespace ModelDepot.Cleanup
variable {c : Cleanup} {moment : Moment} {d e f : Depot}

/-- Nothing went but grants without a document, and documents without grants and without a recent update. -/
structure Spares (c : Cleanup) (moment : Moment) (d e : Depot) : Prop where
  grants (id : String) :
    e.grants? c.topic id = d.grants? c.topic id ∨ e.grants? c.topic id = none ∧ d.row? id = none
  rows (id : String) :
    e.row? id = d.row? id ∨
      e.row? id = none ∧ d.grants? c.topic id = none ∧ ∃ row, d.row? id = some row ∧
        (row.lastUpdated = 0 ∨ row.lastUpdated.toInt <
          max Int64.minValue.toInt (moment.time.toInt - min (c.grace.seconds : Int) Int64.maxValue.toInt))
  otherTopics (topic id : String) (other : topic ≠ c.topic) : e.grants? topic id = d.grants? topic id
  topics : e.authority.topics = d.authority.topics
  log : e.log = d.log
  distinct : e.store.table.Distinct

namespace Spares

protected theorem refl (distinct : d.store.table.Distinct) : c.Spares moment d d where
  grants _ := .inl rfl
  rows _ := .inl rfl
  otherTopics _ _ _ := rfl
  topics := rfl
  log := rfl
  distinct := distinct

-- A grant that went first had no document and a document that went first had no grant, so what goes later of
-- the same id was to go from the start.
protected theorem trans (first : c.Spares moment d e) (rest : c.Spares moment e f) : c.Spares moment d f where
  grants id := by
    rcases rest.grants id with same | ⟨gone, absent⟩
    · rw [same]
      exact first.grants id
    · rcases first.rows id with same | ⟨-, ungranted, -⟩
      · exact .inr ⟨gone, same ▸ absent⟩
      · refine .inl ?_
        rw [gone, ungranted]
  rows id := by
    rcases rest.rows id with same | ⟨gone, ungranted, row, found, old⟩
    · rw [same]
      exact first.rows id
    · rcases first.rows id with same | ⟨absent, -⟩
      · rw [same] at found
        rcases first.grants id with kept | ⟨-, absent⟩
        · exact .inr ⟨gone, kept ▸ ungranted, row, found, old⟩
        · cases found.symm.trans absent
      · cases found.symm.trans absent
  otherTopics topic id other := (rest.otherTopics topic id other).trans (first.otherTopics topic id other)
  topics := rest.topics.trans first.topics
  log := rest.log.trans first.log
  distinct := rest.distinct

/-- The grants of a document that is not stored may go. -/
theorem revoke (distinct : d.store.table.Distinct) {id : String} (absent : d.row? id = none) :
    c.Spares moment d { d with authority := d.authority.eraseGrants c.topic id } where
  grants other := by
    simp only [Depot.grants?, Authority.grants?_eraseGrants, true_and]
    by_cases here : other = id
    · exact .inr ⟨if_pos here, here ▸ absent⟩
    · exact .inl (if_neg here)
  rows _ := .inl rfl
  otherTopics topic other elsewhere := by
    simp [Depot.grants?, elsewhere]
  topics := Authority.topics_eraseGrants d.authority c.topic id
  log := rfl
  distinct := distinct

/-- A document without grants may go if its last update is not recent. -/
theorem discard (distinct : d.store.table.Distinct) {id : String} (ungranted : d.grants? c.topic id = none)
    (old : ∀ row, d.row? id = some row → Store.isStale (cutoff c.grace moment.time) row) :
    c.Spares moment d { d with store := (d.store.delete id).2 } where
  grants _ := .inl rfl
  rows other := by
    simp only [Depot.row?, Store.find?_delete]
    by_cases here : other = id
    · rw [if_pos here, here]
      cases found : d.store.table.find? id with
      | none => exact .inl rfl
      | some row =>
        refine .inr ⟨rfl, ungranted, row, rfl, ?_⟩
        have stale := old row found
        rw [← toInt_cutoff, ← Int64.lt_iff_toInt_lt]
        simpa [Store.isStale] using stale
    · exact .inl (if_neg here)
  otherTopics _ _ _ := rfl
  topics := rfl
  log := rfl
  distinct := distinct.erase id

end Spares

/-! ### Counting -/

/-- What two parts of a pass removed. -/
def together (a b : CleanupReport) : CleanupReport :=
  ⟨a.permissionsRemoved + b.permissionsRemoved, a.documentsRemoved + b.documentsRemoved⟩

theorem Accounts.refl : c.Accounts ⟨0, 0⟩ d d := ⟨Nat.zero_add _, Nat.zero_add _⟩

theorem Accounts.trans {a b : CleanupReport} (first : c.Accounts a d e) (rest : c.Accounts b e f) :
    c.Accounts (together a b) d f := by
  obtain ⟨permissions, documents⟩ := first
  obtain ⟨permissionsToo, documentsToo⟩ := rest
  exact ⟨by simp only [together]; omega, by simp only [together]; omega⟩

/-- Until its end or its failure a part of a pass removed only what may go; at its end it knows how much. -/
def Careful {α : Type} (c : Cleanup) (moment : Moment) (d : Depot) (tells : α → CleanupReport → Prop) :
    Except CleanupError α → Depot → Prop
  | .ok value, e => c.Spares moment d e ∧ ∃ report, tells value report ∧ c.Accounts report d e
  | .error _, e => c.Spares moment d e

theorem careful_mono {α : Type} {p : Program CleanupError α} {tells other : α → CleanupReport → Prop}
    (ensures : p.Ensures moment (fun _ => True) (c.Careful moment d tells) e)
    (weaker : ∀ value report, tells value report → other value report) :
    p.Ensures moment (fun _ => True) (c.Careful moment d other) e := by
  refine Program.ensures_mono ensures (fun _ fits => fits) ?_
  rintro (problem | value) f careful
  · exact careful
  · obtain ⟨spares, report, told, accounts⟩ := careful
    exact ⟨spares, report, weaker value report told, accounts⟩

theorem careful_bind {α β : Type} {p : Program CleanupError α} {next : α → Program CleanupError β}
    {tells : α → CleanupReport → Prop} {tellsAll : β → CleanupReport → Prop}
    (first : p.Ensures moment (fun _ => True) (c.Careful moment d tells) d)
    (rest : ∀ value report e, tells value report → c.Spares moment d e →
      (next value).Ensures moment (fun _ => True)
        (c.Careful moment e fun total more => tellsAll total (together report more)) e) :
    (p >>= next).Ensures moment (fun _ => True) (c.Careful moment d tellsAll) d := by
  apply Program.ensures_bind first
  · rintro value e ⟨spares, report, told, accounts⟩
    refine Program.ensures_mono (rest value report e told spares) (fun _ fits => fits) ?_
    rintro (problem | total) f careful
    · exact spares.trans careful
    · obtain ⟨sparesMore, more, toldAll, accountsMore⟩ := careful
      exact ⟨spares.trans sparesMore, _, toldAll, accounts.trans accountsMore⟩
  · exact fun _ _ spares => spares

/-- A removal that is followed by others, where what went is counted. -/
theorem careful_next {step : Program CleanupError Bool} {more : Nat → Program CleanupError Nat}
    {reported : Nat → CleanupReport} (adds : ∀ a b, together (reported a) (reported b) = reported (a + b))
    (first : step.Ensures moment (fun _ => True)
      (c.Careful moment d fun gone report => report = reported gone.toNat) d)
    (rest : ∀ e removed, c.Spares moment d e → (more removed).Ensures moment (fun _ => True)
      (c.Careful moment e fun count report => ∃ n, count = removed + n ∧ report = reported n) e) (removed : Nat) :
    (do if ← step then more (removed + 1) else more removed : Program CleanupError Nat).Ensures moment
      (fun _ => True) (c.Careful moment d fun count report => ∃ n, count = removed + n ∧ report = reported n) d := by
  apply careful_bind first
  rintro gone _ e rfl spares
  have counted : (more (removed + gone.toNat)).Ensures moment (fun _ => True)
      (c.Careful moment e fun count report =>
        ∃ n, count = removed + n ∧ together (reported gone.toNat) report = reported n) e := by
    refine careful_mono (rest e _ spares) ?_
    rintro _ _ ⟨n, rfl, rfl⟩
    exact ⟨gone.toNat + n, Nat.add_assoc .., adds ..⟩
  cases gone with
  | false => exact counted
  | true => exact counted

/-- A question in the middle of a part, to which an answer may fail to come. -/
theorem careful_ask {α β : Type} {p : Program CleanupError α} {next : α → Program CleanupError β}
    {Q : α → Depot → Prop} {tells : β → CleanupReport → Prop} (spares : c.Spares moment d e)
    (asked : p.Ensures moment (fun _ => True) (e.Concludes Q) e)
    (rest : ∀ value f, Q value f → (next value).Ensures moment (fun _ => True) (c.Careful moment d tells) f) :
    (p >>= next).Ensures moment (fun _ => True) (c.Careful moment d tells) e := by
  refine Program.ensures_bind asked rest fun _ f same => ?_
  obtain rfl : f = e := same
  exact spares

/-! ### The parts of a pass -/

/-- Whatever the pages show, listing them removes nothing. -/
theorem listedIdsFrom_ensures (topic : String) (pageSize left offset : Nat) (ids : IdSet) :
    (listedIdsFrom topic pageSize left offset ids).Ensures moment (fun _ => True) (d.Concludes fun _ e => e = d)
      d := by
  induction left generalizing offset ids with
  | zero => rfl
  | succ left ih =>
    apply Program.ensures_step (Q := fun _ e => e = d)
    · exact Program.ensures_adminList trivial (fun _ => rfl) fun _ => rfl
    rintro batch _ rfl
    dsimp only
    split
    · rfl
    · exact ih _ _

theorem stored_ensures (id : String) :
    (stored id).Ensures moment (fun _ => True) (d.Concludes fun found e => e = d ∧ found = (d.row? id).isSome) d := by
  apply Program.ensures_mapError
  apply Program.ensures_bind (Program.asks_store trivial)
  · rintro found _ ⟨_, answered, rfl⟩
    obtain ⟨got, rfl⟩ := Prod.mk.inj answered
    exact ⟨rfl, Store.isSome_of_get got⟩
  · exact fun _ _ same => same

/-- The grants of an id go only if it is not stored, and it is known whether they went. -/
theorem removeGrant_careful (distinct : d.store.table.Distinct) (id : String) :
    (removeGrant c.topic id).Ensures moment (fun _ => True)
      (c.Careful moment d fun gone report => report = ⟨gone.toNat, 0⟩) d := by
  have kept : ∀ tells : Bool → CleanupReport → Prop, tells false ⟨0, 0⟩ → c.Careful moment d tells (.ok false) d :=
    fun _ told => ⟨.refl distinct, _, told, .refl⟩
  apply careful_ask (.refl distinct) (Program.asks_authority trivial rfl)
  rintro found _ ⟨_, answered, rfl⟩
  obtain ⟨got, rfl⟩ := Prod.mk.inj answered
  cases granted : d.grants? c.topic id with
  | none =>
    obtain rfl : found = none := (Except.ok.inj got).symm.trans granted
    exact kept _ rfl
  | some grants =>
    obtain rfl : found = some grants := (Except.ok.inj got).symm.trans granted
    apply careful_ask (.refl distinct) (stored_ensures id)
    rintro here d ⟨rfl, isHere⟩
    cases absent : d.row? id with
    | some row =>
      obtain rfl : here = true := isHere.trans (congrArg Option.isSome absent)
      exact kept _ rfl
    | none =>
      obtain rfl : here = false := isHere.trans (congrArg Option.isSome absent)
      have spares : c.Spares moment d { d with authority := d.authority.eraseGrants c.topic id } :=
        .revoke distinct absent
      apply careful_ask (.refl distinct) (Program.asks_authority trivial rfl)
      rintro _ _ ⟨_, answered, rfl⟩
      obtain ⟨-, rfl⟩ := Prod.mk.inj answered
      -- Nobody else is active, so the second look finds no document either and nothing is to be restored.
      apply careful_ask spares (stored_ensures id)
      rintro again _ ⟨rfl, isAgain⟩
      obtain rfl : again = false := isAgain.trans (congrArg Option.isSome absent)
      refine ⟨spares, _, rfl, ?_, Nat.zero_add _⟩
      have fewer := Authority.length_ids_eraseGrants d.authority c.topic id
      rw [show d.authority.grants? c.topic id = some grants from granted] at fewer
      exact (Nat.add_comm _ _).trans fewer

/-- So of several ids. -/
theorem removeGrants_careful (distinct : d.store.table.Distinct) (ids : List String) (removed : Nat) :
    (removeGrants c.topic ids removed).Ensures moment (fun _ => True)
      (c.Careful moment d fun count report => ∃ n, count = removed + n ∧ report = ⟨n, 0⟩) d := by
  induction ids generalizing d removed with
  | nil => exact ⟨.refl distinct, _, ⟨0, rfl, rfl⟩, .refl⟩
  | cons id more ih =>
    exact careful_next (fun _ _ => rfl) (removeGrant_careful distinct id)
      (fun _ _ spares => ih spares.distinct _) removed

theorem remove_ensures (id : String) :
    ((Materialize.remove id).mapError CleanupError.store).Ensures moment (fun _ => True)
      (d.Concludes fun outcome e =>
        outcome = (if (d.row? id).isSome then .deleted else .alreadyAbsent) ∧
          e = { d with store := (d.store.delete id).2 }) d := by
  apply Program.ensures_mapError
  apply Program.ensures_bind (Program.asks_store trivial)
  · rintro held _ ⟨_, answered, rfl⟩
    obtain ⟨isHeld, rfl⟩ := Prod.mk.inj answered
    obtain rfl := Except.ok.inj isHeld
    exact ⟨rfl, rfl⟩
  · exact fun _ _ same => same

/-- A stale document goes only if it has no grants, and it is known whether it went. -/
theorem removeDocument_careful (distinct : d.store.table.Distinct) {id : String}
    (old : ∀ row, d.row? id = some row → Store.isStale (cutoff c.grace moment.time) row) :
    (removeDocument c.topic id).Ensures moment (fun _ => True)
      (c.Careful moment d fun gone report => report = ⟨0, gone.toNat⟩) d := by
  apply careful_ask (.refl distinct) (Program.asks_authority trivial rfl)
  rintro found _ ⟨_, answered, rfl⟩
  obtain ⟨got, rfl⟩ := Prod.mk.inj answered
  cases granted : d.grants? c.topic id with
  | some grants =>
    obtain rfl : found = some grants := (Except.ok.inj got).symm.trans granted
    exact ⟨.refl distinct, _, rfl, .refl⟩
  | none =>
    obtain rfl : found = none := (Except.ok.inj got).symm.trans granted
    apply careful_ask (.refl distinct) (remove_ensures id)
    rintro outcome _ ⟨isOutcome, rfl⟩
    have went : decide (outcome = .deleted) = (d.row? id).isSome := by
      rw [isOutcome]
      cases (d.row? id).isSome <;> rfl
    have fewer := distinct.length_erase id
    refine ⟨.discard distinct granted old, _, rfl, Nat.zero_add _, ?_⟩
    rw [went, Nat.add_comm]
    exact fewer

/-- So of several documents; what is left of the others is as stale as before. -/
theorem removeDocuments_careful (distinct : d.store.table.Distinct) {ids : List String}
    (old : ∀ id ∈ ids, ∀ row, d.row? id = some row → Store.isStale (cutoff c.grace moment.time) row)
    (removed : Nat) :
    (removeDocuments c.topic ids removed).Ensures moment (fun _ => True)
      (c.Careful moment d fun count report => ∃ n, count = removed + n ∧ report = ⟨0, n⟩) d := by
  induction ids generalizing d removed with
  | nil => exact ⟨.refl distinct, _, ⟨0, rfl, rfl⟩, .refl⟩
  | cons id more ih =>
    refine careful_next (fun _ _ => rfl) (removeDocument_careful distinct (old id List.mem_cons_self))
      (fun e removed spares => ih spares.distinct (fun other member row found => ?_) removed) removed
    rcases spares.rows other with same | ⟨absent, -⟩
    · exact old other (List.mem_cons_of_mem _ member) row (same ▸ found)
    · cases found.symm.trans absent

/-! ### A whole pass -/

theorem pass_careful (distinct : d.store.table.Distinct) :
    c.pass.Ensures moment (fun _ => True) (c.Careful moment d fun report counted => report = counted) d := by
  -- Nothing is known of the listed ids; what goes is settled by the looks at each of them.
  apply careful_ask (.refl distinct) (Program.concludes_mapError (listedIdsFrom_ensures ..))
  rintro granted d rfl
  apply careful_ask (.refl distinct) (Program.asks_store trivial)
  rintro documents _ ⟨_, answered, rfl⟩
  obtain ⟨-, rfl⟩ := Prod.mk.inj answered
  apply careful_bind (removeGrants_careful distinct (without granted documents) 0)
  rintro _ _ e ⟨permissions, rfl, rfl⟩ spares
  apply careful_ask (.refl spares.distinct)
    (Q := fun time f => f = e ∧ time = moment.time) (Program.ensures_now trivial ⟨rfl, rfl⟩)
  rintro _ e ⟨rfl, rfl⟩
  apply careful_ask (.refl spares.distinct) (Program.asks_store trivial)
  rintro stale _ ⟨_, answered, rfl⟩
  obtain ⟨isStale, rfl⟩ := Prod.mk.inj answered
  obtain rfl := Except.ok.inj isStale
  have old : ∀ id ∈ (without documents granted).filter (e.store.staleIds (cutoff c.grace moment.time)).contains,
      ∀ row, e.row? id = some row → Store.isStale (cutoff c.grace moment.time) row := by
    intro id member row found
    have listed := Std.ExtTreeSet.contains_iff_mem.mp (List.mem_filter.mp member).2
    obtain ⟨other, foundOther, old⟩ := (Store.mem_staleIds_of_distinct spares.distinct).mp listed
    obtain rfl := Option.some.inj (found.symm.trans foundOther)
    exact old
  apply careful_bind (removeDocuments_careful spares.distinct old 0)
  rintro _ _ f ⟨documents, rfl, rfl⟩ sparesMore
  refine ⟨.refl sparesMore.distinct, ⟨0, 0⟩, ?_, .refl⟩
  simp [together]

/-- Whatever ids a pass is shown as granted and whichever of its calls fail, it removes nothing but grants
    without a document, and documents without grants and without a recent update; a pass that comes to its
    end reports how many of each. -/
theorem passUnless_careful (distinct : d.store.table.Distinct) (mishaps : Nat → Option Mishap) :
    c.Spares moment d ((c.passUnless false).runAmid mishaps moment d).2 ∧
      ∀ report, ((c.passUnless false).runAmid mishaps moment d).1 = .ok report →
        c.Accounts report d ((c.passUnless false).runAmid mishaps moment d).2 := by
  have careful : c.Careful moment d (fun report counted => report = counted)
      ((c.passUnless false).runAmid mishaps moment d).1 ((c.passUnless false).runAmid mishaps moment d).2 :=
    Program.runAmid_of_ensures (pass_careful distinct) mishaps
  generalize (c.passUnless false).runAmid mishaps moment d = ran at careful ⊢
  obtain ⟨result, e⟩ := ran
  cases result with
  | error problem => exact ⟨careful, nofun⟩
  | ok report =>
    obtain ⟨spares, counted, rfl, accounts⟩ := careful
    refine ⟨spares, fun other same => ?_⟩
    obtain rfl := Except.ok.inj same
    exact accounts

/-- The listing leaves out an id with grants and makes up another one. -/
def misleading : Nat → Option Mishap
  | 0 => some (.misled ["orphan", "foreign"])
  | 1 => some (.misled [])
  | _ => none

theorem passUnless_careful_misleading :
    drifted.store.table.Distinct ∧
      byOnes.Spares ⟨100, "x"⟩ drifted ((byOnes.passUnless false).runAmid misleading ⟨100, "x"⟩ drifted).2 ∧
      ∀ report, ((byOnes.passUnless false).runAmid misleading ⟨100, "x"⟩ drifted).1 = .ok report →
        byOnes.Accounts report drifted ((byOnes.passUnless false).runAmid misleading ⟨100, "x"⟩ drifted).2 := by
  have distinct : drifted.store.table.Distinct := by decide
  exact ⟨distinct, passUnless_careful distinct misleading⟩

example : ((byOnes.passUnless false).runAmid misleading ⟨100, "x"⟩ drifted).1 = .ok ⟨1, 1⟩ := by decide +kernel

end ModelDepot.Cleanup
