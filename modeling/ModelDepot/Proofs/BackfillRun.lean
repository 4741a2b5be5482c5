import ModelDepot.Backfill
import ModelDepot.Proofs.ApplyAlone
import ModelDepot.Proofs.OwnListing

/-!
Backfilling where no call fails and nobody else is active. The pages of the listing by name add up to all documents,
and the grants of each one are made sure of. Main statement: `run_backfills`.
-/
namespace ModelDepot

/-! ### The documents by name -/

/-- A valid document is read as it was written. -/
theorem Row.toDocument_ofDocument {document : Document} (valid : document.validate = .ok ()) :
    (Row.ofDocument document).toDocument = .ok document := by
  obtain ⟨id, name, owner, bpmnXml, svgXml, publish, publishDate, description, lastUpdated⟩ := document
  cases publish with
  | false =>
    simp only [Row.toDocument, Row.ofDocument, Bool.false_eq_true, ↓reduceIte, pure_bind, valid]
    rfl
  | true =>
    simp only [Row.toDocument, Row.ofDocument, ↓reduceIte, pure_bind, valid]
    rfl

namespace Store
variable {store : Store} {documents : List Document}

/-- Every look-up succeeds. -/
def Legible (store : Store) : Prop := ∀ id, ∃ found, store.get id = .ok found

theorem legible_upsert {after : Store} {document : Document} (legible : store.Legible)
    (done : store.upsert document = .ok after) : after.Legible := by
  intro id
  refine get_ok_iff.mpr fun row found => ?_
  rw [find?_upsert done] at found
  split at found
  · obtain rfl := Option.some.inj found
    exact ⟨document, Row.toDocument_ofDocument (upsert_eq_ok done).1⟩
  · exact get_ok_iff.mp (legible id) row found

theorem legible_holding (legible : store.Legible) (document : Document) : (store.holding document).Legible := by
  unfold holding
  split
  · rename_i after done
    exact legible_upsert legible done
  · exact legible

theorem get_holding {document : Document} (key : store.table.HasKey) (named : Text.allBlank document.id = false) :
    (store.holding document).get document.id = .ok (some document) := by
  obtain ⟨after, done⟩ := upsert_iff.mpr ⟨named, key⟩
  have held := (find?_holding key named document.id).trans (if_pos rfl)
  exact get_eq_ok_some.mpr ⟨_, held, Row.toDocument_ofDocument (upsert_eq_ok done).1⟩

theorem length_holding_le (document : Document) :
    (store.holding document).table.toList.length ≤ store.table.toList.length + 1 := by
  unfold holding
  split
  · rename_i after done
    have put := (upsert_eq_ok done).2
    unfold Table.put at put
    split at put
    · rename_i rows isKeyed
      rw [← Except.ok.inj put, Table.toList, Table.toList, isKeyed]
      simp only [Rows.toList, List.length_map, Std.ExtTreeMap.length_toList]
      exact Std.ExtTreeMap.size_insert_le
    · cases put
  · exact Nat.le_succ _

/-- The rows in the order of their names are read as these documents. -/
def Shows (store : Store) (documents : List Document) : Prop :=
  List.Forall₂ (fun row document => row.toDocument = .ok document) (SortKey.byName.sort store.table.toList) documents

theorem exists_shows (distinct : store.table.Distinct) (legible : store.Legible) :
    ∃ documents, store.Shows documents := by
  have reads : ∀ row ∈ SortKey.byName.sort store.table.toList, ∃ document, row.toDocument = .ok document := by
    intro row member
    have stored := distinct.mem_toList.mp ((SortKey.byName.perm_sort _).mem_iff.mp member)
    exact get_ok_iff.mp (legible row.id) row stored
  obtain ⟨documents, read⟩ := mapM_ok_iff.mpr reads
  exact ⟨documents, mapM_eq_ok_iff.mp read⟩

theorem Shows.ids_eq (shown : store.Shows documents) :
    documents.map (·.id) = (SortKey.byName.sort store.table.toList).map (·.id) := by
  rw [← List.forall₂_eq_eq_eq, List.forall₂_map_left_iff, List.forall₂_map_right_iff]
  exact shown.flip.imp fun document row isRow => (Row.content_of_toDocument isRow).1

theorem Shows.ids_perm (shown : store.Shows documents) :
    (documents.map (·.id)).Perm (store.table.toList.map (·.id)) := by
  rw [shown.ids_eq]
  exact (SortKey.byName.perm_sort _).map _

theorem Shows.nodup_ids (shown : store.Shows documents) (distinct : store.table.Distinct) :
    (documents.map (·.id)).Nodup :=
  shown.ids_perm.nodup_iff.mpr distinct.nodup_ids

theorem Shows.length_eq (shown : store.Shows documents) : documents.length = store.table.toList.length := by
  have same := shown.ids_perm.length_eq
  rwa [List.length_map, List.length_map] at same

/-- A look-up finds the document that is shown with the id. -/
theorem Shows.find?_eq (shown : store.Shows documents) (distinct : store.table.Distinct) {id : String}
    {found : Option Document} (got : store.get id = .ok found) : documents.find? (·.id == id) = found := by
  have mem_documents : ∀ document, document ∈ documents ↔ store.get document.id = .ok (some document) := by
    intro document
    rw [mem_of_mapM (mapM_eq_ok_iff.mpr shown)]
    simp only [(SortKey.byName.perm_sort _).mem_iff, distinct.mem_toList, get_eq_ok_some]
    constructor
    · rintro ⟨row, present, isRow⟩
      exact ⟨row, (Row.content_of_toDocument isRow).1 ▸ present, isRow⟩
    · rintro ⟨row, present, isRow⟩
      exact ⟨row, (Row.content_of_toDocument isRow).1 ▸ present, isRow⟩
  cases seen : documents.find? (·.id == id) with
  | some document =>
    obtain rfl : document.id = id := by simpa using List.find?_some seen
    have present := (mem_documents document).mp (List.mem_of_find?_eq_some seen)
    exact Except.ok.inj (present.symm.trans got)
  | none =>
    cases found with
    | none => rfl
    | some document =>
      obtain ⟨row, present, isRow⟩ := row_of_get got
      obtain rfl : document.id = id := (Row.content_of_toDocument isRow).1.trans (distinct.id_eq present)
      have listed := (mem_documents document).mpr got
      exact absurd (beq_self_eq_true document.id) (List.find?_eq_none.mp seen document listed)

/-- A listing that asks for no order, no search and no ids is a cut of the documents by name. -/
theorem Shows.list_eq (shown : store.Shows documents) {options : ListOptions} (unsorted : options.sortBy = none)
    (unsearched : options.search = none) (unnamed : options.ids = none) :
    store.list options = .ok ⟨options.cut documents, documents.length⟩ := by
  have unpatterned : options.pattern? = none := by simp only [ListOptions.pattern?, unsearched, Option.map_none]
  have sorted : options.SortsBy SortKey.byName := by simp only [ListOptions.SortsBy, unsorted]
  have few : options.boundValues ≤ maxBoundValues := by
    simp only [ListOptions.boundValues, unnamed, unpatterned, Option.map_none, Option.getD_none, Option.isSome_none]
    unfold maxBoundValues
    repeat' split
    all_goals omega
  have all : store.found options = store.table.toList := by
    rw [found, unpatterned, asksForId, unnamed]
    exact List.filter_eq_self.mpr fun _ _ => rfl
  have fits : options.Fits := by
    refine ⟨few, fun pattern asked => ?_⟩
    rw [unpatterned] at asked
    cases asked
  refine list_of_read sorted fits ?_
  rw [all]
  exact shown

end Store

/-! ### The grants of several documents -/

namespace Authority
variable {a : Authority} {topic : String} {documents : List Document}

theorem grants?_seeded_eq (owner id t i : String) :
    (a.seeded topic owner id).grants? t i =
      if t = topic ∧ i = id then some ((a.grants? topic id).getD (.forOwner owner)) else a.grants? t i := by
  unfold seeded
  cases granted : a.grants? topic id with
  | none => exact grants?_setGrants a topic id _ t i
  | some grants =>
    by_cases here : t = topic ∧ i = id
    · rw [if_pos here, here.1, here.2, granted]
      rfl
    · rw [if_neg here]

/-- The authority at which all of the documents have grants, which are their owners' unless there were others. -/
def seededAll (topic : String) (documents : List Document) (a : Authority) : Authority :=
  documents.foldl (fun a document => a.seeded topic document.owner document.id) a

@[simp] theorem seededAll_append (first second : List Document) :
    a.seededAll topic (first ++ second) = (a.seededAll topic first).seededAll topic second :=
  List.foldl_append

@[simp] theorem topics_seededAll : (a.seededAll topic documents).topics = a.topics := by
  unfold seededAll
  induction documents generalizing a with
  | nil => rfl
  | cons document more ih => simp [ih]

/-- Grants that there were stay, and each of the documents without grants has those of its owner. -/
@[simp] theorem grants?_seededAll (i : String) :
    (a.seededAll topic documents).grants? topic i =
      (a.grants? topic i).or ((documents.find? (·.id == i)).map fun document => .forOwner document.owner) := by
  unfold seededAll
  induction documents generalizing a with
  | nil => rw [List.foldl_nil, List.find?_nil, Option.map_none, Option.or_none]
  | cons document more ih =>
    rw [List.foldl_cons, ih, grants?_seeded_eq, List.find?_cons]
    by_cases here : i = document.id
    · rw [if_pos ⟨rfl, here⟩, here, beq_self_eq_true]
      cases a.grants? topic document.id <;> rfl
    · rw [if_neg fun both => here both.2, beq_eq_false_iff_ne.mpr fun same => here same.symm]

theorem grants?_seededAll_of_other {t : String} (other : t ≠ topic) (i : String) :
    (a.seededAll topic documents).grants? t i = a.grants? t i := by
  unfold seededAll
  induction documents generalizing a with
  | nil => rfl
  | cons document more ih => rw [List.foldl_cons, ih, grants?_seeded_eq, if_neg fun both => other both.1]

theorem grants?_seededAll_isSome {document : Document} (member : document ∈ documents) :
    ((a.seededAll topic documents).grants? topic document.id).isSome := by
  have found : (documents.find? (·.id == document.id)).isSome :=
    List.find?_isSome.mpr ⟨document, member, beq_self_eq_true document.id⟩
  simp [found]

theorem seededAll_of_granted (granted : ∀ document ∈ documents, (a.grants? topic document.id).isSome) :
    a.seededAll topic documents = a := by
  unfold seededAll
  induction documents with
  | nil => rfl
  | cons document more ih =>
    obtain ⟨grants, isGrants⟩ := Option.isSome_iff_exists.mp (granted document List.mem_cons_self)
    rw [List.foldl_cons, seeded_of_granted isGrants]
    exact ih fun other member => granted other (List.mem_cons_of_mem _ member)

/-- How many of the documents have no grants. -/
def lacking (topic : String) (documents : List Document) (a : Authority) : Nat :=
  documents.countP fun document => (a.grants? topic document.id).isNone

/-- The grants of some documents do not matter for those with other ids. -/
theorem lacking_seededAll {first second : List Document} (apart : ((first ++ second).map (·.id)).Nodup) :
    (a.seededAll topic first).lacking topic second = a.lacking topic second := by
  refine List.countP_congr fun document member => ?_
  have unseen : first.find? (·.id == document.id) = none := by
    refine List.find?_eq_none.mpr fun other earlier same => ?_
    rw [List.map_append] at apart
    have disjoint := List.disjoint_of_nodup_append apart
    refine disjoint (List.mem_map_of_mem earlier) ?_
    rw [beq_iff_eq.mp same]
    exact List.mem_map_of_mem member
  rw [grants?_seededAll, unseen, Option.map_none, Option.or_none]

end Authority

/-- The depot at which all of the documents have grants. -/
def Depot.backfilled (topic : String) (documents : List Document) (d : Depot) : Depot :=
  { d with authority := d.authority.seededAll topic documents }

@[simp] theorem Depot.topics_backfilled (topic : String) (documents : List Document) (d : Depot) :
    (d.backfilled topic documents).authority.topics = d.authority.topics :=
  Authority.topics_seededAll

@[simp] theorem Depot.backfilled_backfilled (topic : String) (first second : List Document) (d : Depot) :
    (d.backfilled topic first).backfilled topic second = d.backfilled topic (first ++ second) := by
  simp [backfilled]

/-- What is reported after some more documents. -/
def BackfillReport.adding (topic : String) (documents : List Document) (d : Depot) (report : BackfillReport) :
    BackfillReport :=
  ⟨report.scanned + documents.length, report.granted + d.authority.lacking topic documents⟩

theorem BackfillReport.adding_append {topic : String} {first second : List Document} (d : Depot)
    (report : BackfillReport) (apart : ((first ++ second).map (·.id)).Nodup) :
    (report.adding topic first d).adding topic second (d.backfilled topic first) =
      report.adding topic (first ++ second) d := by
  have others : (d.authority.seededAll topic first).lacking topic second = d.authority.lacking topic second :=
    Authority.lacking_seededAll apart
  have both : d.authority.lacking topic (first ++ second) =
      d.authority.lacking topic first + d.authority.lacking topic second := List.countP_append
  unfold adding Depot.backfilled
  rw [others, both, List.length_append, Nat.add_assoc, Nat.add_assoc]

namespace Backfill
variable {moment : Moment} {topic : String} {d e : Depot} {documents : List Document}

/-! ### A whole run -/

/-- The grants of one document are made sure of. -/
theorem grantAll_cons {ending : BackfillReport → Depot → Prop} (registered : d.authority.isRegistered topic)
    (document : Document) (more : List Document) (report : BackfillReport)
    (rest : (grantAll topic more (report.adding topic [document] d)).Completes moment ending
      (d.backfilled topic [document])) :
    (grantAll topic (document :: more) report).Completes moment ending d := by
  have counted : report.adding topic [document] d =
      ⟨report.scanned + 1, report.granted + if (d.grants? topic document.id).isNone then 1 else 0⟩ := by
    simp only [BackfillReport.adding, Authority.lacking, List.countP_singleton, List.length_singleton]
    rfl
  have became : d.backfilled topic [document] =
      { d with authority := d.authority.seeded topic document.owner document.id } := rfl
  rw [counted, became] at rest
  apply Program.completes_bind (Q := fun found e => e = d ∧ found = d.grants? topic document.id)
  · exact Program.completes_authority rfl ⟨rfl, rfl⟩
  rintro found d ⟨rfl, rfl⟩
  unfold Authority.seeded at rest
  cases granted : d.grants? topic document.id with
  | some grants =>
    rw [granted, show d.authority.grants? topic document.id = some grants from granted] at rest
    exact rest
  | none =>
    rw [granted, show d.authority.grants? topic document.id = none from granted] at rest
    refine Program.completes_noted ?_
    apply Program.completes_bind
      (Q := fun _ e => e = { d with authority := d.authority.setGrants topic document.id (.forOwner document.owner) })
    · exact Program.completes_authority (Authority.respond_setPermission registered _ _) rfl
    · rintro _ _ rfl
      exact rest

/-- The grants of each document are made sure of, and those that were missing are counted. -/
theorem grantAll_completes (registered : d.authority.isRegistered topic) (apart : (documents.map (·.id)).Nodup)
    (report : BackfillReport) :
    (grantAll topic documents report).Completes moment
      (fun total e => e = d.backfilled topic documents ∧ total = report.adding topic documents d) d := by
  induction documents generalizing d report with
  | nil => exact ⟨rfl, rfl⟩
  | cons document more ih =>
    have registeredStill : (d.backfilled topic [document]).authority.isRegistered topic := by
      simpa [Authority.isRegistered] using registered
    apply grantAll_cons registered
    refine Program.completes_mono (ih registeredStill (List.nodup_cons.mp apart).2 _) ?_
    rintro total e ⟨became, isTotal⟩
    have parts : (([document] ++ more).map (·.id)).Nodup := apart
    exact ⟨became, isTotal.trans (BackfillReport.adding_append d report parts)⟩

/-- From an offset on, the pages add up to the rest of the documents, if more pages are allowed than that takes. -/
theorem pagesFrom_completes {left offset : Nat} (shown : d.store.Shows documents)
    (registered : d.authority.isRegistered topic) (apart : (documents.map (·.id)).Nodup)
    (within : offset < documents.length + pageSize) (enough : documents.length + pageSize ≤ offset + left * pageSize)
    (report : BackfillReport) :
    (pagesFrom topic left offset report).Completes moment
      (fun total e => e = d.backfilled topic (documents.drop offset) ∧
        total = report.adding topic (documents.drop offset) d) d := by
  induction left generalizing d offset report with
  | zero => omega
  | succ left ih =>
    let options : ListOptions := { limit := some pageSize, offset := offset }
    have listed : d.store.list options = .ok ⟨options.cut documents, documents.length⟩ :=
      shown.list_eq rfl rfl rfl
    apply Program.completes_bind
      (Q := fun page e => e = d ∧ page.items = (documents.drop offset).take pageSize)
    · exact Program.completes_store (congrArg (·, d.store) listed) ⟨rfl, rfl⟩
    rintro page d ⟨rfl, isPage⟩
    have parts : (documents.drop offset).take pageSize ++ documents.drop (offset + pageSize) =
        documents.drop offset := by
      rw [← List.drop_drop, List.take_append_drop]
    have apartHere : ((documents.drop offset).map (·.id)).Nodup := apart.sublist ((List.drop_sublist _ _).map _)
    by_cases last : documents.length ≤ offset
    · have none : documents.drop offset = [] := List.drop_eq_nil_of_le last
      rw [isPage, none, List.take_nil]
      exact ⟨rfl, rfl⟩
    have progress : (documents.drop offset).take pageSize ≠ [] := by
      refine List.ne_nil_of_length_pos ?_
      rw [List.length_take, List.length_drop, pageSize]
      omega
    generalize (documents.drop offset).take pageSize = batch at isPage parts progress
    rw [isPage, if_neg (mt List.isEmpty_iff.mp progress), ← parts]
    rw [← parts, List.map_append] at apartHere
    have apartOnPage : (batch.map (·.id)).Nodup := apartHere.of_append_left
    rw [← List.map_append] at apartHere
    apply Program.completes_bind (grantAll_completes registered apartOnPage report)
    rintro _ _ ⟨rfl, rfl⟩
    have registeredStill : (d.backfilled topic batch).authority.isRegistered topic := by
      simpa [Authority.isRegistered] using registered
    have enoughStill : documents.length + pageSize ≤ offset + pageSize + left * pageSize := by
      rw [Nat.add_mul, Nat.one_mul] at enough
      omega
    refine Program.completes_mono (ih (d := d.backfilled topic batch) shown registeredStill (by omega) enoughStill _) ?_
    rintro total e ⟨became, isTotal⟩
    refine ⟨?_, isTotal.trans (BackfillReport.adding_append d report apartHere)⟩
    rw [became, Depot.backfilled_backfilled]

/-- Fewer than `2 ^ 32 - 1000` documents leave a page without documents among those with an offset of 32 bits. -/
theorem allPages_complete {left : Nat} (shown : d.store.Shows documents) (registered : d.authority.isRegistered topic)
    (distinct : d.store.table.Distinct) (few : documents.length < UInt32.size - 1000) (allowed : maxPages ≤ left) :
    (pagesFrom topic left 0 {}).Completes moment
      (fun total e => e = d.backfilled topic documents ∧ total = BackfillReport.adding topic documents d {}) d := by
  have offsets : maxPages * pageSize = UInt32.size + 704 := by decide
  have within : 0 < documents.length + pageSize := Nat.add_pos_right _ (by decide)
  have enough : documents.length + pageSize ≤ 0 + left * pageSize := by
    have more : maxPages * pageSize ≤ left * pageSize := Nat.mul_le_mul_right _ allowed
    rw [offsets] at more
    rw [show pageSize = 1000 from rfl] at more ⊢
    omega
  exact pagesFrom_completes shown registered (shown.nodup_ids distinct) within enough {}

theorem run_completes (shown : d.store.Shows documents) (registered : d.authority.isRegistered topic)
    (distinct : d.store.table.Distinct) (few : documents.length < UInt32.size - 1000) :
    (run topic).Completes moment
      (fun total e => e = d.backfilled topic documents ∧ total = BackfillReport.adding topic documents d {}) d := by
  refine ⟨rfl, ?_⟩
  apply Program.completes_bind (allPages_complete shown registered distinct few (Nat.le_refl maxPages))
  rintro total e ended
  exact ⟨rfl, ended⟩

/-- What a run makes of a depot, and what it tells about it. -/
structure Outcome (topic : String) (d : Depot) (report : BackfillReport) (e : Depot) : Prop where
  /-- Grants that there were stay, a stored document without any has those of its owner, and nothing else is granted. -/
  grants (id : String) (found : Option Document) (got : d.store.get id = .ok found) :
    e.grants? topic id = (d.grants? topic id).or (found.map fun document => .forOwner document.owner)
  otherTopics (other id : String) (different : other ≠ topic) : e.grants? other id = d.grants? other id
  topics : e.authority.topics = d.authority.topics
  store : e.store = d.store
  log : e.log = d.log
  scanned : report.scanned = d.store.table.toList.length
  granted : report.granted = d.store.table.toList.countP fun row => (d.grants? topic row.id).isNone

theorem outcome_of_backfilled (shown : d.store.Shows documents) (distinct : d.store.table.Distinct) :
    Outcome topic d (BackfillReport.adding topic documents d {}) (d.backfilled topic documents) where
  grants id found got := by
    rw [← shown.find?_eq distinct got]
    exact Authority.grants?_seededAll id
  otherTopics other id different := Authority.grants?_seededAll_of_other different id
  topics := Authority.topics_seededAll
  store := rfl
  log := rfl
  scanned := by
    rw [← shown.length_eq]
    exact Nat.zero_add _
  granted := by
    have sameIds := shown.ids_perm.countP_eq fun id => (d.grants? topic id).isNone
    rw [List.countP_map, List.countP_map] at sameIds
    exact (Nat.zero_add _).trans sameIds

/-- Once the documents have grants, there is nothing to grant. -/
theorem run_completes_again (shown : d.store.Shows documents) (registered : d.authority.isRegistered topic)
    (distinct : d.store.table.Distinct) (few : documents.length < UInt32.size - 1000) :
    (run topic).Completes moment
      (fun total e => e = d.backfilled topic documents ∧ total = ⟨documents.length, 0⟩)
      (d.backfilled topic documents) := by
  have granted : ∀ document ∈ documents,
      ((d.backfilled topic documents).grants? topic document.id).isSome :=
    fun document member => Authority.grants?_seededAll_isSome member
  have registeredStill : (d.backfilled topic documents).authority.isRegistered topic := by
    simpa [Authority.isRegistered] using registered
  refine Program.completes_mono
    (run_completes (d := d.backfilled topic documents) shown registeredStill distinct few) ?_
  rintro total e ⟨became, isTotal⟩
  constructor
  · rw [became, Depot.backfilled, Authority.seededAll_of_granted granted]
  · have none : (d.backfilled topic documents).authority.lacking topic documents = 0 := by
      refine List.countP_eq_zero.mpr fun document member => ?_
      rw [← Option.not_isSome, Bool.not_eq_true, Bool.not_eq_false']
      exact granted document member
    rw [isTotal, BackfillReport.adding, none]
    simp

/-- A run ends by itself, and would with more pages: every stored document has grants then, the missing ones were given
    to the owners, and each document was looked at once. A second run changes nothing. -/
theorem run_backfills (registered : d.authority.isRegistered topic) (distinct : d.store.table.Distinct)
    (legible : d.store.Legible) (few : d.store.table.toList.length < UInt32.size - 1000) :
    ∃ report e,
      (run topic).run (Depot.answer moment) d = (.ok report, e) ∧
        Outcome topic d report e ∧
        (∀ left, maxPages ≤ left → (pagesFrom topic left 0 {}).run (Depot.answer moment) d = (.ok report, e)) ∧
        ∀ later, (run topic).run (Depot.answer later) e = (.ok ⟨report.scanned, 0⟩, e) := by
  obtain ⟨documents, shown⟩ := Store.exists_shows distinct legible
  rw [← shown.length_eq] at few
  have completes : (run topic).Completes moment _ d := run_completes shown registered distinct few
  obtain ⟨_, _, ran, rfl, rfl⟩ := Program.run_of_completes completes
  refine ⟨_, _, ran, outcome_of_backfilled shown distinct, fun left more => ?_, fun later => ?_⟩
  · have pages : (pagesFrom topic left 0 {}).Completes moment _ d :=
      allPages_complete shown registered distinct few more
    obtain ⟨_, _, paged, rfl, rfl⟩ := Program.run_of_completes pages
    exact paged
  · have again : (run topic).Completes later _ (d.backfilled topic documents) :=
      run_completes_again shown registered distinct few
    obtain ⟨_, _, ranAgain, rfl, rfl⟩ := Program.run_of_completes again
    rw [ranAgain, (outcome_of_backfilled shown distinct).scanned, shown.length_eq]

/-- Someone else has grants of the first document. -/
def lent : Authority := (({} : Authority).register (.ofTopic "t")).setGrants "t" "d0" (.forOwner "bob")

/-- As many documents, of which no other one has grants. Nothing should be computed from so many. -/
@[irreducible] def stocked (n : Nat) : Depot := { Control.crowded n with authority := lent }

theorem stocked_holds {n : Nat} (few : n < UInt32.size - 1000) :
    (stocked n).authority.isRegistered "t" ∧ (stocked n).store.table.Distinct ∧ (stocked n).store.Legible ∧
      (stocked n).store.table.toList.length < UInt32.size - 1000 := by
  have each : ∀ (ids : List String) (store : Store), store.Legible →
      (ids.foldl (fun store id => store.holding { id := id, name := id, owner := "ann" }) store).Legible ∧
        (ids.foldl (fun store id => store.holding { id := id, name := id, owner := "ann" }) store).table.toList.length ≤
          store.table.toList.length + ids.length := by
    intro ids
    induction ids with
    | nil => exact fun store legible => ⟨legible, Nat.le_refl _⟩
    | cons id more ih =>
      intro store legible
      have longer := store.length_holding_le { id := id, name := id, owner := "ann" }
      obtain ⟨legibleToo, few⟩ := ih _ (Store.legible_holding legible { id := id, name := id, owner := "ann" })
      refine ⟨legibleToo, Nat.le_trans few ?_⟩
      rw [List.length_cons]
      omega
  have legible : Store.empty.Legible := fun id => ⟨none, by simp [Store.get, Store.empty, Table.empty, Table.find?]⟩
  obtain ⟨legibleToo, atMost⟩ := each (Control.crowd n) .empty legible
  unfold stocked
  have registered : lent.isRegistered "t" := by decide
  refine ⟨registered, (Control.keyed_crowded n).distinct, legibleToo, Nat.lt_of_le_of_lt atMost ?_⟩
  simpa [Control.crowd, Store.empty, Table.empty, Table.toList, Rows.toList] using few

/-- Three pages of documents, the last of which is not full. -/
theorem run_backfills_stocked :
    ((stocked 2500).authority.isRegistered "t" ∧ (stocked 2500).store.table.Distinct ∧ (stocked 2500).store.Legible ∧
        (stocked 2500).store.table.toList.length < UInt32.size - 1000) ∧
      ∃ report e,
        (run "t").run (Depot.answer ⟨1, "x"⟩) (stocked 2500) = (.ok report, e) ∧
          Outcome "t" (stocked 2500) report e ∧
          (∀ left, maxPages ≤ left →
            (pagesFrom "t" left 0 {}).run (Depot.answer ⟨1, "x"⟩) (stocked 2500) = (.ok report, e)) ∧
          ∀ later, (run "t").run (Depot.answer later) e = (.ok ⟨report.scanned, 0⟩, e) := by
  have holds := stocked_holds (n := 2500) (by decide)
  exact ⟨holds, run_backfills holds.1 holds.2.1 holds.2.2.1 holds.2.2.2⟩

end Backfill
end ModelDepot
