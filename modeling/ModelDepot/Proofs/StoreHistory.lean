import ModelDepot.Service
import ModelDepot.Proofs.BackfillRun

/-!
A store is a map from ids to documents. What stands under an id is what the last change says that settles
it, and every way of reading tells just that. Main statement: `opened_remembers`.
-/
namespace ModelDepot

/-- A change of the store. -/
inductive StoreEdit where
  | upsert (document : Document)
  | delete (id : String)
  deriving DecidableEq, Repr

namespace StoreEdit

def call : StoreEdit → StoreCall
  | upsert document => .upsert document
  | delete id => .delete id

def id : StoreEdit → String
  | upsert document => document.id
  | delete id => id

/-- The change says what stands under the id; a document without an id is not taken. -/
def settles (id : String) : StoreEdit → Bool
  | upsert document => document.id == id && !Text.allBlank document.id
  | delete other => other == id

/-- What the change leaves under its id. -/
def document? : StoreEdit → Option Document
  | upsert document => some document
  | delete _ => none

/-- What stands under an id after some changes: what the last one left that settles the id. -/
def standing (id : String) (edits : List StoreEdit) : Option Document :=
  (edits.reverse.find? (·.settles id)).bind document?

variable {id : String} {edits : List StoreEdit} {edit : StoreEdit} {document : Document}

@[simp] theorem standing_concat :
    standing id (edits ++ [edit]) = if edit.settles id then edit.document? else standing id edits := by
  unfold standing
  rw [List.reverse_append, List.reverse_singleton, List.singleton_append, List.find?_cons]
  cases edit.settles id <;> rfl

/-- A document stands under its own id, which is not blank. -/
theorem named_of_standing (stands : standing id edits = some document) :
    document.id = id ∧ Text.allBlank document.id = false := by
  obtain ⟨edit, found, leaves⟩ := Option.bind_eq_some_iff.mp stands
  have settled := List.find?_some found
  cases edit with
  | delete other => cases leaves
  | upsert other =>
    obtain rfl := Option.some.inj leaves
    simpa [settles] using settled

theorem settles_other (other : id ≠ edit.id) : edit.settles id = false := by
  cases edit with
  | delete there => exact beq_eq_false_iff_ne.mpr other.symm
  | upsert document =>
    have apart : (document.id == id) = false := beq_eq_false_iff_ne.mpr other.symm
    simp only [settles, apart, Bool.false_and]

end StoreEdit

/-- The call changes nothing. -/
def StoreCall.isRead : StoreCall → Bool
  | upsert _ | delete _ => false
  | get _ | list _ | listPublished | allIds | staleIds _ => true

namespace Store

/-- The store after some changes; one that fails leaves it as it was. -/
def edited (store : Store) (edits : List StoreEdit) : Store :=
  edits.foldl (fun store edit => (store.respond edit.call).2) store

/-- The store in a database that was not there before. -/
def openedNew (mode : String) : Except StoreError Store :=
  match (Database.openReported mode (.ok {})).1 with
  | .ok db => Store.ofDatabase db
  | .error problem => .error (.database problem)

/-- What a store tells that has gone through some changes. -/
structure Remembers (edits : List StoreEdit) (store : Store) : Prop where
  get (id : String) : store.get id = .ok (StoreEdit.standing id edits)
  allIds (id : String) : id ∈ store.allIds ↔ (StoreEdit.standing id edits).isSome
  staleIds (cutoff : Int64) (id : String) : id ∈ store.staleIds cutoff ↔
    ∃ document, StoreEdit.standing id edits = some document ∧
      (document.lastUpdated.toInt = 0 ∨ document.lastUpdated.toInt < cutoff.toInt)
  delete (id : String) : (store.respond (.delete id)).1 = .ok (StoreEdit.standing id edits).isSome
  upsert (document : Document) (named : Text.allBlank document.id = false) :
    (store.respond (.upsert document)).1 = .ok ()
  refused (document : Document) (blank : Text.allBlank document.id) :
    store.respond (.upsert document) = (.error (.validation .emptyId), store)
  others (edit : StoreEdit) (id : String) (other : id ≠ edit.id) :
    (store.respond edit.call).2.get id = store.get id
  /-- What is stored is never at fault. -/
  reads (call : StoreCall) (isRead : call.isRead) (problem : StoreError)
    (failed : (store.respond call).1 = .error problem) :
    problem = .database .sqlite ∨ ∃ text, problem = .invalidQuery text

variable {store : Store} {edits earlier : List StoreEdit} {edit : StoreEdit} {id : String}

theorem respond_blank (store : Store) {document : Document} (blank : Text.allBlank document.id) :
    store.respond (.upsert document) = (.error (.validation .emptyId), store) := by
  simp only [respond, Store.upsert, Document.validate, blank, ↓reduceIte]

theorem isStale_iff (cutoff : Int64) (row : Row) :
    isStale cutoff row ↔ row.lastUpdated.toInt = 0 ∨ row.lastUpdated.toInt < cutoff.toInt := by
  unfold isStale
  rw [Bool.or_eq_true, decide_eq_true_iff, decide_eq_true_iff, Int64.lt_iff_toInt_lt, ← Int64.toInt_inj]
  rfl

/-! ### The rows -/

/-- The rows are those of the documents that stand after some changes. -/
structure Reflects (edits : List StoreEdit) (store : Store) : Prop where
  keyed : store.table.Keyed
  rows (id : String) : store.table.find? id = (StoreEdit.standing id edits).map Row.ofDocument

theorem reflects_edit (reflects : store.Reflects edits) (edit : StoreEdit) :
    (store.respond edit.call).2.Reflects (edits ++ [edit]) := by
  obtain ⟨keyed, rows⟩ := reflects
  cases edit with
  | delete other =>
    refine ⟨keyed.erase other, fun id => ?_⟩
    have erased : (store.respond (.delete other)).2.table.find? id = if id = other then none else store.table.find? id :=
      find?_delete store other id
    rw [StoreEdit.call, erased, StoreEdit.standing_concat, rows]
    by_cases here : id = other
    · subst here
      simp [StoreEdit.settles, StoreEdit.document?]
    · simp [StoreEdit.settles, here, Ne.symm here]
  | upsert document =>
    cases named : Text.allBlank document.id with
    | true =>
      have unchanged : (store.respond (.upsert document)).2 = store := by rw [respond_blank store named]
      refine ⟨by rwa [StoreEdit.call, unchanged], fun id => ?_⟩
      rw [StoreEdit.call, unchanged, StoreEdit.standing_concat, rows]
      simp [StoreEdit.settles, named]
    | false =>
      obtain ⟨after, done⟩ := upsert_iff.mpr ⟨named, keyed.hasKey⟩
      have became : (store.respond (.upsert document)).2 = after := by simp only [respond, done]
      refine ⟨by rw [StoreEdit.call, became]; exact keyed_upsert keyed done, fun id => ?_⟩
      rw [StoreEdit.call, became, find?_upsert done, StoreEdit.standing_concat, rows]
      by_cases here : id = document.id
      · simp [StoreEdit.settles, StoreEdit.document?, named, here]
      · simp [StoreEdit.settles, here, Ne.symm here]

theorem reflects_edited (reflects : store.Reflects earlier) (edits : List StoreEdit) :
    (store.edited edits).Reflects (earlier ++ edits) := by
  induction edits generalizing store earlier with
  | nil => rwa [List.append_nil]
  | cons edit more ih =>
    have onward := ih (reflects_edit reflects edit)
    rwa [List.append_assoc, List.singleton_append] at onward

/-- A row is that of a document that stands under its id, and is read as this document. -/
theorem Reflects.reads (reflects : store.Reflects edits) {row : Row} (found : store.table.find? id = some row) :
    ∃ document, StoreEdit.standing id edits = some document ∧ row = .ofDocument document ∧
      row.toDocument = .ok document := by
  rw [reflects.rows id] at found
  obtain ⟨document, stands, rfl⟩ := Option.map_eq_some_iff.mp found
  obtain ⟨-, named⟩ := StoreEdit.named_of_standing stands
  have valid : document.validate = .ok () := by simp only [Document.validate, named, Bool.false_eq_true, ↓reduceIte]
  exact ⟨document, stands, rfl, Row.toDocument_ofDocument valid⟩

theorem Reflects.readable (reflects : store.Reflects edits) {row : Row} (member : row ∈ store.table.toList) :
    ∃ document, row.toDocument = .ok document := by
  obtain ⟨document, -, -, read⟩ := reflects.reads (reflects.keyed.mem_toList.mp member)
  exact ⟨document, read⟩

theorem Reflects.remembers (reflects : store.Reflects edits) : store.Remembers edits where
  get id := by
    unfold Store.get
    cases found : store.table.find? id with
    | none =>
      rw [reflects.rows id, Option.map_eq_none_iff] at found
      rw [found]
    | some row =>
      obtain ⟨document, stands, -, read⟩ := reflects.reads found
      simp only [read, stands]
      rfl
  allIds id := by rw [mem_allIds reflects.keyed, reflects.rows id, Option.isSome_map]
  staleIds cutoff id := by
    rw [mem_staleIds reflects.keyed]
    simp only [reflects.rows id, Option.map_eq_some_iff]
    constructor
    · rintro ⟨_, ⟨document, stands, rfl⟩, stale⟩
      exact ⟨document, stands, (isStale_iff cutoff _).mp stale⟩
    · rintro ⟨document, stands, stale⟩
      exact ⟨_, ⟨document, stands, rfl⟩, (isStale_iff cutoff (.ofDocument document)).mpr stale⟩
  delete id := by
    have held : (store.respond (.delete id)).1 = .ok (store.table.find? id).isSome := rfl
    rw [held, reflects.rows id, Option.isSome_map]
  upsert document named := by
    obtain ⟨after, done⟩ := upsert_iff.mpr ⟨named, reflects.keyed.hasKey⟩
    simp only [respond, done]
  refused document blank := respond_blank store blank
  others edit id other := by
    have same : (store.respond edit.call).2.table.find? id = store.table.find? id := by
      rw [(reflects_edit reflects edit).rows id, StoreEdit.standing_concat, reflects.rows id,
        StoreEdit.settles_other other, if_neg Bool.false_ne_true]
    unfold Store.get
    rw [same]
  reads call isRead problem failed := by
    have sound : ∀ row ∈ store.table.toList, row.toDocument ≠ .error problem := by
      intro row member fault
      obtain ⟨document, read⟩ := reflects.readable member
      cases fault.symm.trans read
    cases call with
    | upsert document => cases isRead
    | delete id => cases isRead
    | get id =>
      obtain ⟨found, isFound⟩ := get_ok_iff.mpr fun row present => (reflects.reads present).imp fun _ read => read.2.2
      cases isFound.symm.trans failed
    | list options =>
      rcases fault_of_list failed with sqlite | unsortable | ⟨row, member, fault⟩
      · exact .inl sqlite
      · exact .inr unsortable
      · exact absurd fault (sound row member)
    | listPublished =>
      obtain ⟨row, member, fault⟩ := error_of_mapM (show store.listPublished = .error problem from failed)
      have stored := List.filter_sublist.subset ((SortKey.byName.perm_sort _).subset member)
      exact absurd fault (sound row stored)
    | allIds => cases failed
    | staleIds cutoff => cases failed

/-! ### A database that was not there before -/

theorem openedNew_reflects (mode : String) : ∃ store, openedNew mode = .ok store ∧ store.Reflects [] := by
  have nothing (id : String) : (∅ : Dict Row)[id]? = none := Std.ExtTreeMap.getElem?_empty
  exact ⟨_, rfl, ⟨∅, rfl, fun id row found => nomatch (nothing id).symm.trans found⟩, nothing⟩

/-- A store in a new database remembers just what was done to it, through any changes. -/
theorem opened_remembers (mode : String) :
    ∃ store, openedNew mode = .ok store ∧ ∀ edits, (store.edited edits).Remembers edits := by
  obtain ⟨store, opened, reflects⟩ := openedNew_reflects mode
  exact ⟨store, opened, fun edits => (reflects_edited reflects edits).remembers⟩

end Store
end ModelDepot
