import ModelDepot.Proofs.ListingOptions
import ModelDepot.Proofs.StoreHistory

/-!
What a listing shows of a store that was opened and changed: the documents that are asked for and pass the search, each
once, in the order that is asked for with ties by id, and of these the part that is asked for. So the pages of any size
add up to the whole listing. Main statement: `listings_sorted`.
-/
namespace ModelDepot

namespace ListOptions
variable {options : ListOptions}

/-- The listing without a cut. -/
def whole (options : ListOptions) : ListOptions := { options with limit := none, offset := 0 }

/-- One page of the listing. -/
def page (options : ListOptions) (limit number : Nat) : ListOptions :=
  { options with limit := some limit, offset := number * limit }

end ListOptions

namespace Store
variable {store : Store}

/-- These are the documents that stand after some changes, are asked for and pass the search, in order. -/
structure Finds (edits : List StoreEdit) (options : ListOptions) (sorting : Sorting) (found : List Document) :
    Prop where
  members (document : Document) : document ∈ found ↔
    StoreEdit.standing document.id edits = some document ∧ options.Asks document.id ∧ options.Passes document
  sorted : found.Pairwise sorting.Before

/-- What the listings of a store tell that has gone through some changes. -/
structure ListsInOrder (edits : List StoreEdit) (store : Store) : Prop where
  /-- A listing is a cut of what is found, and tells how much that is; the pages of any size add up to all of it. -/
  listed (options : ListOptions) (sorting : Sorting) (asked : Sorting.Asked options.sortBy sorting) :
    ∃ found, Finds edits options sorting found ∧
      (options.Bounded → ∃ items, store.list options = .ok ⟨items, found.length⟩ ∧ options.Cuts found items) ∧
      ∀ limit, 0 < limit → (options.page limit 1).Bounded →
        store.list options.whole = .ok ⟨found, found.length⟩ ∧
        ∀ count, found.length ≤ count * limit →
          ∃ pages, (List.range count).mapM (fun number => store.list (options.page limit number)) = .ok pages ∧
            pages.flatMap (·.items) = found
  unsortable (options : ListOptions) (text : String) (said : options.sortBy = some text)
    (unknown : ∀ sorting, ¬ Sorting.Asked (some text) sorting) :
    ∃ message, store.list options = .error (.invalidQuery message)
  published : ∃ found, store.listPublished = .ok found ∧
    (∀ document, document ∈ found ↔ StoreEdit.standing document.id edits = some document ∧ document.publish) ∧
    found.Pairwise (Sorting.Before ⟨Document.byText (·.name), false⟩)

/-! ### What is found -/

variable {edits : List StoreEdit} {options : ListOptions} {key : SortKey} {rows : List Row}

/-- Rows of the store are those of documents, which they are read as. -/
theorem Reflects.readAll (reflects : store.Reflects edits) (stored : rows ⊆ store.table.toList) :
    ∃ documents, rows = documents.map Row.ofDocument ∧
      List.Forall₂ (fun row document => row.toDocument = .ok document) rows documents := by
  induction rows with
  | nil => exact ⟨[], rfl, .nil⟩
  | cons row more ih =>
    obtain ⟨isStored, storedToo⟩ := List.cons_subset.mp stored
    obtain ⟨document, -, rfl, read⟩ := reflects.reads (reflects.keyed.mem_toList.mp isStored)
    obtain ⟨documents, rfl, readToo⟩ := ih storedToo
    exact ⟨document :: documents, rfl, .cons read readToo⟩

/-- A stored row is read as a document exactly if it is the row of that document, which stands under its id. -/
theorem Reflects.read_iff (reflects : store.Reflects edits) {row : Row} {document : Document} :
    store.table.find? row.id = some row ∧ row.toDocument = .ok document ↔
      row = .ofDocument document ∧ StoreEdit.standing document.id edits = some document := by
  constructor
  · rintro ⟨stored, isRow⟩
    obtain ⟨other, stands, rfl, read⟩ := reflects.reads stored
    obtain rfl := Except.ok.inj (read.symm.trans isRow)
    exact ⟨rfl, stands⟩
  · rintro ⟨rfl, stands⟩
    have stored : store.table.find? document.id = some (.ofDocument document) := by rw [reflects.rows, stands]; rfl
    obtain ⟨other, standsToo, -, read⟩ := reflects.reads stored
    obtain rfl := Option.some.inj (stands.symm.trans standsToo)
    exact ⟨stored, read⟩

/-- Rows that are chosen by their contents show the documents with these contents, in order. -/
theorem Reflects.sorts (reflects : store.Reflects edits) (within : rows.Sublist store.table.toList)
    {chosen : Row → Prop} (choice : ∀ row, row ∈ rows ↔ store.table.find? row.id = some row ∧ chosen row)
    (key : SortKey) :
    ∃ found,
      (∀ document, document ∈ found ↔
        StoreEdit.standing document.id edits = some document ∧ chosen (.ofDocument document)) ∧
      found.Pairwise key.sorting.Before ∧
      List.Forall₂ (fun row document => row.toDocument = .ok document) (key.sort rows) found := by
  have stored : key.sort rows ⊆ store.table.toList :=
    fun row member => within.subset ((key.perm_sort rows).subset member)
  obtain ⟨found, sorted, read⟩ := reflects.readAll stored
  have strict := key.pairwise_sort (reflects.keyed.distinct.nodup_ids.sublist (within.map Row.id))
  rw [sorted, List.pairwise_map] at strict
  refine ⟨found, fun document => ?_, strict.imp SortKey.compareRows_eq_lt.mp, read⟩
  rw [mem_of_mapM (mapM_eq_ok_iff.mpr read)]
  simp only [(key.perm_sort rows).mem_iff, choice]
  constructor
  · rintro ⟨row, ⟨isStored, isChosen⟩, isRow⟩
    obtain ⟨rfl, stands⟩ := reflects.read_iff.mp ⟨isStored, isRow⟩
    exact ⟨stands, isChosen⟩
  · rintro ⟨stands, isChosen⟩
    obtain ⟨isStored, isRow⟩ := reflects.read_iff.mpr ⟨rfl, stands⟩
    exact ⟨_, ⟨isStored, isChosen⟩, isRow⟩

theorem Reflects.finds (reflects : store.Reflects edits) (options : ListOptions) (key : SortKey) :
    ∃ found, Finds edits options key.sorting found ∧
      List.Forall₂ (fun row document => row.toDocument = .ok document) (key.sort (store.found options)) found := by
  have choice (row : Row) : row ∈ store.found options ↔
      store.table.find? row.id = some row ∧ options.Asks row.id ∧ matchesSearch options.pattern? row := by
    rw [found, List.mem_filter, mem_asksForId reflects.keyed.distinct, and_right_comm, and_comm]
  obtain ⟨documents, members, sorted, read⟩ :=
    reflects.sorts (List.filter_sublist.trans asksForId_sublist) choice key
  refine ⟨documents, ⟨fun document => (members document).trans ?_, sorted⟩, read⟩
  rw [ListOptions.matchesSearch_iff]
  rfl

/-- The published documents are those whose rows bear the mark. -/
theorem Reflects.finds_published (reflects : store.Reflects edits) :
    ∃ found, store.listPublished = .ok found ∧
      (∀ document, document ∈ found ↔ StoreEdit.standing document.id edits = some document ∧ document.publish) ∧
      found.Pairwise SortKey.byName.sorting.Before := by
  have choice (row : Row) : row ∈ store.table.toList.filter (·.publish = 1) ↔
      store.table.find? row.id = some row ∧ row.publish = 1 := by
    rw [List.mem_filter, reflects.keyed.mem_toList, decide_eq_true_eq]
  obtain ⟨documents, members, sorted, read⟩ := reflects.sorts List.filter_sublist choice SortKey.byName
  refine ⟨documents, mapM_eq_ok_iff.mpr read, fun document => (members document).trans ?_, sorted⟩
  have marked : (Row.ofDocument document).publish = 1 ↔ document.publish := by
    cases published : document.publish <;> simp [Row.ofDocument, published]
  rw [marked]

/-! ### Pages -/

/-- The first pages add up to the beginning of what is found. -/
theorem flatMap_pages {α : Type} (found : List α) (options : ListOptions) (limit pages : Nat) :
    (List.range pages).flatMap (fun number => (options.page limit number).cut found) = found.take (pages * limit) :=
  flatMap_cuts found limit pages

@[simp] theorem boundValues_page (limit number : Nat) :
    (options.page limit number).boundValues = options.whole.boundValues + 1 + if 0 < number * limit then 1 else 0 := rfl

/-- No page binds more values than the second one. -/
theorem fits_of_page {limit : Nat} (some : 0 < limit) (fits : (options.page limit 1).Fits) :
    options.whole.Fits ∧ ∀ number, (options.page limit number).Fits := by
  obtain ⟨few, short⟩ := fits
  rw [boundValues_page, Nat.one_mul, if_pos some] at few
  refine ⟨⟨by omega, short⟩, fun number => ⟨?_, short⟩⟩
  rw [boundValues_page]
  split <;> omega

theorem Reflects.listsInOrder (reflects : store.Reflects edits) : ListsInOrder edits store where
  listed options sorting asked := by
    obtain ⟨key, sorts, rfl⟩ := ListOptions.asked_iff_sortsBy.mp asked
    obtain ⟨found, finds, read⟩ := reflects.finds options key
    refine ⟨found, finds, fun bounded => ⟨_, list_of_read sorts bounded.fits read, options.cuts_cut found⟩,
      fun limit some bounded => ?_⟩
    obtain ⟨fitsWhole, fitsPage⟩ := fits_of_page some bounded.fits
    have sortsWhole : options.whole.SortsBy key := sorts
    refine ⟨list_of_read sortsWhole fitsWhole read, fun count enough => ?_⟩
    have sortsPage (number : Nat) : (options.page limit number).SortsBy key := sorts
    have pages (number : Nat) : store.list (options.page limit number) =
        .ok ⟨(options.page limit number).cut found, found.length⟩ :=
      list_of_read (sortsPage number) (fitsPage number) read
    refine ⟨(List.range count).map fun number => ⟨(options.page limit number).cut found, found.length⟩, ?_, ?_⟩
    · refine mapM_eq_ok_iff.mpr ?_
      rw [List.forall₂_map_right_iff, List.forall₂_same]
      exact fun number _ => pages number
    · rw [List.flatMap_map, flatMap_pages, List.take_of_length_le enough]
  unsortable options text said unknown := by
    cases parsed : SortKey.parse text with
    | ok key =>
      have sorts : options.SortsBy key := by rw [ListOptions.SortsBy, said]; exact parsed
      have asked := ListOptions.asked_iff_sortsBy.mpr ⟨key, sorts, rfl⟩
      exact absurd (said ▸ asked) (unknown key.sorting)
    | error problem =>
      obtain ⟨message, rfl⟩ := SortKey.parse_fault parsed
      exact ⟨message, list_of_unsortable said parsed⟩
  published := reflects.finds_published

/-- Whatever was done to a store since it was opened, its listings are those of the documents that stand now. -/
theorem listings_sorted {mode : String} {fresh : Store} (opened : openedNew mode = .ok fresh) (edits : List StoreEdit) :
    ListsInOrder edits (fresh.edited edits) := by
  obtain ⟨store, openedToo, reflects⟩ := openedNew_reflects mode
  obtain rfl := Except.ok.inj (opened.symm.trans openedToo)
  exact (reflects_edited reflects edits).listsInOrder

def plan : Document := { id := "b", name := "Plan" }
def plans : Document := { id := "a", name := "plans", publish := true }
def note : Document := { id := "d", name := "Note", description := "no plan", publish := true }

/-- Two documents of one name, of which one was deleted; one that was replaced, and two others. -/
def reworked : List StoreEdit :=
  [.upsert plan, .upsert { id := "c", name := "Plan" }, .upsert { id := "a", name := "Old" }, .upsert note, .delete "c",
    .upsert plans, .upsert { id := "e", name := "Other" }]

/-- Published documents first, without the first one and no more than two. -/
def publishedFirst : ListOptions :=
  { limit := some 2, offset := 1, sortBy := some "\tpublish.desc ", search := some " PLAN " }

theorem listings_sorted_reworked :
    ∃ fresh, openedNew "memory" = .ok fresh ∧ ListsInOrder reworked (fresh.edited reworked) ∧
      Sorting.Asked publishedFirst.sortBy
        ⟨Document.byNumber fun document => if document.publish then 1 else 0, true⟩ ∧
      (fresh.edited reworked).list publishedFirst = .ok ⟨[note, plan], 3⟩ := by
  obtain ⟨fresh, opened, rows⟩ : ∃ fresh, openedNew "memory" = .ok fresh ∧
      (fresh.edited reworked).found publishedFirst = [plans, plan, note].map .ofDocument := ⟨_, rfl, by decide +kernel⟩
  have framed : Text.Framed "\tpublish.desc ".toList ("publish".toList ++ ".desc".toList) :=
    Text.trimChars_eq_iff.mp (by decide)
  have sorts : publishedFirst.SortsBy ⟨.publish, true⟩ := rfl
  have fits : publishedFirst.Fits := ⟨by decide, fun pattern asked => Option.some.inj asked ▸ by decide⟩
  have order : SortKey.sort ⟨.publish, true⟩ ((fresh.edited reworked).found publishedFirst) =
      [plans, note, plan].map .ofDocument := by
    rw [rows]
    refine SortKey.eq_of_strict _ ((SortKey.perm_sort _ _).trans ?_) (SortKey.pairwise_sort _ ?_) ?_ <;> decide +kernel
  have read : List.Forall₂ (fun (row : Row) document => row.toDocument = .ok document)
      ([plans, note, plan].map Row.ofDocument) [plans, note, plan] := mapM_eq_ok_iff.mp rfl
  refine ⟨fresh, opened, listings_sorted opened reworked, .said ?_ ?_ framed, ?_⟩
  · exact mem_orders.mpr ⟨.publish, rfl, rfl⟩
  · decide
  · exact list_of_read sorts fits (order.symm ▸ read)

end Store
end ModelDepot
