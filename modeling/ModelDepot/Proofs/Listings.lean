import Mathlib.Data.List.Forall2
import ModelDepot.Proofs.Contents

/-!
What listings show. They are sorted by a column, and rows that are equal there by their ids. So a listing of
named ids is settled by the rows under each of these ids (`Store.list_eq_of_alike`); one that asks for no
search and no cut holds the document of each id that is asked for once (`Store.mem_list_plain`).
-/
namespace ModelDepot

/-! ### Sorting -/

section
variable {α : Type} {order : α → α → Ordering} [Std.TransCmp order]

theorem isLE_or_isLE (a b : α) : (order a b).isLE || (order b a).isLE := by
  rw [@Std.OrientedCmp.eq_swap _ order _ b a]
  cases order a b <;> rfl

theorem pairwise_sorted (l : List α) :
    (l.mergeSort fun a b => (order a b).isLE).Pairwise fun a b => (order a b).isLE :=
  List.pairwise_mergeSort (fun _ _ _ => Std.TransCmp.isLE_trans) isLE_or_isLE l

/-- Sorting leaves elements that are equal to each other in their order. -/
theorem filter_sorted (l : List α) (a : α) :
    (l.mergeSort fun x y => (order x y).isLE).filter (fun b => (order a b).isEq) =
      l.filter fun b => (order a b).isEq := by
  have tied : (l.filter fun b => (order a b).isEq).Pairwise fun x y => (order x y).isLE := by
    refine List.pairwise_iff_forall_sublist.mpr fun {x y} within => ?_
    have equal : ∀ z ∈ [x, y], order a z = .eq := fun z member => by
      simpa using (List.mem_filter.mp (within.subset member)).2
    have same : order x y = .eq :=
      Std.TransCmp.eq_trans (Std.OrientedCmp.eq_symm (equal x (by simp))) (equal y (by simp))
    rw [same]
    rfl
  have kept : (l.filter fun b => (order a b).isEq).Sublist (l.mergeSort fun x y => (order x y).isLE) :=
    List.sublist_mergeSort (fun _ _ _ => Std.TransCmp.isLE_trans) isLE_or_isLE tied List.filter_sublist
  have within := kept.filter fun b => (order a b).isEq
  rw [List.filter_filter] at within
  simp only [Bool.and_self] at within
  exact (within.eq_of_length (((List.mergeSort_perm _ _).filter _).length_eq).symm).symm

theorem head_isLE {a b : α} {rest : List α} (sorted : (a :: rest).Pairwise fun x y => (order x y).isLE)
    (member : b ∈ a :: rest) : (order a b).isLE := by
  rcases List.mem_cons.mp member with rfl | later
  · rw [@Std.ReflCmp.compare_self _ order]
    rfl
  · exact List.rel_of_pairwise_cons sorted later

/-- Sorted lists are equal if they hold the same elements of every kind, in the same order. -/
theorem eq_of_sorted {l r : List α} (sorted : l.Pairwise fun a b => (order a b).isLE)
    (sortedToo : r.Pairwise fun a b => (order a b).isLE)
    (same : ∀ a, l.filter (fun b => (order a b).isEq) = r.filter fun b => (order a b).isEq) : l = r := by
  induction l generalizing r with
  | nil =>
    cases r with
    | nil => rfl
    | cons b more =>
      have none := same b
      simp [Std.ReflCmp.compare_self] at none
  | cons a rest ih =>
    cases r with
    | nil =>
      have none := same a
      simp [Std.ReflCmp.compare_self] at none
    | cons b more =>
      have present : a ∈ b :: more := by
        have member : a ∈ (a :: rest).filter fun c => (order a c).isEq := by simp [Std.ReflCmp.compare_self]
        rw [same a] at member
        exact (List.mem_filter.mp member).1
      have presentToo : b ∈ a :: rest := by
        have member : b ∈ (b :: more).filter fun c => (order b c).isEq := by simp [Std.ReflCmp.compare_self]
        rw [← same b] at member
        exact (List.mem_filter.mp member).1
      -- Each head is in the other list, so neither comes before the other.
      have tied : order a b = .eq :=
        Std.OrientedCmp.isLE_antisymm (head_isLE sorted presentToo) (head_isLE sortedToo present)
      have heads := same a
      simp only [List.filter_cons, Std.ReflCmp.compare_self, tied] at heads
      obtain ⟨rfl, -⟩ := List.cons.inj heads
      congr 1
      refine ih (List.Pairwise.of_cons sorted) (List.Pairwise.of_cons sortedToo) fun c => ?_
      have tails := same c
      simp only [List.filter_cons] at tails
      split at tails
      · exact (List.cons.inj tails).2
      · exact tails

theorem sorted_eq_of_filters {l r : List α}
    (same : ∀ a, l.filter (fun b => (order a b).isEq) = r.filter fun b => (order a b).isEq) :
    (l.mergeSort fun a b => (order a b).isLE) = r.mergeSort fun a b => (order a b).isLE := by
  refine eq_of_sorted (pairwise_sorted l) (pairwise_sorted r) fun a => ?_
  rw [filter_sorted, filter_sorted, same]

end

/-! ### Readings of several rows -/

theorem mapM_eq_ok_iff {ε α β : Type} {f : α → Except ε β} {l : List α} {r : List β} :
    l.mapM f = .ok r ↔ List.Forall₂ (fun a b => f a = .ok b) l r := by
  induction l generalizing r with
  | nil =>
    rw [List.mapM_nil, List.forall₂_nil_left_iff]
    exact ⟨fun same => (Except.ok.inj same).symm, fun same => congrArg Except.ok same.symm⟩
  | cons a rest ih =>
    rw [List.mapM_cons, List.forall₂_cons_left_iff]
    constructor
    · intro done
      cases first : f a with
      | error problem => rw [first] at done; cases done
      | ok b =>
        cases onward : rest.mapM f with
        | error problem => rw [first, onward] at done; cases done
        | ok more =>
          rw [first, onward] at done
          exact ⟨b, more, rfl, ih.mp onward, (Except.ok.inj done).symm⟩
    · rintro ⟨b, more, first, onward, rfl⟩
      rw [first, ih.mpr onward]
      rfl

theorem mapM_ok_iff {ε α β : Type} {f : α → Except ε β} {l : List α} :
    (∃ r, l.mapM f = .ok r) ↔ ∀ a ∈ l, ∃ b, f a = .ok b := by
  simp only [mapM_eq_ok_iff]
  induction l with
  | nil => simp
  | cons a rest ih =>
    simp only [List.forall₂_cons_left_iff, List.forall_mem_cons, ← ih]
    constructor
    · rintro ⟨_, b, more, first, onward, rfl⟩
      exact ⟨⟨b, first⟩, more, onward⟩
    · rintro ⟨⟨b, first⟩, more, onward⟩
      exact ⟨_, b, more, first, onward, rfl⟩

theorem mem_of_mapM {ε α β : Type} {f : α → Except ε β} {l : List α} {r : List β} (done : l.mapM f = .ok r)
    {b : β} : b ∈ r ↔ ∃ a ∈ l, f a = .ok b := by
  have pairs := mapM_eq_ok_iff.mp done
  clear done
  induction pairs with
  | nil => simp
  | cons first _ ih => simp [ih, first, @eq_comm _ b]

theorem error_of_mapM {ε α β : Type} {f : α → Except ε β} {l : List α} {problem : ε} (failed : l.mapM f = .error problem) :
    ∃ a ∈ l, f a = .error problem := by
  induction l with
  | nil => cases failed
  | cons a rest ih =>
    rw [List.mapM_cons] at failed
    cases first : f a with
    | error other =>
      rw [first] at failed
      obtain rfl := Except.error.inj failed
      exact ⟨a, List.mem_cons_self, first⟩
    | ok b =>
      cases onward : rest.mapM f with
      | error other =>
        rw [first, onward] at failed
        obtain rfl := Except.error.inj failed
        obtain ⟨a, member, fault⟩ := ih onward
        exact ⟨a, List.mem_cons_of_mem _ member, fault⟩
      | ok more =>
        rw [first, onward] at failed
        cases failed

/-! ### The order of rows -/

instance : Std.TransCmp ColumnValue.compare where
  eq_swap {a b} := by
    cases a with
    | text a =>
      cases b with
      | text b => exact @Std.OrientedCmp.eq_swap String compare _ a b
      | number b => rfl
    | number a =>
      cases b with
      | text b => rfl
      | number b => exact @Std.OrientedCmp.eq_swap Int compare _ a b
  isLE_trans {a b c} first second := by
    cases a <;> cases b <;> cases c
    case text.text.text a b c => exact @Std.TransCmp.isLE_trans String compare _ a b c first second
    case number.number.number a b c => exact @Std.TransCmp.isLE_trans Int compare _ a b c first second
    case text.number.text | text.number.number => cases first
    case text.text.number | number.text.number => cases second
    case number.text.text | number.number.text => rfl

namespace SortKey

/-- The order by the column alone. -/
def compareColumn (key : SortKey) (a b : Row) : Ordering :=
  if key.descending then (b.value key.column).compare (a.value key.column)
  else (a.value key.column).compare (b.value key.column)

instance (key : SortKey) : Std.TransCmp key.compareColumn where
  eq_swap {a b} := by
    unfold compareColumn
    split <;> exact Std.OrientedCmp.eq_swap
  isLE_trans {a b c} first second := by
    unfold compareColumn at *
    split at first
    · rw [if_pos ‹_›] at second ⊢
      exact Std.TransCmp.isLE_trans second first
    · rw [if_neg ‹_›] at second ⊢
      exact Std.TransCmp.isLE_trans first second

theorem compareRows_eq (key : SortKey) : key.compareRows = compareLex key.compareColumn (compareOn (·.id)) := by
  funext a b
  unfold compareRows compareLex compareOn compareColumn
  dsimp only
  rw [← @Std.OrientedCmp.eq_swap _ ColumnValue.compare]

instance (key : SortKey) : Std.TransCmp key.compareRows := by
  rw [compareRows_eq]
  infer_instance

theorem id_eq_of_tied {key : SortKey} {a b : Row} (tied : key.compareRows a b = .eq) : a.id = b.id := by
  have ids := (Ordering.then_eq_eq.mp tied).2
  exact Std.compare_eq_iff_eq.mp ids

/-- Only the rows under each id by itself matter for the order of all. -/
theorem sort_eq_of_under (key : SortKey) {rows others : List Row}
    (alike : ∀ id, rows.filter (·.id == id) = others.filter (·.id == id)) : key.sort rows = key.sort others := by
  refine sorted_eq_of_filters fun a => ?_
  have ofId : ∀ rows : List Row, rows.filter (fun b => (key.compareRows a b).isEq) =
      (rows.filter (·.id == a.id)).filter fun b => (key.compareRows a b).isEq := by
    intro rows
    rw [List.filter_filter]
    refine List.filter_congr fun b _ => ?_
    cases tied : (key.compareRows a b).isEq with
    | false => rfl
    | true => simp [id_eq_of_tied (Ordering.isEq_iff_eq_eq.mp tied)]
  rw [ofId rows, ofId others, alike]

theorem perm_sort (key : SortKey) (rows : List Row) : (key.sort rows).Perm rows := List.mergeSort_perm rows _

/-- Rows with different ids are strictly in order. -/
theorem pairwise_sort (key : SortKey) {rows : List Row} (apart : (rows.map (·.id)).Nodup) :
    (key.sort rows).Pairwise fun a b => key.compareRows a b = .lt := by
  have weak : (key.sort rows).Pairwise fun a b => (key.compareRows a b).isLE := pairwise_sorted rows
  have different : (key.sort rows).Pairwise fun a b => a.id ≠ b.id :=
    List.pairwise_map.mp (((key.perm_sort rows).map Row.id).nodup_iff.mpr apart)
  refine (weak.and different).imp fun {a b} holds => ?_
  exact (Ordering.isLE_iff_eq_lt_or_eq_eq.mp holds.1).resolve_right fun tied => holds.2 (id_eq_of_tied tied)

/-- Then their order is settled. -/
theorem eq_of_strict (key : SortKey) {rows others : List Row} (perm : rows.Perm others)
    (strict : rows.Pairwise fun a b => key.compareRows a b = .lt)
    (strictToo : others.Pairwise fun a b => key.compareRows a b = .lt) : rows = others := by
  refine List.Perm.eq_of_pairwise (fun a b _ _ before after => ?_) strict strictToo perm
  exact absurd after (Std.OrientedCmp.not_lt_of_lt before)

end SortKey

/-! ### The parts of a listing -/

/-- The listing is in the order of this key: of the one that is asked for, or by name if none is. -/
def ListOptions.SortsBy (options : ListOptions) (key : SortKey) : Prop :=
  match options.sortBy with
  | some text => SortKey.parse text = .ok key
  | none => key = SortKey.byName

/-- What is no sort key is refused as a fault of the query. -/
theorem SortKey.parse_fault {text : String} {problem : StoreError} (refused : SortKey.parse text = .error problem) :
    ∃ message, problem = .invalidQuery message := by
  unfold SortKey.parse at refused
  dsimp only at refused
  split at refused
  · cases refused
  · exact ⟨_, (Except.error.inj refused).symm⟩

namespace ListOptions
variable {options : ListOptions}

theorem sortable_or_not (options : ListOptions) :
    (∃ key, options.SortsBy key) ∨
      ∃ text, options.sortBy = some text ∧ ∃ message, SortKey.parse text = .error (.invalidQuery message) := by
  unfold SortsBy
  cases asked : options.sortBy with
  | none => exact .inl ⟨_, rfl⟩
  | some text =>
    cases parsed : SortKey.parse text with
    | ok key => exact .inl ⟨key, parsed⟩
    | error problem =>
      obtain ⟨message, rfl⟩ := SortKey.parse_fault parsed
      exact .inr ⟨text, rfl, message, parsed⟩

/-- The database takes the listing. -/
structure Fits (options : ListOptions) : Prop where
  fewValues : options.boundValues ≤ maxBoundValues
  shortPattern : ∀ pattern, options.pattern? = some pattern → pattern.utf8ByteSize ≤ Pattern.maxBytes

theorem cut_sublist {α : Type} {l : List α} : (options.cut l).Sublist l := by
  unfold cut
  dsimp only
  cases options.limit with
  | none => exact List.drop_sublist _ _
  | some limit => exact (List.take_sublist _ _).trans (List.drop_sublist _ _)

theorem cut_forall₂ {α β : Type} {R : α → β → Prop} {l : List α} {r : List β} (pairs : List.Forall₂ R l r) :
    List.Forall₂ R (options.cut l) (options.cut r) := by
  unfold cut
  dsimp only
  cases options.limit with
  | none => exact List.forall₂_drop _ pairs
  | some limit => exact List.forall₂_take _ (List.forall₂_drop _ pairs)

end ListOptions

namespace Store

variable {store : Store} {options : ListOptions}

theorem asksForId_sublist {rows : List Row} : (asksForId options rows).Sublist rows := by
  unfold asksForId
  split
  · exact List.Sublist.refl _
  · exact List.filter_sublist

theorem asksForId_named {ids : List String} (named : options.ids = some ids)
    (rows : List Row) : asksForId options rows = rows.filter (ids.contains ·.id) := by
  simp only [asksForId, named, Std.ExtTreeSet.contains_ofList]

/-- The rows that are asked for, before they are sorted and cut. -/
def found (store : Store) (options : ListOptions) : List Row :=
  (asksForId options store.table.toList).filter (matchesSearch options.pattern?)

/-- A listing in an order that there is none of fails, whatever else is asked for. -/
theorem list_of_unsortable {text : String} {problem : StoreError}
    (asked : options.sortBy = some text) (refused : SortKey.parse text = .error problem) :
    store.list options = .error problem := by
  simp only [list, asked, refused]
  rfl

/-- The key by which the options sort, if there is any. -/
theorem list_of_sortable {key : SortKey} (sorted : options.SortsBy key) :
    store.list options =
      if options.ids = some [] then .ok ⟨[], 0⟩
      else if maxBoundValues < options.boundValues then .error (.database .sqlite)
      else if !(asksForId options store.table.toList).isEmpty &&
          options.pattern?.any (fun pattern => Pattern.maxBytes < pattern.utf8ByteSize) then .error (.database .sqlite)
      else do
        let items ← (options.cut (key.sort (store.found options))).mapM Row.toDocument
        return ⟨items, (store.found options).length⟩ := by
  unfold ListOptions.SortsBy at sorted
  cases asked : options.sortBy with
  | none =>
    simp only [asked] at sorted
    subst sorted
    simp only [list, asked, pure_bind]
    repeat' split
    all_goals rfl
  | some text =>
    simp only [asked] at sorted
    have parsed : SortKey.parse text = pure key := sorted
    simp only [list, asked, parsed, pure_bind]
    repeat' split
    all_goals rfl

/-- A listing fails at its options, or at a row. -/
theorem fault_of_list {problem : StoreError} (failed : store.list options = .error problem) :
    problem = .database .sqlite ∨ (∃ text, problem = .invalidQuery text) ∨
      ∃ row ∈ store.table.toList, row.toDocument = .error problem := by
  rcases options.sortable_or_not with ⟨key, sorted⟩ | ⟨text, asked, refused⟩
  · rw [list_of_sortable sorted] at failed
    split at failed
    · cases failed
    split at failed
    · exact .inl (Except.error.inj failed).symm
    split at failed
    · exact .inl (Except.error.inj failed).symm
    refine .inr (.inr ?_)
    cases read : (options.cut (key.sort (store.found options))).mapM Row.toDocument with
    | ok items => rw [read] at failed; cases failed
    | error other =>
      rw [read] at failed
      obtain rfl := Except.error.inj failed
      obtain ⟨row, member, fault⟩ := error_of_mapM read
      refine ⟨row, ?_, fault⟩
      have isFound := (key.perm_sort _).subset (ListOptions.cut_sublist.subset member)
      exact asksForId_sublist.subset (List.filter_sublist.subset isFound)
  · obtain ⟨message, refused⟩ := refused
    exact .inr (.inl ⟨message, Except.error.inj (failed.symm.trans (list_of_unsortable asked refused))⟩)

/-- What is listed are readings of a cut of the rows that are asked for. -/
theorem read_of_list {key : SortKey} {page : DocumentPage} (sorted : options.SortsBy key)
    (given : store.list options = .ok page) :
    (options.cut (key.sort (store.found options))).mapM Row.toDocument = .ok page.items := by
  rw [list_of_sortable sorted] at given
  split at given
  · rename_i empty
    have none : store.found options = [] := by simp [found, asksForId_named empty]
    have nothing : options.cut ([] : List Row) = [] := List.sublist_nil.mp ListOptions.cut_sublist
    obtain rfl := Except.ok.inj given
    rw [none, SortKey.sort, List.mergeSort_nil, nothing]
    rfl
  split at given
  · cases given
  split at given
  · cases given
  cases read : (options.cut (key.sort (store.found options))).mapM Row.toDocument with
  | error problem => rw [read] at given; cases given
  | ok items =>
    rw [read] at given
    obtain rfl := Except.ok.inj given
    rfl

/-- A listing that the database takes is a cut of the documents that its rows are read as, in order. -/
theorem list_of_read {key : SortKey} {documents : List Document} (sorted : options.SortsBy key) (fits : options.Fits)
    (read : List.Forall₂ (fun row document => row.toDocument = .ok document) (key.sort (store.found options)) documents) :
    store.list options = .ok ⟨options.cut documents, documents.length⟩ := by
  have counted : (store.found options).length = documents.length :=
    ((key.perm_sort _).length_eq).symm.trans read.length_eq
  have cut : (options.cut (key.sort (store.found options))).mapM Row.toDocument = .ok (options.cut documents) :=
    mapM_eq_ok_iff.mpr (ListOptions.cut_forall₂ read)
  have short : options.pattern?.any (fun pattern => Pattern.maxBytes < pattern.utf8ByteSize) = false := by
    cases asked : options.pattern? with
    | none => rfl
    | some pattern => exact decide_eq_false (Nat.not_lt_of_le (fits.shortPattern pattern asked))
  rw [list_of_sortable sorted, if_neg (Nat.not_lt_of_le fits.fewValues), short, Bool.and_false, if_neg Bool.false_ne_true,
    cut, counted]
  split
  · rename_i empty
    have none : store.found options = [] := by simp [found, asksForId_named empty]
    rw [none, SortKey.sort, List.mergeSort_nil, List.forall₂_nil_left_iff] at read
    have nothing : options.cut ([] : List Document) = [] := List.sublist_nil.mp ListOptions.cut_sublist
    rw [read, nothing]
    rfl
  · rfl

end Store

/-! ### Listings of named ids, and of all -/

/-- The rows under an id; a table without a key may hold several. -/
def Table.under (table : Table) (id : String) : List Row := table.toList.filter (·.id == id)

theorem Table.Distinct.under_eq {table : Table} (distinct : table.Distinct) (id : String) :
    table.under id = (table.find? id).toList := by
  have once : (table.under id).Nodup := (distinct.nodup_ids.of_map _).filter _
  have mem_under : ∀ row, row ∈ table.under id ↔ table.find? id = some row := by
    intro row
    unfold under
    rw [List.mem_filter, distinct.mem_toList, beq_iff_eq]
    constructor
    · rintro ⟨found, rfl⟩
      exact found
    · intro found
      obtain rfl := distinct.id_eq found
      exact ⟨found, rfl⟩
  cases found : table.find? id with
  | none =>
    refine List.eq_nil_iff_forall_not_mem.mpr fun row member => ?_
    cases found.symm.trans ((mem_under row).mp member)
  | some row =>
    refine List.perm_singleton.mp ((List.perm_ext_iff_of_nodup once (List.nodup_singleton row)).mpr fun other => ?_)
    rw [mem_under, found, Option.some.injEq, List.mem_singleton, eq_comm]

/-- A look-up finds the first one. -/
theorem Table.Coherent.find?_eq {table : Table} (coherent : table.Coherent) (id : String) :
    table.find? id = (table.under id).head? := by
  cases isRows : table.rows with
  | keyed rows =>
    rw [(coherent.distinct isRows).under_eq]
    cases table.find? id <;> rfl
  | loose rows =>
    unfold find? under toList
    rw [isRows]
    exact List.head?_filter.symm

/-- The options ask for all documents, in an order that there is, be it of some ids or of any. -/
structure ListOptions.Plain (options : ListOptions) : Prop where
  unsearched : options.pattern? = none
  unlimited : options.limit = none
  fromStart : options.offset = 0
  sortable : ∀ text, options.sortBy = some text → ∃ key, SortKey.parse text = .ok key

/-- The options ask for all documents of some ids, in an order that there is. -/
structure ListOptions.Whole (options : ListOptions) (ids : List String) : Prop where
  named : options.ids = some ids
  unsearched : options.pattern? = none
  unlimited : options.limit = none
  fromStart : options.offset = 0
  sortable : ∀ text, options.sortBy = some text → ∃ key, SortKey.parse text = .ok key

theorem ListOptions.Whole.plain {options : ListOptions} {ids : List String} (whole : options.Whole ids) : options.Plain :=
  ⟨whole.unsearched, whole.unlimited, whole.fromStart, whole.sortable⟩

/-- Documents with the id are asked for. -/
def ListOptions.Asks (options : ListOptions) (id : String) : Prop := ∀ ids, options.ids = some ids → id ∈ ids

theorem ListOptions.asks_named {options : ListOptions} {ids : List String} (named : options.ids = some ids) (id : String) :
    options.Asks id ↔ id ∈ ids := by
  constructor
  · exact fun asks => asks ids named
  · rintro member others same
    obtain rfl := Option.some.inj (named.symm.trans same)
    exact member

namespace Store

/-- The rows under the named ids settle what is listed. -/
theorem list_eq_of_alike {store other : Store} {options : ListOptions} {ids : List String}
    (named : options.ids = some ids) (alike : ∀ id ∈ ids, store.table.under id = other.table.under id) :
    store.list options = other.list options := by
  have candidates : ∀ id, (asksForId options store.table.toList).filter (·.id == id) =
      (asksForId options other.table.toList).filter (·.id == id) := by
    intro id
    have ofId : ∀ rows : List Row, (asksForId options rows).filter (·.id == id) =
        if id ∈ ids then rows.filter (·.id == id) else [] := by
      intro rows
      rw [asksForId_named named, List.filter_filter]
      split
      · rename_i asked
        refine List.filter_congr fun row _ => ?_
        by_cases here : row.id = id
        · simp [here, asked]
        · simp [here]
      · rename_i unasked
        refine List.filter_eq_nil_iff.mpr fun row _ both => ?_
        simp only [Bool.and_eq_true, beq_iff_eq, List.contains_iff_mem] at both
        exact unasked (both.1 ▸ both.2)
    rw [ofId, ofId]
    split
    · exact alike id ‹_›
    · rfl
  have found : ∀ (p : Row → Bool) (id : String),
      ((asksForId options store.table.toList).filter p).filter (·.id == id) =
        ((asksForId options other.table.toList).filter p).filter (·.id == id) := by
    intro p id
    rw [List.filter_comm, candidates, List.filter_comm]
  have sorted : ∀ (key : SortKey) (p : Row → Bool), key.sort ((asksForId options store.table.toList).filter p) =
      key.sort ((asksForId options other.table.toList).filter p) :=
    fun key p => key.sort_eq_of_under (found p)
  have counted : ∀ p : Row → Bool, ((asksForId options store.table.toList).filter p).length =
      ((asksForId options other.table.toList).filter p).length := by
    intro p
    rw [← (SortKey.byName.perm_sort _).length_eq, sorted, (SortKey.byName.perm_sort _).length_eq]
  have none : (asksForId options store.table.toList).isEmpty = (asksForId options other.table.toList).isEmpty := by
    have all := counted fun _ => true
    simp only [List.filter_true] at all
    rw [Bool.eq_iff_iff, List.isEmpty_iff_length_eq_zero, List.isEmpty_iff_length_eq_zero, all]
  simp only [list, sorted, counted, none]

variable {store : Store} {options : ListOptions} {ids : List String}

theorem mem_asksForId (distinct : store.table.Distinct) {row : Row} :
    row ∈ asksForId options store.table.toList ↔ options.Asks row.id ∧ store.table.find? row.id = some row := by
  cases named : options.ids with
  | none =>
    have any : options.Asks row.id := fun ids same => nomatch named.symm.trans same
    simp only [asksForId, named, distinct.mem_toList, any, true_and]
  | some ids =>
    rw [asksForId_named named, List.mem_filter, distinct.mem_toList, List.contains_iff_mem, ListOptions.asks_named named,
      and_comm]

/-- Such a listing sorts the rows that are asked for and reads each of them. -/
theorem list_plain (plain : options.Plain) (store : Store) :
    ∃ key : SortKey, store.list options =
      if maxBoundValues < (options.ids.getD []).length then .error (.database .sqlite)
      else do
        let items ← (key.sort (asksForId options store.table.toList)).mapM Row.toDocument
        return ⟨items, (asksForId options store.table.toList).length⟩ := by
  obtain ⟨unsearched, unlimited, fromStart, sortable⟩ := plain
  have bound : options.boundValues = (options.ids.getD []).length := by
    cases named : options.ids <;> simp [ListOptions.boundValues, named, unsearched, unlimited, fromStart]
  have uncut : ∀ rows : List Row, options.cut rows = rows := fun rows => by
    simp [ListOptions.cut, unlimited, fromStart]
  have all : store.found options = asksForId options store.table.toList := by
    rw [found, unsearched]
    exact List.filter_eq_self.mpr fun _ _ => rfl
  obtain ⟨key, sorted⟩ : ∃ key, options.SortsBy key := by
    rcases options.sortable_or_not with sorted | ⟨text, asked, message, refused⟩
    · exact sorted
    · obtain ⟨key, parsed⟩ := sortable text asked
      cases refused.symm.trans parsed
  refine ⟨key, ?_⟩
  rw [list_of_sortable sorted, all, uncut, bound, unsearched, Option.any_none, Bool.and_false, if_neg Bool.false_ne_true]
  split
  · rename_i empty
    have none : asksForId options store.table.toList = [] := by simp [asksForId_named empty]
    rw [none, empty, if_neg (by decide), SortKey.sort, List.mergeSort_nil]
    rfl
  · rfl

theorem get_eq_ok_some {id : String} {document : Document} :
    store.get id = .ok (some document) ↔
      ∃ row, store.table.find? id = some row ∧ row.toDocument = .ok document := by
  constructor
  · exact row_of_get
  · rintro ⟨row, found, read⟩
    unfold get
    rw [found]
    simp only [read]
    rfl

theorem get_ok_iff {id : String} :
    (∃ found, store.get id = .ok found) ↔
      ∀ row, store.table.find? id = some row → ∃ document, row.toDocument = .ok document := by
  unfold get
  cases store.table.find? id with
  | none => exact ⟨nofun, fun _ => ⟨none, rfl⟩⟩
  | some row =>
    cases read : row.toDocument with
    | ok document =>
      refine ⟨?_, fun _ => ⟨some document, by simp only [read]; rfl⟩⟩
      rintro - other same
      obtain rfl := Option.some.inj same
      exact ⟨document, read⟩
    | error problem =>
      simp only [read]
      constructor
      · rintro ⟨found, got⟩
        cases got
      · intro reads
        obtain ⟨document, other⟩ := reads row rfl
        cases read.symm.trans other

/-- It fails only if there are too many ids or if the row of one of them cannot be read. -/
theorem list_plain_ok_iff (distinct : store.table.Distinct) (plain : options.Plain) :
    (∃ page, store.list options = .ok page) ↔
      (options.ids.getD []).length ≤ maxBoundValues ∧ ∀ id, options.Asks id → ∃ found, store.get id = .ok found := by
  obtain ⟨key, listed⟩ := list_plain plain store
  have readable : (∀ id, options.Asks id → ∃ found, store.get id = .ok found) ↔
      ∃ items, (key.sort (asksForId options store.table.toList)).mapM Row.toDocument = .ok items := by
    simp only [mapM_ok_iff, (key.perm_sort _).mem_iff, mem_asksForId distinct, get_ok_iff]
    constructor
    · exact fun reads row present => reads row.id present.1 row present.2
    · intro reads id asked row found
      have own := distinct.id_eq found
      exact reads row ⟨own ▸ asked, own ▸ found⟩
  rw [listed, readable]
  split
  · rename_i many
    constructor
    · rintro ⟨page, listed⟩
      cases listed
    · exact fun readable => absurd readable.1 (Nat.not_le_of_lt many)
  · rename_i few
    constructor
    · rintro ⟨page, listed⟩
      refine ⟨Nat.le_of_not_lt few, ?_⟩
      cases read : (key.sort (asksForId options store.table.toList)).mapM Row.toDocument with
      | ok items => exact ⟨items, rfl⟩
      | error problem => rw [read] at listed; cases listed
    · rintro ⟨-, items, read⟩
      rw [read]
      exact ⟨_, rfl⟩

/-- It holds the document of each id once, and tells how many there are. -/
theorem mem_list_plain (distinct : store.table.Distinct) (plain : options.Plain) {page : DocumentPage}
    (given : store.list options = .ok page) :
    (page.items.map (·.id)).Nodup ∧
      (∀ document, document ∈ page.items ↔ options.Asks document.id ∧ store.get document.id = .ok (some document)) ∧
      page.total = page.items.length := by
  obtain ⟨key, listed⟩ := list_plain plain store
  rw [listed] at given
  split at given
  · cases given
  cases read : (key.sort (asksForId options store.table.toList)).mapM Row.toDocument with
  | error problem => rw [read] at given; cases given
  | ok items =>
    rw [read] at given
    obtain rfl := Except.ok.inj given
    have pairs := mapM_eq_ok_iff.mp read
    have ids_eq : (key.sort (asksForId options store.table.toList)).map (·.id) = items.map (·.id) := by
      rw [← List.forall₂_eq_eq_eq, List.forall₂_map_left_iff, List.forall₂_map_right_iff]
      exact pairs.imp fun row document isRow => (Row.content_of_toDocument isRow).1.symm
    have part : (asksForId options store.table.toList).Sublist store.table.toList := by
      cases named : options.ids with
      | none => simp only [asksForId, named, List.Sublist.refl]
      | some ids =>
        rw [asksForId_named named]
        exact List.filter_sublist
    refine ⟨?_, fun document => ?_, ?_⟩
    · rw [← ids_eq, ((key.perm_sort _).map _).nodup_iff]
      exact distinct.nodup_ids.sublist (part.map _)
    · rw [mem_of_mapM read]
      simp only [(key.perm_sort _).mem_iff, mem_asksForId distinct, get_eq_ok_some]
      constructor
      · rintro ⟨row, ⟨asked, found⟩, isRow⟩
        have own := (Row.content_of_toDocument isRow).1
        exact ⟨own ▸ asked, row, own ▸ found, isRow⟩
      · rintro ⟨asked, row, found, isRow⟩
        have own := (Row.content_of_toDocument isRow).1
        exact ⟨row, ⟨own ▸ asked, own ▸ found⟩, isRow⟩
    · rw [← (key.perm_sort _).length_eq]
      exact pairs.length_eq

theorem list_whole_ok_iff (distinct : store.table.Distinct) (whole : options.Whole ids) :
    (∃ page, store.list options = .ok page) ↔
      ids.length ≤ maxBoundValues ∧ ∀ id ∈ ids, ∃ found, store.get id = .ok found := by
  simp only [list_plain_ok_iff distinct whole.plain, ListOptions.asks_named whole.named, whole.named, Option.getD_some]

theorem mem_list_whole (distinct : store.table.Distinct) (whole : options.Whole ids) {page : DocumentPage}
    (given : store.list options = .ok page) :
    (page.items.map (·.id)).Nodup ∧
      ∀ document, document ∈ page.items ↔ document.id ∈ ids ∧ store.get document.id = .ok (some document) := by
  obtain ⟨once, mem_items, -⟩ := mem_list_plain distinct whole.plain given
  exact ⟨once, fun document => by rw [mem_items, ListOptions.asks_named whole.named]⟩

theorem mem_ids_list_whole (distinct : store.table.Distinct) (whole : options.Whole ids) {page : DocumentPage}
    (given : store.list options = .ok page) {id : String} :
    id ∈ page.items.map (·.id) ↔ id ∈ ids ∧ ∃ document, store.get id = .ok (some document) := by
  have mem_items := (mem_list_whole distinct whole given).2
  rw [List.mem_map]
  constructor
  · rintro ⟨document, member, rfl⟩
    obtain ⟨asked, got⟩ := (mem_items document).mp member
    exact ⟨asked, document, got⟩
  · rintro ⟨asked, document, got⟩
    obtain ⟨row, found, isRow⟩ := row_of_get got
    obtain rfl : document.id = id := (Row.content_of_toDocument isRow).1.trans (distinct.id_eq found)
    exact ⟨document, (mem_items document).mpr ⟨asked, got⟩, rfl⟩

end Store
end ModelDepot
