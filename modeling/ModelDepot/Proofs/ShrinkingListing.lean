import ModelDepot.Proofs.BackfillRun

/-!
What a removal does to the listing by name: nothing but that the documents behind the removed one move up. So a
document that is on the first page stays there (`shown_of_ahead`, `ahead_delete_le`).
-/
namespace ModelDepot

theorem Table.Distinct.perm_erase {table : Table} (distinct : table.Distinct) (id : String) :
    (table.erase id).toList.Perm (table.toList.filter (·.id != id)) := by
  have once : (table.erase id).toList.Nodup := (distinct.erase id).nodup_ids.of_map _
  have onceToo : (table.toList.filter (·.id != id)).Nodup := (distinct.nodup_ids.of_map _).filter _
  refine (List.perm_ext_iff_of_nodup once onceToo).mpr fun row => ?_
  rw [(distinct.erase id).mem_toList, List.mem_filter, distinct.mem_toList]
  by_cases same : row.id = id
  · simp [same]
  · simp [same]

namespace Store
variable {store : Store} {documents : List Document}

theorem Shows.delete (shown : store.Shows documents) (distinct : store.table.Distinct) (id : String) :
    (store.delete id).2.Shows (documents.filter (·.id != id)) := by
  have strict := SortKey.byName.pairwise_sort distinct.nodup_ids
  have sorted : SortKey.byName.sort (store.table.erase id).toList =
      (SortKey.byName.sort store.table.toList).filter (·.id != id) := by
    refine SortKey.byName.eq_of_strict ?_ (SortKey.byName.pairwise_sort (distinct.erase id).nodup_ids) (strict.filter _)
    exact (SortKey.byName.perm_sort _).trans
      ((distinct.perm_erase id).trans ((SortKey.byName.perm_sort _).filter _).symm)
  unfold Shows Store.delete
  rw [sorted]
  refine List.rel_filter (fun row document isRow => ?_) shown
  change row.id != id ↔ document.id != id
  rw [(Row.content_of_toDocument isRow).1]

/-- How many rows come before this one in the listing by name. -/
def ahead (store : Store) (row : Row) : Nat :=
  store.table.toList.countP fun other => SortKey.byName.compareRows other row = .lt

theorem ahead_delete_le (distinct : store.table.Distinct) (id : String) (row : Row) :
    (store.delete id).2.ahead row ≤ store.ahead row := by
  unfold ahead Store.delete
  rw [(distinct.perm_erase id).countP_eq]
  exact List.filter_sublist.countP_le

/-- They are those before it. -/
theorem split_ahead (distinct : store.table.Distinct) {row : Row} (stored : store.table.find? row.id = some row) :
    ∃ before after, SortKey.byName.sort store.table.toList = before ++ row :: after ∧
      before.length = store.ahead row := by
  have strict := SortKey.byName.pairwise_sort distinct.nodup_ids
  have member : row ∈ SortKey.byName.sort store.table.toList :=
    (SortKey.byName.perm_sort _).mem_iff.mpr (distinct.mem_toList.mpr stored)
  obtain ⟨before, after, parts⟩ := List.append_of_mem member
  refine ⟨before, after, parts, ?_⟩
  rw [parts, List.pairwise_append, List.pairwise_cons] at strict
  obtain ⟨-, ⟨later, -⟩, earlier⟩ := strict
  have none : after.countP (fun other => SortKey.byName.compareRows other row = .lt) = 0 := by
    refine List.countP_eq_zero.mpr fun other isAfter => ?_
    rw [decide_eq_true_iff]
    exact Std.OrientedCmp.not_lt_of_lt (later other isAfter)
  have all : before.countP (fun other => SortKey.byName.compareRows other row = .lt) = before.length :=
    List.countP_eq_length.mpr fun other isBefore => decide_eq_true (earlier other isBefore row List.mem_cons_self)
  rw [ahead, ← (SortKey.byName.perm_sort _).countP_eq, parts, List.countP_append, List.countP_cons, none, all]
  simp [Std.ReflCmp.compare_self]

/-- Early rows are shown on the first page. -/
theorem shown_of_ahead (distinct : store.table.Distinct) {row : Row} (stored : store.table.find? row.id = some row)
    {count : Nat} (early : store.ahead row < count) {page : DocumentPage}
    (given : store.list { limit := some count } = .ok page) : ∃ document ∈ page.items, document.id = row.id := by
  have all : store.found { limit := some count } = store.table.toList := List.filter_eq_self.mpr fun _ _ => rfl
  have sorted : ListOptions.SortsBy { limit := some count } SortKey.byName := rfl
  have read := read_of_list sorted given
  rw [all] at read
  obtain ⟨before, after, parts, length⟩ := split_ahead distinct stored
  rw [← length] at early
  have member : row ∈ (SortKey.byName.sort store.table.toList).take count := by
    refine List.mem_of_getElem? (i := before.length) ?_
    rw [List.getElem?_take_of_lt early, parts, List.getElem?_append_right (Nat.le_refl _), Nat.sub_self]
    rfl
  obtain ⟨document, isRow⟩ := mapM_ok_iff.mp ⟨_, read⟩ row member
  exact ⟨document, (mem_of_mapM read).mpr ⟨row, member, isRow⟩, (Row.content_of_toDocument isRow).1⟩

end Store
end ModelDepot
