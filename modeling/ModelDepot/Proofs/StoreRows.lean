import Mathlib.Data.List.Nodup
import ModelDepot.Store
import ModelDepot.Authority.Local

/-!
What the operations of the store do to its rows, and those of the authority to its grants: each one
changes at most the entry under one id, and leaves every other entry as it was.
-/
namespace ModelDepot.Dict
variable {α : Type} {a b : String} {x y : α} {m : Dict α}

theorem insert_held (held : m[a]? = some x) : m.insert a x = m := by
  apply Std.ExtTreeMap.ext_getElem?
  intro other
  rw [Std.ExtTreeMap.getElem?_insert]
  split
  · rename_i same
    rw [← Std.compare_eq_iff_eq.mp same, held]
  · rfl

theorem erase_missing (missing : m[a]? = none) : m.erase a = m := by
  apply Std.ExtTreeMap.ext_getElem?
  intro other
  rw [Std.ExtTreeMap.getElem?_erase]
  split
  · rename_i same
    rw [← Std.compare_eq_iff_eq.mp same, missing]
  · rfl

@[simp] theorem insert_insert (m : Dict α) (a : String) (x y : α) : (m.insert a x).insert a y = m.insert a y := by
  apply Std.ExtTreeMap.ext_getElem?
  intro other
  simp only [Std.ExtTreeMap.getElem?_insert]
  split <;> rfl

theorem insert_comm (different : a ≠ b) (m : Dict α) (x y : α) :
    (m.insert a x).insert b y = (m.insert b y).insert a x := by
  apply Std.ExtTreeMap.ext_getElem?
  intro other
  simp only [Std.ExtTreeMap.getElem?_insert, Std.compare_eq_iff_eq]
  by_cases first : a = other
  · have second : ¬ b = other := fun same => different (first.trans same.symm)
    simp only [first, second, ↓reduceIte]
  · simp only [first, ↓reduceIte]

theorem erase_insert_comm (different : a ≠ b) (m : Dict α) (x : α) :
    (m.insert a x).erase b = (m.erase b).insert a x := by
  apply Std.ExtTreeMap.ext_getElem?
  intro other
  simp only [Std.ExtTreeMap.getElem?_insert, Std.ExtTreeMap.getElem?_erase, Std.compare_eq_iff_eq]
  by_cases first : a = other
  · have second : ¬ b = other := fun same => different (first.trans same.symm)
    simp only [first, second, ↓reduceIte]
  · simp only [first, ↓reduceIte]

theorem erase_comm (m : Dict α) (a b : String) : (m.erase a).erase b = (m.erase b).erase a := by
  apply Std.ExtTreeMap.ext_getElem?
  intro other
  simp only [Std.ExtTreeMap.getElem?_erase]
  split <;> split <;> rfl

theorem size_erase (m : Dict α) (a : String) : (m.erase a).size + m[a]?.isSome.toNat = m.size := by
  rw [Std.ExtTreeMap.size_erase, ← Std.ExtTreeMap.contains_eq_isSome_getElem?]
  cases held : m.contains a with
  | false => rfl
  | true =>
    have some : m.size ≠ 0 := by
      intro none
      rw [Std.ExtTreeMap.eq_empty_iff_size_eq_zero.mpr none] at held
      simp at held
    simp only [↓reduceIte, Bool.toNat_true]
    omega

end ModelDepot.Dict

namespace ModelDepot.Table

theorem find?_put {table after : Table} {row : Row} (done : table.put row = .ok after) (id : String) :
    after.find? id = if id = row.id then some row else table.find? id := by
  unfold Table.put at done
  split at done
  · rename_i rows keyed
    obtain rfl := Except.ok.inj done
    unfold Table.find?
    simp only [keyed, Std.ExtTreeMap.getElem?_insert, Std.compare_eq_iff_eq, @eq_comm _ id]
  · simp at done

@[simp] theorem find?_erase (table : Table) (other id : String) :
    (table.erase other).find? id = if id = other then none else table.find? id := by
  unfold Table.erase Table.find?
  cases table.rows with
  | keyed rows =>
    simp only [Std.ExtTreeMap.getElem?_erase, Std.compare_eq_iff_eq, @eq_comm _ id]
  | loose rows =>
    simp only [List.find?_filter]
    by_cases same : id = other
    · subst same
      rw [if_pos rfl, List.find?_eq_none]
      simp
    · rw [if_neg same]
      congr 1
      funext row
      by_cases here : row.id = id
      · simp [here, same]
      · simp [here]

theorem columns_put {table after : Table} {row : Row} (done : table.put row = .ok after) :
    after.columns = table.columns := by
  unfold Table.put at done
  split at done
  · obtain rfl := Except.ok.inj done
    rfl
  · cases done

@[simp] theorem columns_erase (table : Table) (id : String) : (table.erase id).columns = table.columns := by
  unfold Table.erase
  split <;> rfl

/-- The id is the key of the table. -/
def HasKey (table : Table) : Prop := ∃ rows : Dict Row, table.rows = .keyed rows

theorem HasKey.put {table : Table} (key : table.HasKey) (row : Row) :
    ∃ after, table.put row = .ok after ∧ after.HasKey := by
  obtain ⟨rows, isKeyed⟩ := key
  unfold Table.put
  rw [isKeyed]
  exact ⟨_, rfl, _, rfl⟩

theorem hasKey_of_put {table after : Table} {row : Row} (done : table.put row = .ok after) : table.HasKey := by
  unfold Table.put at done
  split at done
  · rename_i rows isKeyed
    exact ⟨rows, isKeyed⟩
  · cases done

@[simp] theorem hasKey_erase {table : Table} {id : String} : (table.erase id).HasKey ↔ table.HasKey := by
  unfold Table.erase HasKey
  cases isKeyed : table.rows with
  | keyed rows => exact ⟨fun _ => ⟨rows, rfl⟩, fun _ => ⟨_, rfl⟩⟩
  | loose rows => simp

/-- The id is the key of the table, and every row stands under its own. -/
def Keyed (table : Table) : Prop :=
  ∃ rows : Dict Row, table.rows = .keyed rows ∧ ∀ (id : String) (row : Row), rows[id]? = some row → row.id = id

variable {table : Table}

theorem Keyed.hasKey (keyed : table.Keyed) : table.HasKey := by
  obtain ⟨rows, isKeyed, _⟩ := keyed
  exact ⟨rows, isKeyed⟩

theorem Keyed.put (keyed : table.Keyed) (row : Row) : ∃ after, table.put row = .ok after ∧ after.Keyed := by
  obtain ⟨rows, isKeyed, own⟩ := keyed
  unfold Table.put
  rw [isKeyed]
  refine ⟨_, rfl, _, rfl, ?_⟩
  intro id other found
  rw [Std.ExtTreeMap.getElem?_insert] at found
  split at found
  · rename_i same
    rw [← Option.some.inj found]
    exact Std.compare_eq_iff_eq.mp same
  · exact own id other found

theorem Keyed.erase (keyed : table.Keyed) (id : String) : (table.erase id).Keyed := by
  obtain ⟨rows, isKeyed, own⟩ := keyed
  unfold Table.erase
  rw [isKeyed]
  refine ⟨_, rfl, ?_⟩
  intro other row found
  rw [Std.ExtTreeMap.getElem?_erase] at found
  split at found
  · cases found
  · exact own other row found

theorem Keyed.id_eq (keyed : table.Keyed) {id : String} {row : Row} (found : table.find? id = some row) :
    row.id = id := by
  obtain ⟨rows, isKeyed, own⟩ := keyed
  unfold Table.find? at found
  rw [isKeyed] at found
  exact own id row found

theorem Keyed.mem_toList (keyed : table.Keyed) {row : Row} : row ∈ table.toList ↔ table.find? row.id = some row := by
  obtain ⟨rows, isKeyed, own⟩ := keyed
  unfold Table.toList Table.find? Rows.toList
  simp only [isKeyed, List.mem_map, Prod.exists, Std.ExtTreeMap.mem_toList_iff_getElem?_eq_some]
  constructor
  · rintro ⟨id, other, found, rfl⟩
    rw [own id other found]
    exact found
  · exact fun found => ⟨row.id, row, found, rfl⟩

/-- Every row stands under its own id, and no two under the same one, with a key or without. -/
def Distinct (table : Table) : Prop :=
  match table.rows with
  | .keyed rows => ∀ entry ∈ rows.toList, entry.2.id = entry.1
  | .loose rows => (rows.map (·.id)).Nodup

instance (table : Table) : Decidable table.Distinct :=
  match table with
  | ⟨_, .keyed rows, _⟩ => inferInstanceAs (Decidable (∀ entry ∈ rows.toList, entry.2.id = entry.1))
  | ⟨_, .loose rows, _⟩ => inferInstanceAs (Decidable (rows.map (·.id)).Nodup)

theorem distinct_keyed {rows : Dict Row} (isKeyed : table.rows = .keyed rows) :
    table.Distinct ↔ ∀ (id : String) (row : Row), rows[id]? = some row → row.id = id := by
  unfold Distinct
  simp only [isKeyed, Prod.forall, Std.ExtTreeMap.mem_toList_iff_getElem?_eq_some]

theorem distinct_loose {rows : List Row} (isLoose : table.rows = .loose rows) :
    table.Distinct ↔ (rows.map (·.id)).Nodup := by
  unfold Distinct
  rw [isLoose]

theorem Keyed.distinct (keyed : table.Keyed) : table.Distinct := by
  obtain ⟨rows, isKeyed, own⟩ := keyed
  exact (distinct_keyed isKeyed).mpr own

theorem Distinct.id_eq (distinct : table.Distinct) {id : String} {row : Row} (found : table.find? id = some row) :
    row.id = id := by
  unfold Table.find? at found
  cases isRows : table.rows with
  | keyed rows =>
    rw [isRows] at found
    exact (distinct_keyed isRows).mp distinct id row found
  | loose rows =>
    rw [isRows] at found
    simpa using List.find?_some found

/-- Whatever is found under an id has that id. -/
def Coherent (table : Table) : Prop := ∀ (id : String) (row : Row), table.find? id = some row → row.id = id

theorem Distinct.coherent (distinct : table.Distinct) : table.Coherent := fun _ _ => distinct.id_eq

/-- Only a table with a key could hold a row under another id. -/
theorem Coherent.distinct (coherent : table.Coherent) {rows : Dict Row} (isKeyed : table.rows = .keyed rows) :
    table.Distinct := by
  refine (distinct_keyed isKeyed).mpr fun id row found => coherent id row ?_
  unfold find?
  rw [isKeyed]
  exact found

theorem Distinct.mem_toList (distinct : table.Distinct) {row : Row} :
    row ∈ table.toList ↔ table.find? row.id = some row := by
  cases isRows : table.rows with
  | keyed rows =>
    exact Keyed.mem_toList ⟨rows, isRows, (distinct_keyed isRows).mp distinct⟩
  | loose rows =>
    unfold Table.toList Table.find? Rows.toList
    rw [isRows]
    constructor
    · intro member
      have once := (distinct_loose isRows).mp distinct
      cases found : rows.find? (·.id == row.id) with
      | none => exact absurd (beq_self_eq_true row.id) (List.find?_eq_none.mp found row member)
      | some other =>
        have same : other.id = row.id := by simpa using List.find?_some found
        obtain rfl := List.inj_on_of_nodup_map once (List.mem_of_find?_eq_some found) member same
        exact found
    · exact List.mem_of_find?_eq_some

theorem Distinct.nodup_ids (distinct : table.Distinct) : (table.toList.map (·.id)).Nodup := by
  unfold Table.toList Rows.toList
  cases isRows : table.rows with
  | keyed rows =>
    have own : rows.toList.map (fun entry => entry.2.id) = rows.toList.map (·.1) := by
      refine List.map_congr_left fun entry member => ?_
      exact (distinct_keyed isRows).mp distinct _ _ (Std.ExtTreeMap.mem_toList_iff_getElem?_eq_some.mp member)
    rw [List.map_map, Function.comp_def, own, Std.ExtTreeMap.map_fst_toList_eq_keys]
    exact Std.ExtTreeMap.nodup_keys
  | loose rows => exact (distinct_loose isRows).mp distinct

theorem Distinct.erase (distinct : table.Distinct) (id : String) : (table.erase id).Distinct := by
  unfold Table.erase
  cases isRows : table.rows with
  | keyed rows =>
    have own := (distinct_keyed isRows).mp distinct
    refine (distinct_keyed rfl).mpr fun other row found => ?_
    rw [Std.ExtTreeMap.getElem?_erase] at found
    split at found
    · cases found
    · exact own other row found
  | loose rows =>
    exact (distinct_loose rfl).mpr (((distinct_loose isRows).mp distinct).sublist (List.filter_sublist.map _))

/-- At most one of several rows stands under an id. -/
theorem length_dropped {rows : List Row} (once : (rows.map (·.id)).Nodup) (id : String) :
    (rows.filter (·.id != id)).length + (rows.find? (·.id == id)).isSome.toNat = rows.length := by
  induction rows with
  | nil => rfl
  | cons row more ih =>
    obtain ⟨new, onceMore⟩ := List.nodup_cons.mp once
    by_cases here : row.id = id
    · have others : more.filter (·.id != id) = more := by
        refine List.filter_eq_self.mpr fun other member => bne_iff_ne.mpr fun same => new ?_
        exact List.mem_map.mpr ⟨other, member, same.trans here.symm⟩
      simp [here, others]
    · simp only [List.filter_cons, bne_iff_ne.mpr here, ↓reduceIte, List.length_cons, List.find?_cons,
        beq_eq_false_iff_ne.mpr here]
      rw [Nat.add_right_comm, ih onceMore]

theorem Distinct.length_erase (distinct : table.Distinct) (id : String) :
    (table.erase id).toList.length + (table.find? id).isSome.toNat = table.toList.length := by
  unfold Table.erase Table.toList Table.find?
  cases isRows : table.rows with
  | keyed rows =>
    simp only [Rows.toList, List.length_map, Std.ExtTreeMap.length_toList]
    exact Dict.size_erase rows id
  | loose rows =>
    exact length_dropped ((distinct_loose isRows).mp distinct) id

end ModelDepot.Table

namespace ModelDepot.Document

@[simp] theorem id_stampIfUnset (document : Document) (time : Int64) :
    (document.stampIfUnset time).id = document.id := by
  unfold stampIfUnset
  split <;> rfl

theorem stampIfUnset_of_stamped {document : Document} (stamped : document.isStamped) (time : Int64) :
    document.stampIfUnset time = document :=
  if_pos stamped

end ModelDepot.Document

namespace ModelDepot.Store

theorem upsert_eq_ok {store after : Store} {doc : Document} (done : store.upsert doc = .ok after) :
    doc.validate = .ok () ∧ store.table.put (.ofDocument doc) = .ok after.table := by
  unfold Store.upsert at done
  split at done
  · simp at done
  · rename_i valid
    split at done
    · rename_i table put
      obtain rfl := Except.ok.inj done
      exact ⟨valid, put⟩
    · simp at done

theorem find?_upsert {store after : Store} {doc : Document} (done : store.upsert doc = .ok after) (id : String) :
    after.table.find? id = if id = doc.id then some (.ofDocument doc) else store.table.find? id :=
  Table.find?_put (upsert_eq_ok done).2 id

/-- A document is found exactly under the ids of rows. -/
theorem isSome_of_get {store : Store} {id : String} {found : Option Document} (got : store.get id = .ok found) :
    found.isSome = (store.table.find? id).isSome := by
  unfold Store.get at got
  split at got
  · rename_i absent
    obtain rfl := Except.ok.inj got
    rw [absent]
    rfl
  · rename_i row present
    rw [present]
    cases read : row.toDocument with
    | error problem => rw [read] at got; cases got
    | ok doc =>
      rw [read] at got
      obtain rfl := Except.ok.inj got
      rfl

theorem keyed_upsert {store after : Store} {doc : Document} (keyed : store.table.Keyed)
    (done : store.upsert doc = .ok after) : after.table.Keyed := by
  obtain ⟨table, put, still⟩ := keyed.put (.ofDocument doc)
  rw [(upsert_eq_ok done).2] at put
  obtain rfl := Except.ok.inj put
  exact still

/-- A document with an id can be stored in a table with a key, and no other. -/
theorem upsert_iff {store : Store} {doc : Document} :
    (∃ after, store.upsert doc = .ok after) ↔ Text.allBlank doc.id = false ∧ store.table.HasKey := by
  constructor
  · rintro ⟨after, done⟩
    obtain ⟨valid, put⟩ := upsert_eq_ok done
    refine ⟨?_, Table.hasKey_of_put put⟩
    cases named : Text.allBlank doc.id with
    | false => rfl
    | true =>
      simp only [Document.validate, named, ↓reduceIte] at valid
      cases valid
  · rintro ⟨named, key⟩
    obtain ⟨table, put, _⟩ := key.put (.ofDocument doc)
    exact ⟨⟨table⟩, by simp [Store.upsert, Document.validate, named, put]⟩

@[simp] theorem find?_delete (store : Store) (other id : String) :
    (store.delete other).2.table.find? id = if id = other then none else store.table.find? id :=
  Table.find?_erase store.table other id

/-- The ids of some of the rows. -/
theorem mem_idsOf {table : Table} (distinct : table.Distinct) (asked : Row → Bool) (id : String) :
    id ∈ (Std.ExtTreeSet.ofList ((table.toList.filter asked).map (·.id)) : IdSet) ↔
      ∃ row, table.find? id = some row ∧ asked row := by
  simp only [Std.ExtTreeSet.mem_ofList, List.contains_iff_mem, List.mem_map, List.mem_filter, distinct.mem_toList]
  constructor
  · rintro ⟨row, ⟨found, holds⟩, rfl⟩
    exact ⟨row, found, holds⟩
  · rintro ⟨row, found, holds⟩
    have own := distinct.id_eq found
    exact ⟨row, ⟨own ▸ found, holds⟩, own⟩

theorem mem_staleIds_of_distinct {store : Store} (distinct : store.table.Distinct) {cutoff : Int64} {id : String} :
    id ∈ store.staleIds cutoff ↔ ∃ row, store.table.find? id = some row ∧ isStale cutoff row :=
  mem_idsOf distinct (isStale cutoff) id

theorem mem_allIds_of_distinct {store : Store} (distinct : store.table.Distinct) {id : String} :
    id ∈ store.allIds ↔ (store.table.find? id).isSome := by
  have all := mem_idsOf distinct (fun _ => true) id
  rw [List.filter_eq_self.mpr fun _ _ => rfl] at all
  simp only [and_true] at all
  rw [Option.isSome_iff_exists]
  exact all

theorem mem_staleIds {store : Store} (keyed : store.table.Keyed) {cutoff : Int64} {id : String} :
    id ∈ store.staleIds cutoff ↔ ∃ row, store.table.find? id = some row ∧ isStale cutoff row :=
  mem_staleIds_of_distinct keyed.distinct

theorem mem_allIds {store : Store} (keyed : store.table.Keyed) {id : String} :
    id ∈ store.allIds ↔ (store.table.find? id).isSome :=
  mem_allIds_of_distinct keyed.distinct

end ModelDepot.Store

namespace ModelDepot.Authority

/-! ### Calls that need the topic -/

theorem respond_setPermission {a : Authority} {topic : String} (registered : a.isRegistered topic) (id : String)
    (grants : Grants) : a.respond (.setPermission topic id grants) = (.ok (), a.setGrants topic id grants) := by
  simp only [respond, registered, ↓reduceIte]

theorem respond_adminList {a : Authority} {topic : String} (registered : a.isRegistered topic) (page : Page) :
    a.respond (.adminList topic page) = (.ok (page.cut (a.ids topic)), a) := by
  simp only [respond, registered, ↓reduceIte]

/-! ### Grants that are set or removed -/

@[simp] theorem grants?_setGrants (a : Authority) (topic id : String) (grants : Grants) (t i : String) :
    (a.setGrants topic id grants).grants? t i = if t = topic ∧ i = id then some grants else a.grants? t i := by
  unfold setGrants grants? grantsOf
  by_cases sameTopic : t = topic
  · subst sameTopic
    by_cases same : i = id
    · subst same; simp
    · have other : ¬ id = i := fun h => same h.symm
      simp [same, other, Std.ExtTreeMap.getElem?_insert]
  · have other : ¬ topic = t := fun h => sameTopic h.symm
    simp [sameTopic, other, Std.ExtTreeMap.getElem?_insert]

@[simp] theorem grants?_eraseGrants (a : Authority) (topic id t i : String) :
    (a.eraseGrants topic id).grants? t i = if t = topic ∧ i = id then none else a.grants? t i := by
  unfold eraseGrants grants? grantsOf
  by_cases sameTopic : t = topic
  · subst sameTopic
    cases found : a.resources[t]? with
    | none => simp [found]
    | some ofTopic =>
      by_cases same : i = id
      · subst same; simp
      · have other : ¬ id = i := fun h => same h.symm
        simp [same, other, Std.ExtTreeMap.getElem?_erase]
  · have other : ¬ topic = t := fun h => sameTopic h.symm
    cases a.resources[topic]? <;> simp [sameTopic, other, Std.ExtTreeMap.getElem?_insert]

theorem mem_ids {a : Authority} {topic id : String} : id ∈ a.ids topic ↔ (a.grants? topic id).isSome := by
  unfold ids grants?
  rw [Std.ExtTreeMap.mem_keys, Std.ExtTreeMap.mem_iff_isSome_getElem?]

theorem length_ids_eraseGrants (a : Authority) (topic id : String) :
    ((a.eraseGrants topic id).ids topic).length + (a.grants? topic id).isSome.toNat = (a.ids topic).length := by
  unfold eraseGrants grants? ids grantsOf
  cases found : a.resources[topic]? with
  | none => simp [found]
  | some ofTopic =>
    simp only [Std.ExtTreeMap.getElem?_insert_self, Option.getD_some, Std.ExtTreeMap.length_keys]
    exact Dict.size_erase ofTopic id

theorem length_ids_setGrants_le (a : Authority) (topic id : String) (grants : Grants) :
    ((a.setGrants topic id grants).ids topic).length ≤ (a.ids topic).length + 1 := by
  unfold setGrants ids grantsOf
  simp only [Std.ExtTreeMap.getElem?_insert_self, Option.getD_some, Std.ExtTreeMap.length_keys]
  exact Std.ExtTreeMap.size_insert_le

@[simp]
theorem topics_eraseGrants (a : Authority) (topic id : String) : (a.eraseGrants topic id).topics = a.topics := by
  unfold eraseGrants
  split <;> rfl

/-- What is left when the grants of several resources are removed. -/
@[simp] theorem grants?_eraseAll (topic : String) (ids : List String) (a : Authority) (t i : String) :
    (ids.foldl (fun a id => a.eraseGrants topic id) a).grants? t i =
      if t = topic ∧ i ∈ ids then none else a.grants? t i := by
  induction ids generalizing a with
  | nil => simp
  | cons id more ih =>
    rw [List.foldl_cons, ih, grants?_eraseGrants]
    by_cases here : t = topic ∧ i = id
    · simp [here]
    · by_cases later : t = topic ∧ i ∈ more
      · simp [later]
      · rw [if_neg later, if_neg here, if_neg]
        rintro ⟨same, member⟩
        rcases List.mem_cons.mp member with head | tail
        · exact here ⟨same, head⟩
        · exact later ⟨same, tail⟩

@[simp] theorem topics_eraseAll (topic : String) (ids : List String) (a : Authority) :
    (ids.foldl (fun a id => a.eraseGrants topic id) a).topics = a.topics := by
  induction ids generalizing a with
  | nil => rfl
  | cons id more ih => simp [ih]

/-- Nothing is lost when the grants of a resource without any are removed. -/
theorem eraseGrants_of_missing {a : Authority} {topic id : String} (missing : a.grants? topic id = none) :
    a.eraseGrants topic id = a := by
  unfold grants? grantsOf at missing
  unfold eraseGrants
  cases found : a.resources[topic]? with
  | none => rfl
  | some ofTopic =>
    rw [found] at missing
    have unheld : ofTopic.erase id = ofTopic := Dict.erase_missing missing
    have unchanged : a.resources.insert topic ofTopic = a.resources := Dict.insert_held found
    simp only [unheld, unchanged]

end ModelDepot.Authority
