import Mathlib.Data.List.Dedup
import ModelDepot.Proofs.Listings
import ModelDepot.Proofs.Requests

/-!
Listings of named ids beside readings of single documents. Both look up the permission of the caller, a
listing in one call for all ids and a reading for one, where it is not asked of an administrator. Main
statement: they agree exactly as far as `listsAsRead_iff` says.
-/
namespace ModelDepot

namespace Control
variable {d : Depot} {moment : Moment} {topic id : String} {caller : Caller} {options : ListOptions}
  {ids : List String} {permission : Permission}

theorem check_run :
    (check topic caller id permission).run (Depot.answer moment) d =
      (.ok (caller.isAdmin || d.authority.permits caller topic id permission), d) := by
  unfold check
  cases caller.isAdmin <;> rfl

/-- A question to the store that leaves it as it is. -/
theorem askStore_run {call : StoreCall} (still : (d.store.respond call).2 = d.store) :
    (askStore call).run (Depot.answer moment) d = ((d.store.respond call).1.mapError .store, d) := by
  unfold askStore Program.store Program.run
  simp only [Depot.answer, still]
  cases (d.store.respond call).1 <;> rfl

theorem mapError_eq_ok {δ ε α : Type} {f : δ → ε} {result : Except δ α} {value : α} :
    result.mapError f = .ok value ↔ result = .ok value := by
  cases result <;> simp [Except.mapError]

/-- A document is read where the caller is cleared and there is one. -/
theorem read_eq_ok_iff {document : Document} :
    ((read topic caller id permission).run (Depot.answer moment) d).1 = .ok document ↔
      d.authority.Clears caller topic id permission ∧ d.store.get id = .ok (some document) := by
  unfold read
  rw [Program.run_bind, check_run, Authority.clears_iff]
  dsimp only
  cases caller.isAdmin || d.authority.permits caller topic id permission with
  | false => exact ⟨nofun, fun cleared => nomatch cleared.1⟩
  | true =>
    rw [if_pos rfl, Program.run_bind, askStore_run rfl]
    dsimp only [Store.respond]
    cases d.store.get id with
    | error problem => exact ⟨nofun, fun got => nomatch got.2⟩
    | ok found =>
      cases found with
      | none => exact ⟨nofun, fun got => nomatch got.2⟩
      | some other =>
        constructor
        · intro same
          obtain rfl := Except.ok.inj same
          exact ⟨rfl, rfl⟩
        · rintro ⟨-, same⟩
          obtain rfl := Option.some.inj (Except.ok.inj same)
          rfl

theorem list_run (named : options.ids = some ids) :
    ((list topic caller options permission).run (Depot.answer moment) d).1 =
      (d.store.list { options with
        ids := some (d.authority.answersFor caller topic ids permission).allowed
        limit := none
        offset := 0 }).mapError .store := by
  unfold list
  rw [named, Program.run_bind]
  have visible : (visibleIds topic caller (some ids) permission).run (Depot.answer moment) d =
      (.ok (some (d.authority.answersFor caller topic ids permission).allowed), d) := rfl
  rw [visible]
  dsimp only
  rw [askStore_run rfl]
  rfl

/-- What is listed of the named ids is what could be read one by one, each once. -/
def ListsAsRead (d : Depot) (moment : Moment) (topic : String) (caller : Caller) (options : ListOptions)
    (ids : List String) (permission : Permission) : Prop :=
  ∃ page, ((list topic caller options permission).run (Depot.answer moment) d).1 = .ok page ∧
    (page.items.map (·.id)).Nodup ∧
    ∀ id, id ∈ page.items.map (·.id) ↔
      id ∈ ids ∧ ∃ document, ((read topic caller id permission).run (Depot.answer moment) d).1 = .ok document

/-- A listing of named ids agrees with reading them one by one, whatever its limit and offset, exactly if not
    too many of them are permitted, each of these can be read, and an administrator names no stored document
    without grants. -/
theorem listsAsRead_iff (distinct : d.store.table.Distinct) (named : options.ids = some ids)
    (unsearched : options.pattern? = none)
    (sortable : ∀ text, options.sortBy = some text → ∃ key, SortKey.parse text = .ok key) :
    ListsAsRead d moment topic caller options ids permission ↔
      (ids.filter fun id => d.authority.permits caller topic id permission).dedup.length ≤ maxBoundValues ∧
        (∀ id ∈ ids, d.authority.permits caller topic id permission → ∃ found, d.store.get id = .ok found) ∧
        (caller.isAdmin → ∀ id ∈ ids, (∃ document, d.store.get id = .ok (some document)) →
          (d.grants? topic id).isSome) := by
  have whole : { options with
      ids := some (d.authority.answersFor caller topic ids permission).allowed, limit := none, offset := 0 }.Whole
      (d.authority.answersFor caller topic ids permission).allowed := ⟨rfl, unsearched, rfl, rfl, sortable⟩
  have number : (d.authority.answersFor caller topic ids permission).allowed.length =
      (ids.filter fun id => d.authority.permits caller topic id permission).dedup.length := by
    refine List.Perm.length_eq ((List.perm_ext_iff_of_nodup (Dict.nodup_allowed _) (List.nodup_dedup _)).mpr ?_)
    intro id
    rw [Authority.mem_allowed_answersFor, List.mem_dedup, List.mem_filter]
  have listable := Store.list_whole_ok_iff distinct whole
  simp only [number, Authority.mem_allowed_answersFor, and_imp] at listable
  unfold ListsAsRead
  rw [list_run named]
  constructor
  · rintro ⟨page, shown, -, agrees⟩
    have listed := mapError_eq_ok.mp shown
    obtain ⟨few, readable⟩ := listable.mp ⟨page, listed⟩
    refine ⟨few, readable, fun isAdmin id asked ⟨document, got⟩ => ?_⟩
    -- The administrator can read it, so it is listed, and for a listing it takes grants.
    have member := (agrees id).mpr ⟨asked, document, read_eq_ok_iff.mpr ⟨.inl isAdmin, got⟩⟩
    have allowed := ((Store.mem_ids_list_whole distinct whole listed).mp member).1
    exact (Authority.permits_iff_clears.mp (Authority.mem_allowed_answersFor.mp allowed).2).2 isAdmin
  · rintro ⟨few, readable, known⟩
    obtain ⟨page, listed⟩ := listable.mpr ⟨few, readable⟩
    rw [listed]
    refine ⟨page, rfl, (Store.mem_list_whole distinct whole listed).1, fun id => ?_⟩
    rw [Store.mem_ids_list_whole distinct whole listed, Authority.mem_allowed_answersFor]
    simp only [read_eq_ok_iff]
    constructor
    · rintro ⟨⟨asked, permitted⟩, document, got⟩
      exact ⟨asked, document, Authority.clears_of_permits permitted, got⟩
    · rintro ⟨asked, document, clears, got⟩
      have permitted :=
        Authority.permits_iff_clears.mpr ⟨clears, fun isAdmin => known isAdmin id asked ⟨document, got⟩⟩
      exact ⟨⟨asked, permitted⟩, document, got⟩

def admin : Caller := { user := "root", roles := [adminRole] }

/-- A stored and a missing document. -/
def both : ListOptions := { limit := some 0, ids := some ["mine", "none"] }

theorem listsAsRead_iff_both :
    (shelved.store.table.Distinct ∧ both.ids = some ["mine", "none"] ∧ both.pattern? = none ∧
        ∀ text, both.sortBy = some text → ∃ key, SortKey.parse text = .ok key) ∧
      ListsAsRead shelved ⟨1, "x"⟩ board.topic admin both ["mine", "none"] .read := by
  have distinct : shelved.store.table.Distinct := by decide
  have sortable : ∀ text, both.sortBy = some text → ∃ key, SortKey.parse text = .ok key := nofun
  refine ⟨⟨distinct, rfl, rfl, sortable⟩, (listsAsRead_iff distinct rfl rfl sortable).mpr ⟨by decide, ?_, ?_⟩⟩
  · simp only [List.forall_mem_cons]
    exact ⟨fun _ => ⟨_, rfl⟩, fun _ => ⟨_, rfl⟩, nofun⟩
  · intro _
    have missing : shelved.store.get "none" = .ok none := by decide
    simp only [List.forall_mem_cons, missing]
    exact ⟨fun _ => by decide, nofun, nofun⟩

/-- The document has no grants. -/
def abandoned : Depot := { shelved with authority := ({} : Authority).register (.ofTopic "t") }

/-- An administrator can read a document without grants, but is not shown it by its id. -/
theorem ungranted_unlisted :
    ((read board.topic admin "mine" .read).run (Depot.answer ⟨1, "x"⟩) abandoned).1 =
        .ok { id := "mine", name := "Mine" } ∧
      ((list board.topic admin { ids := some ["mine"] } .read).run (Depot.answer ⟨1, "x"⟩) abandoned).1 =
        .ok ⟨[], 0⟩ ∧
      ¬ ListsAsRead abandoned ⟨1, "x"⟩ board.topic admin { ids := some ["mine"] } ["mine"] .read := by
  have reads : ((read board.topic admin "mine" .read).run (Depot.answer ⟨1, "x"⟩) abandoned).1 =
      .ok { id := "mine", name := "Mine" } := by decide
  have lists : ((list board.topic admin { ids := some ["mine"] } .read).run (Depot.answer ⟨1, "x"⟩) abandoned).1 =
      .ok ⟨[], 0⟩ := by decide
  refine ⟨reads, lists, fun ⟨page, listed, _, agrees⟩ => ?_⟩
  obtain rfl := Except.ok.inj (lists.symm.trans listed)
  exact List.not_mem_nil ((agrees "mine").mpr ⟨List.mem_cons_self, _, reads⟩)

end Control
end ModelDepot
