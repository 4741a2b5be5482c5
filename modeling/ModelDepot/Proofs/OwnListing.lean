import Mathlib.Data.List.Perm.Subperm
import ModelDepot.Proofs.ApplyAlone
import ModelDepot.Proofs.NamedListing

/-!
Listings of everything that a caller may use. For one who is no administrator, the authority names the ids, and the
store is asked for all of them at once. Main statement: the listing is complete exactly as far as `listsOwn_iff`
says.
-/
namespace ModelDepot

namespace Control
variable {d : Depot} {moment : Moment} {topic id : String} {caller : Caller} {options : ListOptions}
  {permission : Permission}

/-- The ids that the store is asked for, unless it is asked for all. -/
def ownIds (a : Authority) (caller : Caller) (topic : String) (permission : Permission) : Option (List String) :=
  if caller.isAdmin then none else some (a.accessibleIds caller topic permission)

theorem list_own_run (unnamed : options.ids = none) :
    ((list topic caller options permission).run (Depot.answer moment) d).1 =
      (d.store.list { options with ids := ownIds d.authority caller topic permission }).mapError .store := by
  have visible : (visibleIds topic caller none permission).run (Depot.answer moment) d =
      (.ok (ownIds d.authority caller topic permission), d) := by
    unfold visibleIds ownIds
    cases caller.isAdmin <;> rfl
  unfold list
  rw [unnamed, Program.run_bind, visible]
  dsimp only
  rw [askStore_run rfl]
  rfl

theorem asks_own : { options with ids := ownIds d.authority caller topic permission }.Asks id ↔
    d.authority.Clears caller topic id permission := by
  cases isAdmin : caller.isAdmin with
  | true =>
    have named : ownIds d.authority caller topic permission = none := by rw [ownIds, if_pos isAdmin]
    exact ⟨fun _ => .inl isAdmin, fun _ ids same => nomatch named.symm.trans same⟩
  | false =>
    have named : ownIds d.authority caller topic permission = some (d.authority.accessibleIds caller topic permission) := by
      rw [ownIds, isAdmin, if_neg Bool.false_ne_true]
    rw [ListOptions.asks_named named, Authority.mem_accessibleIds, Authority.permits_iff_clears, isAdmin]
    exact and_iff_left nofun

theorem length_ownIds_le : ((ownIds d.authority caller topic permission).getD []).length ≤ maxBoundValues ↔
    caller.isAdmin ∨ (d.authority.accessibleIds caller topic permission).length ≤ maxBoundValues := by
  unfold ownIds
  cases caller.isAdmin <;> simp

/-- What is listed without naming ids are the stored documents that the caller may use, each once, and they are
    counted. -/
def ListsOwn (d : Depot) (moment : Moment) (topic : String) (caller : Caller) (options : ListOptions)
    (permission : Permission) : Prop :=
  ∃ page, ((list topic caller options permission).run (Depot.answer moment) d).1 = .ok page ∧
    (page.items.map (·.id)).Nodup ∧
    (∀ document, document ∈ page.items ↔
      d.authority.Clears caller topic document.id permission ∧ d.store.get document.id = .ok (some document)) ∧
    page.total = page.items.length

/-- Without a search and a cut, a listing holds all that the caller may use exactly if each of these documents can be
    read and, for one who is no administrator, the ids do not outnumber the values that can be bound. -/
theorem listsOwn_iff (distinct : d.store.table.Distinct) (unnamed : options.ids = none)
    (unsearched : options.pattern? = none) (unlimited : options.limit = none) (fromStart : options.offset = 0)
    (sortable : ∀ text, options.sortBy = some text → ∃ key, SortKey.parse text = .ok key) :
    ListsOwn d moment topic caller options permission ↔
      (caller.isAdmin ∨ (d.authority.accessibleIds caller topic permission).length ≤ maxBoundValues) ∧
        ∀ id, d.authority.Clears caller topic id permission → ∃ found, d.store.get id = .ok found := by
  have plain : { options with ids := ownIds d.authority caller topic permission }.Plain :=
    ⟨unsearched, unlimited, fromStart, sortable⟩
  have listable := Store.list_plain_ok_iff distinct plain
  simp only [asks_own, length_ownIds_le] at listable
  rw [ListsOwn, list_own_run unnamed, ← listable]
  constructor
  · rintro ⟨page, shown, -⟩
    exact ⟨page, mapError_eq_ok.mp shown⟩
  · rintro ⟨page, listed⟩
    obtain ⟨once, mem_items, counted⟩ := Store.mem_list_plain distinct plain listed
    exact ⟨page, mapError_eq_ok.mpr listed, once, fun document => by rw [mem_items, asks_own], counted⟩

/-- Everything by name. -/
def everything : ListOptions := {}

theorem listsOwn_iff_everything :
    (shelved.store.table.Distinct ∧ everything.ids = none ∧ everything.pattern? = none ∧ everything.limit = none ∧
        everything.offset = 0 ∧ ∀ text, everything.sortBy = some text → ∃ key, SortKey.parse text = .ok key) ∧
      ListsOwn shelved ⟨1, "x"⟩ board.topic ann everything .read := by
  have distinct : shelved.store.table.Distinct := by decide
  have sortable : ∀ text, everything.sortBy = some text → ∃ key, SortKey.parse text = .ok key := nofun
  refine ⟨⟨distinct, rfl, rfl, rfl, rfl, sortable⟩,
    (listsOwn_iff distinct rfl rfl rfl rfl sortable).mpr ⟨.inr (by decide), fun id cleared => ?_⟩⟩
  have permitted : shelved.authority.permits ann board.topic id .read :=
    Authority.permits_iff_clears.mpr ⟨cleared, fun isAdmin => absurd isAdmin (by decide)⟩
  rw [shelved_permits permitted]
  exact ⟨_, rfl⟩

/-! ### A crowd of documents -/

/-- Numbered ids. -/
def crowd (n : Nat) : List String := (List.range n).map fun i => "d" ++ toString i

theorem nodup_crowd (n : Nat) : (crowd n).Nodup := by
  refine List.nodup_range.map fun i j same => ?_
  have numerals := (String.append_right_inj "d").mp same
  rw [Nat.toString_eq_ofList_toDigits, Nat.toString_eq_ofList_toDigits] at numerals
  calc i = Nat.ofDigitChars 10 (Nat.toDigits 10 i) 0 := Nat.ofDigitChars_ten_toDigits.symm
    _ = Nat.ofDigitChars 10 (Nat.toDigits 10 j) 0 := by rw [String.ofList_injective numerals]
    _ = j := Nat.ofDigitChars_ten_toDigits

def grantAll (a : Authority) (topic : String) (grants : Grants) (ids : List String) : Authority :=
  ids.foldl (fun a id => a.setGrants topic id grants) a

theorem grants?_grantAll {a : Authority} {grants : Grants} {ids : List String} (member : id ∈ ids) :
    (grantAll a topic grants ids).grants? topic id = some grants := by
  induction ids using List.reverseRecOn with
  | nil => cases member
  | append_singleton earlier last ih =>
    rw [grantAll, List.foldl_concat]
    by_cases here : id = last
    · simp [here]
    · simp only [Authority.grants?_setGrants, here, and_false, ↓reduceIte]
      exact ih ((List.mem_append.mp member).resolve_right fun only => here (List.mem_singleton.mp only))

/-- As many documents of one owner. -/
def crowded (n : Nat) : Depot where
  store := (crowd n).foldl (fun store id => store.holding { id := id, name := id, owner := "ann" }) .empty
  authority := grantAll (({} : Authority).register (.ofTopic "t")) "t" (.forOwner "ann") (crowd n)
  log := .new 1

theorem length_accessibleIds_crowded (n : Nat) (permission : Permission) :
    n ≤ ((crowded n).authority.accessibleIds ann "t" permission).length := by
  have owned : ∀ id ∈ crowd n, id ∈ (crowded n).authority.accessibleIds ann "t" permission := by
    intro id member
    rw [Authority.mem_accessibleIds, Authority.permits_iff]
    exact ⟨_, grants?_grantAll member, .inr (by cases permission <;> decide)⟩
  have within := (List.subperm_of_subset (nodup_crowd n) owned).length_le
  rwa [crowd, List.length_map, List.length_range] at within

theorem keyed_crowded (n : Nat) : (crowded n).store.table.Keyed := by
  have each : ∀ (ids : List String) (store : Store), store.table.Keyed →
      (ids.foldl (fun store id => store.holding { id := id, name := id, owner := "ann" }) store).table.Keyed := by
    intro ids
    induction ids with
    | nil => exact fun _ keyed => keyed
    | cons id more ih => exact fun store keyed => ih _ (Store.keyed_holding keyed _)
  exact each (crowd n) .empty ⟨∅, rfl, fun _ _ found => by simp at found⟩

/-- The owner of more documents than values can be bound is shown none of them. -/
theorem unlisted_of_many {n : Nat} (many : maxBoundValues < n) :
    (crowded n).store.table.Distinct ∧
      ((list "t" ann everything .read).run (Depot.answer ⟨1, "x"⟩) (crowded n)).1 = .error (.store (.database .sqlite)) ∧
      ¬ ListsOwn (crowded n) ⟨1, "x"⟩ "t" ann everything .read := by
  have plain : { everything with ids := ownIds (crowded n).authority ann "t" .read }.Plain := ⟨rfl, rfl, rfl, nofun⟩
  obtain ⟨key, listed⟩ := Store.list_plain plain (crowded n).store
  have own : ownIds (crowded n).authority ann "t" .read = some ((crowded n).authority.accessibleIds ann "t" .read) := rfl
  have outnumbered := Nat.lt_of_lt_of_le many (length_accessibleIds_crowded n .read)
  have unlisted : ((list "t" ann everything .read).run (Depot.answer ⟨1, "x"⟩) (crowded n)).1 =
      .error (.store (.database .sqlite)) := by
    rw [list_own_run rfl, listed, own, Option.getD_some, if_pos outnumbered]
    rfl
  refine ⟨(keyed_crowded n).distinct, unlisted, fun ⟨page, shown, _⟩ => ?_⟩
  cases unlisted.symm.trans shown

theorem crowded_unlisted :
    (crowded 32767).store.table.Distinct ∧
      ((list "t" ann everything .read).run (Depot.answer ⟨1, "x"⟩) (crowded 32767)).1 =
        .error (.store (.database .sqlite)) ∧
      ¬ ListsOwn (crowded 32767) ⟨1, "x"⟩ "t" ann everything .read :=
  unlisted_of_many (by decide)

end Control
end ModelDepot
