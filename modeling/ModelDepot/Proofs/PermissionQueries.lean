import Mathlib.Data.String.Basic
import ModelDepot.Proofs.Permits

/-!
Questions to the local authority about a permission. It answers for one resource, for several ones, or with all
resources on which the caller has the permission, and lists are answered in pages. Main statement: while nothing makes
it fail, the three answers agree and the pages of any size add up to the whole list (`questions_agree`).
-/
namespace ModelDepot

/-! ### Lists in pages -/

/-- The pages of one list: it is in order, each entry once, and pages of any size that reach its end add up to it. -/
structure Pages (pages : Page → List String) : Prop where
  ascending : (pages {}).Pairwise (· < ·)
  addUp (limit count : Nat) : 0 < limit → (pages {}).length ≤ count * limit →
    (List.range count).flatMap (fun number => pages ⟨limit, number * limit⟩) = pages {}

theorem Page.cut_whole {α : Type} (entries : List α) : ({} : Page).cut entries = entries := rfl

theorem pages_cut {entries : List String} (ascending : entries.Pairwise (· < ·)) : Pages (·.cut entries) where
  ascending := ascending
  addUp limit count limited enough := by
    rw [Page.cut_whole] at enough ⊢
    simp only [Page.cut_limited limited]
    rw [flatMap_cuts, List.take_of_length_le enough]

/-! ### Entries in order -/

theorem Dict.keys_ascending {α : Type} (d : Dict α) : d.keys.Pairwise (· < ·) :=
  Std.ExtTreeMap.ordered_keys.imp compare_lt_iff_lt.mp

namespace Authority
variable {a : Authority} {caller : Caller} {topic : String} {permission : Permission}

theorem accessibleIds_ascending : (a.accessibleIds caller topic permission).Pairwise (· < ·) := by
  have all : ((a.grantsOf topic).toList.map (·.1)).Pairwise (· < ·) := by
    rw [Std.ExtTreeMap.map_fst_toList_eq_keys]
    exact Dict.keys_ascending _
  exact all.sublist (List.filter_sublist.map _)

theorem mem_answersFor {ids : List String} {id : String} :
    id ∈ a.answersFor caller topic ids permission ↔ id ∈ ids := by
  rw [Std.ExtTreeMap.mem_iff_isSome_getElem?]
  by_cases asked : id ∈ ids
  · simp [answersFor, asked]
  · simp [answersFor, asked]

end Authority

namespace LocalAuthority

/-- What the three questions about a permission are answered with: `one` says it of a single id, `many` of some ids, and
    `pages` lists the ids that have it. -/
structure Agree (a : LocalAuthority) (caller : Caller) (topic : String) (permission : Permission)
    (one : String → Bool) (many : List String → Dict Bool) (pages : Page → List String) : Prop where
  checks (id : String) : a.respond (.check caller topic id permission) = (.ok (one id), a)
  checksMany (ids : List String) : a.respond (.checkMany caller topic ids permission) = (.ok (many ids), a)
  lists (page : Page) : a.respond (.accessible caller topic page permission) = (.ok (pages page), a)
  answered (ids : List String) (id : String) : id ∈ many ids ↔ id ∈ ids
  manyAgree (ids : List String) (id : String) : id ∈ ids → (one id ↔ (many ids)[id]? = some true)
  listAgrees (id : String) : one id ↔ id ∈ pages {}
  paged : Pages pages

/-- The next call is made to fail. -/
def Failing (a : LocalAuthority) : Prop := a.outage ∨ 0 < a.failuresLeft

variable {a : LocalAuthority} {caller : Caller} {topic : String} {permission : Permission}

theorem respond_of_failing (failing : a.Failing) (call : AuthorityCall) :
    ∃ problem, (a.respond call).1 = .error (.unavailable problem) := by
  unfold respond
  split
  · exact ⟨_, rfl⟩
  · rename_i up
    rw [if_pos (failing.resolve_left up)]
    exact ⟨_, rfl⟩

/-- A call that leaves the grants as they are is answered from them. -/
theorem respond_of_not_failing (calm : ¬ a.Failing) {call : AuthorityCall}
    {answer : Except AuthorityError call.Value} (answers : a.state.respond call = (answer, a.state)) :
    a.respond call = (answer, a) := by
  obtain ⟨up, willing⟩ := not_or.mp calm
  rw [respond, if_neg up, if_neg willing, answers]

theorem agree_of_not_failing (calm : ¬ a.Failing) :
    a.Agree caller topic permission (a.state.permits caller topic · permission)
      (a.state.answersFor caller topic · permission) (·.cut (a.state.accessibleIds caller topic permission)) where
  checks id := respond_of_not_failing calm rfl
  checksMany ids := respond_of_not_failing calm rfl
  lists page := respond_of_not_failing calm rfl
  answered ids id := Authority.mem_answersFor
  manyAgree ids id asked := by rw [Authority.answersFor, Dict.getElem?_foldl_insert, if_pos asked, Option.some_inj]
  listAgrees id := Authority.mem_accessibleIds.symm
  paged := pages_cut Authority.accessibleIds_ascending

/-- While the authority is made to fail it answers nothing. Otherwise its answers about a permission agree, and its list
    of all ids with grants is in pages too. -/
theorem questions_agree (a : LocalAuthority) (caller : Caller) (topic : String) (permission : Permission) :
    (a.Failing → ∀ call, ∃ problem, (a.respond call).1 = .error (.unavailable problem)) ∧
    (¬ a.Failing → (∃ one many pages, a.Agree caller topic permission one many pages) ∧
      (a.state.isRegistered topic → ∃ listed : Page → List String,
        (∀ page, a.respond (.adminList topic page) = (.ok (listed page), a)) ∧ Pages listed)) := by
  refine ⟨respond_of_failing, fun calm => ⟨⟨_, _, _, agree_of_not_failing calm⟩, fun registered => ?_⟩⟩
  have lists (page : Page) : a.respond (.adminList topic page) = (.ok (page.cut (a.state.ids topic)), a) := by
    refine respond_of_not_failing calm ?_
    rw [Authority.respond, if_pos registered]
  exact ⟨_, lists, pages_cut (Dict.keys_ascending _)⟩

/-- Grants to a user, to a group and to nobody in particular. -/
def shared : LocalAuthority where
  state := (({} : Authority).register (.ofTopic "models")).setGrants "models" "c" (.forOwner "ada")
    |>.setGrants "models" "a" { groups := (∅ : Dict Rights).insert "planners" { read := true } }
    |>.setGrants "models" "b" {}

theorem questions_agree_shared : ¬ shared.Failing ∧ shared.state.isRegistered "models" ∧
    ∃ one many pages, shared.Agree { user := "ada", groups := ["planners"] } "models" .read one many pages ∧
      pages {} = ["a", "c"] ∧ (many ["c", "b", "x", "c"]).keys = ["b", "c", "x"] := by
  have calm : ¬ shared.Failing := by unfold Failing; decide
  let caller : Caller := { user := "ada", groups := ["planners"] }
  obtain ⟨one, many, pages, agree⟩ := ((questions_agree shared caller "models" .read).2 calm).1
  refine ⟨calm, by decide, one, many, pages, agree, ?_, ?_⟩
  · have listed : (shared.respond (.accessible caller "models" {} .read)).1 =
        .ok (shared.state.accessibleIds caller "models" .read) := rfl
    rw [agree.lists, show shared.state.accessibleIds caller "models" .read = ["a", "c"] by decide] at listed
    exact Except.ok.inj listed
  · have answers : (shared.respond (.checkMany caller "models" ["c", "b", "x", "c"] .read)).1.map Std.ExtTreeMap.keys =
        .ok ["b", "c", "x"] := rfl
    rw [agree.checksMany] at answers
    exact Except.ok.inj answers

end LocalAuthority
end ModelDepot
