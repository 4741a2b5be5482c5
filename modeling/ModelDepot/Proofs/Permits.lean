import ModelDepot.Authority.Local

/-!
What the authority answers about permissions. It is asked about one resource, about several ones, or for
all on which a caller has a permission; the three answers agree (`mem_allowed_answersFor`,
`mem_accessibleIds`).
-/
namespace ModelDepot

namespace Dict

/-- The ids for which the answer is yes, in order. -/
def allowed (answers : Dict Bool) : List String := (answers.toList.filter (·.2)).map (·.1)

@[simp]
theorem mem_allowed {answers : Dict Bool} {id : String} : id ∈ answers.allowed ↔ answers[id]? = some true := by
  unfold allowed
  simp only [List.mem_map, List.mem_filter, Prod.exists, Std.ExtTreeMap.mem_toList_iff_getElem?_eq_some]
  constructor
  · rintro ⟨other, yes, ⟨found, isYes⟩, rfl⟩
    rw [found, isYes]
  · exact fun found => ⟨id, true, ⟨found, rfl⟩, rfl⟩

theorem nodup_allowed (answers : Dict Bool) : answers.allowed.Nodup := by
  have once : (answers.toList.map (·.1)).Nodup := by
    rw [Std.ExtTreeMap.map_fst_toList_eq_keys]
    exact Std.ExtTreeMap.nodup_keys
  exact once.sublist (List.filter_sublist.map _)

@[simp] theorem getElem?_foldl_insert {α : Type} (value : String → α) (ids : List String) (m : Dict α) (id : String) :
    (ids.foldl (fun d id => d.insert id (value id)) m)[id]? = if id ∈ ids then some (value id) else m[id]? := by
  induction ids generalizing m with
  | nil => rfl
  | cons head more ih =>
    rw [List.foldl_cons, ih, Std.ExtTreeMap.getElem?_insert]
    by_cases later : id ∈ more
    · rw [if_pos later, if_pos (List.mem_cons_of_mem _ later)]
    · rw [if_neg later]
      by_cases here : head = id
      · rw [if_pos (Std.compare_eq_iff_eq.mpr here), if_pos (here ▸ List.mem_cons_self), here]
      · rw [if_neg (mt Std.compare_eq_iff_eq.mp here), if_neg]
        exact fun member => (List.mem_cons.mp member).elim (fun same => here same.symm) later

end Dict

/-- The first cuts of one length add up to the beginning of a list. -/
theorem flatMap_cuts {α : Type} (entries : List α) (length count : Nat) :
    (List.range count).flatMap (fun number => (entries.drop (number * length)).take length) =
      entries.take (count * length) := by
  induction count with
  | zero => simp
  | succ count ih =>
    rw [List.range_succ, List.flatMap_append, ih, List.flatMap_singleton, Nat.succ_mul, List.take_add]

theorem Page.cut_limited {α : Type} {limit : Nat} (limited : 0 < limit) (offset : Nat) (entries : List α) :
    Page.cut ⟨limit, offset⟩ entries = (entries.drop offset).take limit :=
  if_neg (Nat.ne_of_gt limited)

theorem Page.mem_of_cut {α : Type} {page : Page} {entries : List α} {entry : α} (member : entry ∈ page.cut entries) :
    entry ∈ entries := by
  unfold cut at member
  dsimp only at member
  split at member
  · exact List.mem_of_mem_drop member
  · exact List.mem_of_mem_drop (List.mem_of_mem_take member)

namespace Authority
variable {a : Authority} {caller : Caller} {topic id : String} {permission : Permission}

theorem permits_iff :
    a.permits caller topic id permission ↔
      ∃ grants, a.grants? topic id = some grants ∧ (caller.isAdmin ∨ grants.allowCaller caller permission) := by
  unfold permits allows
  simp only [Option.any_eq_true, Bool.or_eq_true]

/-- The caller may use a resource: as an administrator, or since its grants allow it. -/
def Clears (a : Authority) (caller : Caller) (topic id : String) (permission : Permission) : Prop :=
  caller.isAdmin ∨ ∃ grants, a.grants? topic id = some grants ∧ grants.allowCaller caller permission

theorem clears_of_permits (permitted : a.permits caller topic id permission) :
    a.Clears caller topic id permission := by
  obtain ⟨grants, granted, isAdmin | allowed⟩ := permits_iff.mp permitted
  · exact .inl isAdmin
  · exact .inr ⟨grants, granted, allowed⟩

theorem clears_iff :
    a.Clears caller topic id permission ↔ caller.isAdmin || a.permits caller topic id permission := by
  rw [Bool.or_eq_true]
  constructor
  · rintro (isAdmin | ⟨grants, granted, allowed⟩)
    · exact .inl isAdmin
    · exact .inr (permits_iff.mpr ⟨grants, granted, .inr allowed⟩)
  · rintro (isAdmin | permitted)
    · exact .inl isAdmin
    · exact clears_of_permits permitted

/-- An administrator may use resources without grants, on which nobody has a permission. -/
theorem permits_iff_clears :
    a.permits caller topic id permission ↔
      a.Clears caller topic id permission ∧ (caller.isAdmin → (a.grants? topic id).isSome) := by
  constructor
  · intro permitted
    obtain ⟨grants, granted, -⟩ := permits_iff.mp permitted
    exact ⟨clears_of_permits permitted, fun _ => Option.isSome_of_eq_some granted⟩
  · rintro ⟨isAdmin | ⟨grants, granted, allowed⟩, known⟩
    · obtain ⟨grants, granted⟩ := Option.isSome_iff_exists.mp (known isAdmin)
      exact permits_iff.mpr ⟨grants, granted, .inl isAdmin⟩
    · exact permits_iff.mpr ⟨grants, granted, .inr allowed⟩

theorem mem_accessibleIds : id ∈ a.accessibleIds caller topic permission ↔ a.permits caller topic id permission := by
  unfold accessibleIds permits grants?
  simp only [List.mem_map, List.mem_filter, Prod.exists, Std.ExtTreeMap.mem_toList_iff_getElem?_eq_some,
    Option.any_eq_true]
  constructor
  · rintro ⟨other, grants, found, rfl⟩
    exact ⟨grants, found⟩
  · rintro ⟨grants, found⟩
    exact ⟨id, grants, found, rfl⟩

/-- The answers for several ids. -/
def answersFor (a : Authority) (caller : Caller) (topic : String) (ids : List String) (permission : Permission) :
    Dict Bool :=
  ids.foldl (fun d id => d.insert id (a.permits caller topic id permission)) ∅

theorem mem_allowed_answersFor {ids : List String} :
    id ∈ (a.answersFor caller topic ids permission).allowed ↔ id ∈ ids ∧ a.permits caller topic id permission := by
  by_cases asked : id ∈ ids
  · simp [answersFor, asked]
  · simp [answersFor, asked]

end Authority
end ModelDepot
