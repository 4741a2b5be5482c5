import Mathlib.Data.List.Pairwise
import Mathlib.Logic.Relation
import ModelDepot.Proofs.Json.Fields

/-!
A record does not depend on the order of its members, nor on members that it does not know (`fills_iff_of_rearranged`).
-/
namespace ModelDepot.Json

variable {σ : Type} {fields : List (RecordField σ)}

/-- It does not matter which of the two fields is put first. -/
def RecordField.Commutes (field other : RecordField σ) : Prop :=
  ∀ ⦃given given' : Value⦄ ⦃put put' : σ → σ⦄, field.means given put → other.means given' put' →
    ∀ value, put (put' value) = put' (put value)

/-- The fields are about different parts of the record. -/
def Independent (fields : List (RecordField σ)) : Prop := fields.Pairwise RecordField.Commutes

theorem Independent.commutes (independent : Independent fields) {field other : RecordField σ} (isField : field ∈ fields)
    (isOther : other ∈ fields) (different : field.member.name ≠ other.member.name) : field.Commutes other := by
  have : Std.Symm (@RecordField.Commutes σ) :=
    ⟨fun _ _ commutes _ _ _ _ isFirst isSecond value => (commutes isSecond isFirst value).symm⟩
  exact independent.forall isField isOther fun same => different (by rw [same])

theorem mem_of_fieldOf? {name : String} {field : RecordField σ} (found : fieldOf? fields name = some field) :
    field ∈ fields :=
  List.mem_of_find?_eq_some found

/-- It only matters which names were seen. -/
theorem Fills.seen {members : Members} {seen seen' : List String} {value result : σ}
    (same : ∀ name, name ∈ seen ↔ name ∈ seen') (fills : Fills fields members seen value result) :
    Fills fields members seen' value result := by
  induction members generalizing seen seen' value with
  | nil =>
    obtain ⟨complete, rfl⟩ := fills
    exact ⟨fun field member required => (same _).mp (complete field member required), rfl⟩
  | cons member more ih =>
    obtain ⟨name, isName, ⟨unknown, fills⟩ | ⟨field, put, found, unseen, isPut, fills⟩⟩ := fills
    · exact ⟨name, isName, .inl ⟨unknown, ih same fills⟩⟩
    · refine ⟨name, isName, .inr ⟨field, put, found, fun isSeen => unseen ((same _).mpr isSeen), isPut, ?_⟩⟩
      exact ih (fun other => by simp [same]) fills

/-- Two members may change places. -/
theorem Fills.swap (independent : Independent fields) {first second : List Nat × Value} {members : Members} {seen : List String}
    {value result : σ} (fills : Fills fields (first :: second :: members) seen value result) :
    Fills fields (second :: first :: members) seen value result := by
  obtain ⟨name, isName, ⟨unknown, fills⟩ | ⟨field, put, found, unseen, isPut, fills⟩⟩ := fills
  · obtain ⟨name', isName', ⟨unknown', fills⟩ | ⟨field', put', found', unseen', isPut', fills⟩⟩ := fills
    · exact ⟨name', isName', .inl ⟨unknown', name, isName, .inl ⟨unknown, fills⟩⟩⟩
    · exact ⟨name', isName', .inr ⟨field', put', found', unseen', isPut', name, isName, .inl ⟨unknown, fills⟩⟩⟩
  · obtain ⟨name', isName', ⟨unknown', fills⟩ | ⟨field', put', found', unseen', isPut', fills⟩⟩ := fills
    · exact ⟨name', isName', .inl ⟨unknown', name, isName, .inr ⟨field, put, found, unseen, isPut, fills⟩⟩⟩
    · -- no field is given twice, so these are two fields, and either may be put first
      obtain ⟨different, unseen'⟩ := not_or.mp (mt List.mem_cons.mpr unseen')
      have commutes := independent.commutes (mem_of_fieldOf? found) (mem_of_fieldOf? found') (Ne.symm different)
      have unseenToo : field.member.name ∉ field'.member.name :: seen := by simpa using ⟨Ne.symm different, unseen⟩
      refine ⟨name', isName', .inr ⟨field', put', found', unseen', isPut', name, isName,
        .inr ⟨field, put, found, unseenToo, isPut, ?_⟩⟩⟩
      rw [commutes isPut isPut']
      exact fills.seen fun other => by simp [or_left_comm]

theorem Fills.perm (independent : Independent fields) {members members' : Members} (perm : members.Perm members') :
    ∀ {seen : List String} {value result : σ}, Fills fields members seen value result →
      Fills fields members' seen value result := by
  induction perm with
  | nil => exact id
  | cons member _ ih =>
    rintro seen value result ⟨name, isName, ⟨unknown, fills⟩ | ⟨field, put, found, unseen, isPut, fills⟩⟩
    · exact ⟨name, isName, .inl ⟨unknown, ih fills⟩⟩
    · exact ⟨name, isName, .inr ⟨field, put, found, unseen, isPut, ih fills⟩⟩
  | swap first second members => exact Fills.swap independent
  | trans _ _ ih ih' => exact fun fills => ih' (ih fills)

/-! ### Rearranged members -/

/-- One change of members that the fields of these names do not notice. -/
inductive Rearranges (names : List String) : Members → Members → Prop where
  | reorder {members members' : Members} (perm : members.Perm members') : Rearranges names members members'
  | add {key : List Nat} {name : String} (isKey : textOf? key = some name) (other : name ∉ names) (given : Value)
      (members : Members) : Rearranges names members ((key, given) :: members)

theorem fills_iff_of_rearranges {names : List String} (independent : Independent fields)
    (known : ∀ field ∈ fields, ∀ name, field.member.answersTo name → name ∈ names) {members members' : Members}
    (rearranges : Rearranges names members members') {seen : List String} {value result : σ} :
    Fills fields members seen value result ↔ Fills fields members' seen value result := by
  cases rearranges with
  | reorder perm => exact ⟨Fills.perm independent perm, Fills.perm independent perm.symm⟩
  | @add key name isKey other given members =>
    have unknown : fieldOf? fields name = none :=
      List.find?_eq_none.mpr fun field member answers => other (known field member name answers)
    simp [Fills, isKey, unknown]

end ModelDepot.Json
