import ModelDepot.Json.Shape
import ModelDepot.Proofs.Json.Values

/-!
A printed record is read member by member: each one that was written is put back, in the order in which
they stand, and the others stay as they are in the blank record.
-/
namespace ModelDepot.Json

/-! ### What is printed -/

/-- The bytes of members, each but the first of all after a comma, up to the closing mark. -/
def memberBytes : Bool → List (String × String) → List UInt8
  | _, [] => [closeMap]
  | isFirst, (name, text) :: more =>
    (if isFirst then [] else [comma]) ++ (utf8 (printText name) ++ colon :: (utf8 text ++ memberBytes false more))

theorem utf8_printMember (member : String × String) :
    utf8 (printMember member) = utf8 (printText member.1) ++ colon :: utf8 member.2 := by
  simp [printMember]
  rfl

/-- Joined texts are the first one, and each other one behind the mark. -/
theorem utf8_intercalate (mark text : String) (more : List String) :
    utf8 (mark.intercalate (text :: more)) = utf8 text ++ more.flatMap fun next => utf8 mark ++ utf8 next := by
  induction more generalizing text with
  | nil => rw [String.intercalate_singleton, List.flatMap_nil, List.append_nil]
  | cons next more ih =>
    rw [String.intercalate_cons_cons, utf8_append, utf8_append, ih, List.flatMap_cons, List.append_assoc, List.append_assoc]

theorem memberBytes_further (members : List (String × String)) :
    memberBytes false members = (members.flatMap fun member => comma :: utf8 (printMember member)) ++ [closeMap] := by
  induction members with
  | nil => rfl
  | cons member more ih => simp [memberBytes, ih, utf8_printMember]

theorem utf8_printMembers (members : List (String × String)) :
    utf8 (printMembers members) = openMap :: memberBytes true members := by
  cases members with
  | nil => rfl
  | cons member more =>
    rw [printMembers, utf8_append, utf8_append, List.map_cons, utf8_intercalate, utf8_printMember, memberBytes,
      memberBytes_further, List.flatMap_map]
    simp only [List.append_assoc, List.cons_append]
    rfl

theorem endsNumeral_memberBytes (members : List (String × String)) (rest : List UInt8) :
    EndsNumeral (memberBytes false members ++ rest) := by
  intro b first
  cases members with
  | nil =>
    obtain rfl := Option.some.inj first
    decide
  | cons member more =>
    obtain rfl := Option.some.inj first
    decide

theorem length_lt_memberBytes (isFirst : Bool) (members : List (String × String)) :
    members.length < (memberBytes isFirst members).length := by
  induction members generalizing isFirst with
  | nil => exact Nat.one_pos
  | cons member more ih =>
    have below := ih false
    simp only [memberBytes, List.length_cons, List.length_append]
    omega

/-! ### How it is read -/

namespace Reader

@[simp] theorem anotherMember_close (isFirst : Bool) (more : List UInt8) :
    anotherMember isFirst (closeMap :: more) = .ok (false, closeMap :: more) := by
  unfold anotherMember
  rw [bind_run (peek?_run fun b first => by rw [← Option.some.inj first]; rfl)]
  rfl

@[simp] theorem anotherMember_quote (isFirst : Bool) (more : List UInt8) :
    anotherMember isFirst ((if isFirst then [] else [comma]) ++ quoteMark :: more) = .ok (true, quoteMark :: more) := by
  unfold anotherMember
  cases isFirst with
  | true =>
    rw [bind_run (peek?_run fun b first => by rw [← Option.some.inj first]; rfl)]
    rfl
  | false =>
    rw [bind_run (peek?_run fun b first => by rw [← Option.some.inj first]; rfl)]
    have peeked : peek (quoteMark :: more) = .ok (quoteMark, quoteMark :: more) := peek_run rfl
    show (advance >>= fun _ => _) (comma :: quoteMark :: more) = _
    rw [bind_run (advance_run _ _), bind_run peeked]
    rfl

@[simp] theorem keyEnd_run (more : List UInt8) : keyEnd (colon :: more) = .ok ((), more) := by
  unfold keyEnd
  rw [bind_run (peek_run rfl), if_pos rfl]
  rfl

end Reader

variable {σ : Type}

/-- Reading back what is written of some members of a record makes the first of two records the other. -/
inductive Rereads (value : σ) : List (Member σ) → σ → σ → Prop
  | nil {current : σ} : Rereads value [] current current
  | absent {m : Member σ} {more : List (Member σ)} {current final : σ} (unwritten : m.print value = none)
      (optional : m.required = false) (further : Rereads value more current final) :
    Rereads value (m :: more) current final
  | written {m : Member σ} {more : List (Member σ)} {current final : σ} {text : String} {put : σ → σ}
      (printed : m.print value = some text) (takes : Takes m.read (utf8 text) put)
      (further : Rereads value more (put current) final) : Rereads value (m :: more) current final

section Names
variable {ι : Type} (member : ι → Member σ) {before after : List ι} {m : ι}
  (distinct : (before ++ m :: after).Pairwise fun earlier later => (member earlier).answersTo (member later).name = false)
include distinct

theorem unanswered_of_pairwise : ∀ other ∈ before, (member other).answersTo (member m).name = false :=
  fun other earlier => (List.pairwise_append.mp distinct).2.2 other earlier m List.mem_cons_self

/-- A member is found under its name where none before it is read under this name. -/
theorem find?_of_pairwise : (before ++ m :: after).find? (fun other => (member other).answersTo (member m).name) = some m := by
  have own : (member m).answersTo (member m).name := by simp [Member.answersTo]
  rw [List.find?_append, List.find?_eq_none.mpr fun other earlier => by simp [unanswered_of_pairwise member distinct other earlier],
    Option.none_or, List.find?_cons, own]

theorem name_ne_of_pairwise : ∀ other ∈ before, (member other).name ≠ (member m).name := by
  intro other earlier same
  have answers := unanswered_of_pairwise member distinct other earlier
  simp [Member.answersTo, same] at answers

end Names

namespace Shape
variable {shape : Shape σ}

/-- The members of a list that are written, with the text of their values. -/
def printedOf (value : σ) (members : List (Member σ)) : List (String × String) :=
  members.filterMap fun m => (m.print value).map (m.name, ·)

theorem printedOf_absent {value : σ} {m : Member σ} (unwritten : m.print value = none) (more : List (Member σ)) :
    printedOf value (m :: more) = printedOf value more := by
  rw [printedOf, List.filterMap_cons, unwritten, Option.map_none]
  rfl

theorem printedOf_written {value : σ} {m : Member σ} {text : String} (printed : m.print value = some text)
    (more : List (Member σ)) : printedOf value (m :: more) = (m.name, text) :: printedOf value more := by
  rw [printedOf, List.filterMap_cons, printed, Option.map_some]
  rfl

/-- No member of the shape is read under the name of a later one. -/
def Distinct (shape : Shape σ) : Prop :=
  shape.members.Pairwise fun earlier later => earlier.answersTo later.name = false

theorem find?_of_distinct (distinct : shape.Distinct) {before after : List (Member σ)} {m : Member σ}
    (split : shape.members = before ++ m :: after) : shape.members.find? (·.answersTo m.name) = some m := by
  rw [Distinct, split] at distinct
  rw [split]
  exact find?_of_pairwise id distinct

theorem unseen_of_distinct (distinct : shape.Distinct) {before after : List (Member σ)} {m : Member σ}
    (split : shape.members = before ++ m :: after) {seen : List String}
    (known : ∀ name ∈ seen, ∃ other ∈ before, other.name = name) : seen.contains m.name = false := by
  rw [Bool.eq_false_iff]
  intro repeated
  obtain ⟨other, member, same⟩ := known m.name (List.contains_iff_mem.mp repeated)
  rw [Distinct, split] at distinct
  exact name_ne_of_pairwise id distinct other member same

theorem firstMissing?_eq_none {seen : List String} (complete : ∀ m ∈ shape.members, m.required → m.name ∈ seen) :
    shape.firstMissing? seen = none := by
  unfold firstMissing?
  rw [Option.map_eq_none_iff, List.find?_eq_none]
  intro m member missing
  simp only [Bool.and_eq_true, Bool.not_eq_true', List.contains_eq_mem, decide_eq_false_iff_not] at missing
  exact missing.2 (complete m member missing.1)

/-- The members that are still to be read, after those before them. -/
theorem readNamed_run (distinct : shape.Distinct) {value current final : σ} {before members : List (Member σ)}
    (rereads : Rereads value members current final) (split : shape.members = before ++ members) {seen : List String}
    (known : ∀ name ∈ seen, ∃ other ∈ before, other.name = name)
    (complete : ∀ m ∈ before, m.required → m.name ∈ seen) (isFirst : Bool) {fuel : Nat}
    (enough : (printedOf value members).length < fuel) (rest : List UInt8) :
    shape.readNamed fuel isFirst seen current
        (memberBytes isFirst (printedOf value members) ++ rest) =
      .ok (final, rest) := by
  induction rereads generalizing before seen isFirst fuel with
  | nil =>
    obtain ⟨fuel, rfl⟩ := Nat.exists_eq_succ_of_ne_zero (Nat.ne_of_gt enough)
    rw [List.append_nil] at split
    unfold readNamed
    rw [printedOf, List.filterMap_nil, memberBytes, List.singleton_append,
      Reader.bind_run (Reader.anotherMember_close _ _)]
    simp only [Bool.false_eq_true, ↓reduceIte, firstMissing?_eq_none (split ▸ complete)]
    rfl
  | @absent m more current final unwritten optional further ih =>
    rw [printedOf_absent unwritten] at enough ⊢
    have splitLater : shape.members = (before ++ [m]) ++ more := by rw [split, List.append_assoc, List.singleton_append]
    refine ih splitLater ?_ ?_ isFirst enough
    · intro name member
      obtain ⟨other, earlier, same⟩ := known name member
      exact ⟨other, List.mem_append_left _ earlier, same⟩
    · intro other member required
      rcases List.mem_append.mp member with old | new
      · exact complete other old required
      · rw [List.mem_singleton.mp new, optional] at required
        cases required
  | @written m more current final text put printed takes further ih =>
    rw [printedOf_written printed] at enough ⊢
    obtain ⟨fuel, rfl⟩ := Nat.exists_eq_succ_of_ne_zero (Nat.ne_of_gt (Nat.zero_lt_of_lt enough))
    have splitLater : shape.members = (before ++ [m]) ++ more := by rw [split, List.append_assoc, List.singleton_append]
    have knownLater : ∀ name ∈ m.name :: seen, ∃ other ∈ before ++ [m], other.name = name := by
      intro name member
      rcases List.mem_cons.mp member with rfl | old
      · exact ⟨m, List.mem_append_right _ (List.mem_singleton.mpr rfl), rfl⟩
      · obtain ⟨other, earlier, same⟩ := known name old
        exact ⟨other, List.mem_append_left _ earlier, same⟩
    have completeLater : ∀ other ∈ before ++ [m], other.required → other.name ∈ m.name :: seen := by
      intro other member required
      rcases List.mem_append.mp member with old | new
      · exact List.mem_cons_of_mem _ (complete other old required)
      · rw [List.mem_singleton.mp new]
        exact List.mem_cons_self
    have onward := ih splitLater knownLater completeLater false (Nat.lt_of_succ_lt_succ enough)
    obtain ⟨bytes, spelled⟩ : ∃ bytes, utf8 (printText m.name) = quoteMark :: bytes := ⟨_, utf8_printText m.name⟩
    have key := Reader.quotedText_run m.name
      (colon :: (utf8 text ++ memberBytes false (printedOf value more)) ++ rest)
    have another := Reader.anotherMember_quote isFirst
      (bytes ++ (colon :: (utf8 text ++ memberBytes false (printedOf value more)) ++ rest))
    rw [← List.cons_append, ← spelled] at another
    unfold readNamed
    rw [memberBytes, List.append_assoc, List.append_assoc, Reader.bind_run another, if_pos rfl, Reader.bind_run key,
      find?_of_distinct distinct split]
    dsimp only
    rw [unseen_of_distinct distinct split known, if_neg Bool.false_ne_true, List.cons_append,
      Reader.bind_run (Reader.keyEnd_run _), List.append_assoc,
      Reader.bind_run (takes _ (endsNumeral_memberBytes _ _))]
    exact onward

/-- A record that is printed is read as what its printed members make of the blank one. -/
theorem takes_print (distinct : shape.Distinct) {value final : σ}
    (rereads : Rereads value shape.members shape.blank final) :
    Takes shape.read (utf8 (shape.print value)) final := by
  intro rest _
  have enough := length_lt_memberBytes true (printedOf value shape.members)
  unfold read
  rw [print, utf8_printMembers, List.cons_append, Reader.bind_run (Reader.peek_run rfl), if_pos rfl,
    Reader.bind_run (Reader.advance_run _ _), Reader.bind_run (Reader.get_run _)]
  have all : shape.members = [] ++ shape.members := rfl
  refine readNamed_run distinct rereads all (fun _ member => (List.not_mem_nil member).elim)
    (fun _ member => (List.not_mem_nil member).elim) true ?_ rest
  rw [printed, List.length_append]
  exact Nat.lt_of_lt_of_le enough (by simp only [printedOf]; omega)

end Shape
end ModelDepot.Json
