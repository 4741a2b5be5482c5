import Mathlib.Data.List.Forall2
import ModelDepot.Proofs.Json.Fields

/-!
What is read from maps besides records: one of a few names that may stand in a map, and maps from texts. Main
statements: `denotes_choice`, `denotes_dict`.
-/
namespace ModelDepot.Json

variable {α : Type}

/-! ### Choices -/

namespace Reader

theorem chosen_eq_ok {choices : List (String × α)} {name : String} {input after : List UInt8} {x : α} :
    chosen choices name input = .ok (x, after) ↔ after = input ∧ choices.lookup name = some x := by
  unfold chosen
  cases choices.lookup name with
  | none => exact iff_of_false fail_ne_ok (by simp)
  | some value =>
    show Except.ok (value, input) = _ ↔ _
    simp [and_comm, eq_comm]

/-- A map is closed where no member is left. -/
theorem close_members {members : Members} {bytes rest after : List UInt8} (written : Written (.members false members) bytes) :
    close closeMap (bytes ++ rest) = .ok ((), after) ↔ after = rest ∧ members = [] := by
  unfold close
  cases written with
  | lastMember blank =>
    rw [List.append_assoc, List.singleton_append, bind_run ((peek_gap blank _).trans (peek_run rfl)), if_pos rfl]
    show Except.ok ((), rest) = _ ↔ _
    simp [eq_comm]
  | member separates =>
    obtain ⟨before, behind, blank, -, rfl⟩ := separates
    refine iff_of_false ?_ (by simp)
    rw [List.append_assoc, List.append_assoc, List.cons_append, bind_run ((peek_gap blank _).trans (peek_run rfl)),
      if_neg (by decide)]
    exact fail_ne_ok

/-- A choice in a map holds null and is the only member. -/
theorem unit_eq_ok {given : Value} {more : Members} {gap gap' bytes others rest after : List UInt8} (blank : Blank gap)
    (blankToo : Blank gap') (inner : Written (.value given) bytes) (further : Written (.members false more) others)
    {x y : α} :
    (do
      keyEnd
      if (← peek) = 0x6e then word "null" else refuse "unit"
      close closeMap
      return y : Reader α) (gap ++ colon :: (gap' ++ (bytes ++ (others ++ rest)))) = .ok (x, after) ↔
    after = rest ∧ given = .null ∧ more = [] ∧ x = y := by
  obtain ⟨c, kind, -, peeked⟩ := peek_written blankToo inner (others ++ rest)
  rw [bind_run (keyEnd_gap blank _), bind_run peeked]
  by_cases isNull : c = 0x6e
  · obtain rfl := kind.null.mp isNull
    cases inner with
    | null =>
      have read : word "null" ([0x6e, 0x75, 0x6c, 0x6c] ++ (others ++ rest)) = .ok ((), others ++ rest) := rfl
      rw [if_pos isNull, bind_run read, bind_eq_ok]
      constructor
      · rintro ⟨_, left, closed, done⟩
        obtain ⟨rfl, isLast⟩ := (close_members further).mp closed
        obtain ⟨rfl, rfl⟩ := Prod.mk.inj (Except.ok.inj done)
        exact ⟨rfl, rfl, isLast, rfl⟩
      · rintro ⟨rfl, -, isLast, rfl⟩
        exact ⟨(), _, (close_members further).mpr ⟨rfl, isLast⟩, rfl⟩
  · rw [if_neg isNull, bind_eq_ok]
    refine iff_of_false ?_ fun all => isNull (kind.null.mpr all.2.1)
    rintro ⟨_, _, refused, -⟩
    exact refuse_ne_ok refused

end Reader

/-- The value is the name of the choice, or a map from it alone to null. -/
def MeansChoice (choices : List (String × α)) (value : Value) (x : α) : Prop :=
  ∃ units name, (value = .text units ∨ value = .map [(units, .null)]) ∧ textOf? units = some name ∧
    choices.lookup name = some x

theorem denotes_choice (choices : List (String × α)) : Denotes (Reader.choice choices) (MeansChoice choices) := by
  intro value gap bytes rest after x blank written ends
  obtain ⟨b, kind, -, peeked⟩ := peek_written blank written rest
  unfold Reader.choice
  rw [Reader.bind_run peeked]
  by_cases isText : b = quoteMark
  · obtain ⟨units, rfl⟩ := kind.text.mp isText
    cases written with
    | text spelled =>
      rw [if_pos isText, List.cons_append, List.append_assoc, List.singleton_append, Reader.bind_eq_ok]
      simp only [quotedText_eq_ok spelled, Reader.chosen_eq_ok, MeansChoice]
      grind
  rw [if_neg isText]
  by_cases isMap : b = openMap
  · obtain ⟨members, rfl⟩ := kind.map.mp isMap
    cases written with
    | map inner =>
      rw [if_pos isMap, List.cons_append, Reader.bind_run (Reader.advance_run _ _)]
      dsimp only
      cases inner with
      | lastMember blank =>
        rw [List.append_assoc, List.singleton_append, Reader.bind_run ((Reader.peek_gap blank _).trans (Reader.peek_run rfl)),
          if_neg (by decide), Reader.bind_eq_ok]
        refine iff_of_false ?_ (by simp [MeansChoice])
        rintro ⟨_, _, failed, -⟩
        exact Reader.fail_ne_ok failed
      | @member _ key given more sep body gap' gap'' bytes others separates spelled blank blankToo inner further =>
        simp only [List.append_assoc, List.cons_append]
        rw [Reader.bind_run ((Reader.peek_gap separates _).trans (Reader.peek_run rfl)), if_pos rfl, Reader.bind_eq_ok]
        constructor
        · rintro ⟨name, left, quoted, read⟩
          obtain ⟨rfl, isName⟩ := (quotedText_eq_ok spelled).mp quoted
          obtain ⟨y, left, found, read⟩ := Reader.bind_eq_ok.mp read
          obtain ⟨rfl, isChoice⟩ := Reader.chosen_eq_ok.mp found
          obtain ⟨rfl, rfl, rfl, rfl⟩ := (Reader.unit_eq_ok blank blankToo inner further).mp read
          exact ⟨rfl, key, name, .inr rfl, isName, isChoice⟩
        · rintro ⟨rfl, units, name, isText | isUnit, isName, isChoice⟩
          · cases isText
          · obtain ⟨⟨rfl, rfl⟩, rfl⟩ : (key = units ∧ given = .null) ∧ more = [] := by simpa using isUnit
            refine ⟨name, _, (quotedText_eq_ok spelled).mpr ⟨rfl, isName⟩, ?_⟩
            refine Reader.bind_eq_ok.mpr ⟨x, _, Reader.chosen_eq_ok.mpr ⟨rfl, isChoice⟩, ?_⟩
            exact (Reader.unit_eq_ok blank blankToo inner further).mpr ⟨rfl, rfl, rfl, rfl⟩
  · rw [if_neg isMap]
    refine iff_of_false Reader.fail_ne_ok ?_
    rintro ⟨-, units, name, rfl | rfl, -⟩
    · exact isText (kind.text.mpr ⟨units, rfl⟩)
    · exact isMap (kind.map.mpr ⟨_, rfl⟩)

/-! ### Maps from texts -/

/-- The member stands for the entry. -/
def MeansEntry (means : Value → α → Prop) (member : List Nat × Value) (entry : String × α) : Prop :=
  textOf? member.1 = some entry.1 ∧ means member.2 entry.2

/-- The value is a map whose members stand for the entries. -/
def MeansDict (means : Value → α → Prop) (value : Value) (dict : Dict α) : Prop :=
  ∃ members entries, value = .map members ∧ List.Forall₂ (MeansEntry means) members entries ∧ dict = .ofList entries

namespace Reader
variable {read : Reader α} {means : Value → α → Prop}

theorem entriesFrom_eq_ok (denotes : Denotes read means) {members : Members} {isFirst : Bool} {bytes : List UInt8}
    (written : Written (.members isFirst members) bytes) {fuel : Nat} (enough : members.length < fuel) {done dict : Dict α}
    {rest after : List UInt8} :
    entriesFrom read fuel isFirst done (bytes ++ rest) = .ok (dict, after) ↔
      after = rest ∧ ∃ entries, List.Forall₂ (MeansEntry means) members entries ∧
        dict = entries.foldl (fun d entry => d.insert entry.1 entry.2) done := by
  induction members generalizing isFirst bytes fuel done with
  | nil =>
    obtain ⟨fuel, rfl⟩ := Nat.exists_eq_succ_of_ne_zero (Nat.ne_of_gt enough)
    cases written with
    | lastMember blank =>
      have another : anotherMember isFirst (_ ++ ([closeMap] ++ rest)) = .ok (false, closeMap :: rest) :=
        (anotherMember_gap blank isFirst _).trans (anotherMember_close isFirst rest)
      rw [entriesFrom, List.append_assoc, bind_run another, if_neg Bool.false_ne_true]
      show Except.ok (done, rest) = _ ↔ _
      simp [and_comm, eq_comm]
  | cons member more ih =>
    obtain ⟨fuel, rfl⟩ := Nat.exists_eq_succ_of_ne_zero (Nat.ne_of_gt (Nat.zero_lt_of_lt enough))
    have enoughToo : more.length < fuel := Nat.lt_of_succ_lt_succ enough
    cases written with
    | @member _ key given _ sep body gap gap' bytes others separates spelled blank blankToo inner further =>
      have ends := further.endsNumeral (.inr ⟨more, rfl⟩) rest
      have reads {x : α} {left : List UInt8} : read (gap' ++ (bytes ++ (others ++ rest))) = .ok (x, left) ↔
          left = others ++ rest ∧ means given x := denotes blankToo inner ends
      rw [entriesFrom]
      simp only [List.append_assoc, List.cons_append]
      rw [bind_run (anotherMember_separates separates _), if_pos rfl, bind_eq_ok]
      constructor
      · rintro ⟨name, left, quoted, onward⟩
        obtain ⟨rfl, isName⟩ := (quotedText_eq_ok spelled).mp quoted
        rw [bind_run (keyEnd_gap blank _)] at onward
        obtain ⟨x, left, isRead, onward⟩ := bind_eq_ok.mp onward
        obtain ⟨rfl, isValue⟩ := reads.mp isRead
        obtain ⟨rfl, entries, stand, isDict⟩ := (ih further enoughToo).mp onward
        exact ⟨rfl, (name, x) :: entries, .cons ⟨isName, isValue⟩ stand, isDict⟩
      · rintro ⟨rfl, entries, stand, isDict⟩
        cases stand with
        | @cons _ entry _ entries means stand =>
          obtain ⟨isName, isValue⟩ := means
          refine ⟨entry.1, _, (quotedText_eq_ok spelled).mpr ⟨rfl, isName⟩, ?_⟩
          rw [bind_run (keyEnd_gap blank _)]
          exact bind_eq_ok.mpr ⟨entry.2, _, reads.mpr ⟨rfl, isValue⟩, (ih further enoughToo).mpr ⟨rfl, entries, stand, isDict⟩⟩

end Reader

/-- Members are read into a map as its entries; of a repeated name the last one stays. -/
theorem denotes_dict {read : Reader α} {means : Value → α → Prop} (denotes : Denotes read means) :
    Denotes (Reader.dict read) (MeansDict means) := by
  intro value gap bytes rest after dict blank written ends
  obtain ⟨b, kind, -, peeked⟩ := peek_written blank written rest
  unfold Reader.dict
  rw [Reader.bind_run peeked]
  by_cases isMap : b = openMap
  · obtain ⟨members, rfl⟩ := kind.map.mp isMap
    cases written with
    | @map _ bytes inner =>
      have enough : members.length < (bytes ++ rest).length + 1 := by
        have below := Shape.length_lt_written inner
        rw [List.length_append]
        omega
      rw [if_pos isMap, List.cons_append, Reader.bind_run (Reader.advance_run _ _), Reader.bind_run (Reader.get_run _),
        Reader.entriesFrom_eq_ok denotes inner enough]
      simp [MeansDict, Std.ExtTreeMap.ofList_eq_foldl]
  · rw [if_neg isMap]
    refine iff_of_false Reader.refuse_ne_ok ?_
    rintro ⟨-, members, entries, rfl, -⟩
    exact isMap (kind.map.mpr ⟨members, rfl⟩)

end ModelDepot.Json
