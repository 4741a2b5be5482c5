import ModelDepot.Proofs.Json.Meanings
import ModelDepot.Proofs.Json.Records

/-!
What a written record means: its known members put into the blank record, whatever stands beside them. Main statement:
`denotes_record`.
-/
namespace ModelDepot.Json

variable {σ : Type}

/-- A member, with what a value means for it. -/
structure RecordField (σ : Type) where
  member : Member σ
  means : Value → (σ → σ) → Prop
  denotes : Denotes member.read means

namespace RecordField

def text (name : String) (get : σ → String) (set : String → σ → σ) : RecordField σ :=
  ⟨.text name get set, _, denotes_map denotes_text set⟩

def flag (name : String) (get : σ → Bool) (set : Bool → σ → σ) : RecordField σ :=
  ⟨.flag name get set, _, denotes_map denotes_flag set⟩

def stamp (name : String) (get : σ → Int64) (set : Int64 → σ → σ) : RecordField σ :=
  ⟨.stamp name get set, _, denotes_map denotes_stamp set⟩

def optional {α : Type} {read : Reader α} {means : Value → α → Prop} (denotes : Denotes read means) (name : String)
    (print : α → String) (get : σ → Option α) (set : Option α → σ → σ) : RecordField σ :=
  ⟨.optional name read print get set, _, denotes_map (denotes_nullable denotes) set⟩

def needed (field : RecordField σ) : RecordField σ := ⟨field.member.needed, field.means, field.denotes⟩

def alsoNamed (field : RecordField σ) (other : String) : RecordField σ :=
  ⟨field.member.alsoNamed other, field.means, field.denotes⟩

end RecordField

/-- The field of a name. -/
def fieldOf? (fields : List (RecordField σ)) (name : String) : Option (RecordField σ) :=
  fields.find? (·.member.answersTo name)

/-- The members make one record of another, where some names were seen before. Each field is given at most once, and
    members that are none are passed over. -/
def Fills (fields : List (RecordField σ)) : Members → List String → σ → σ → Prop
  | [], seen, value, result => (∀ field ∈ fields, field.member.required → field.member.name ∈ seen) ∧ result = value
  | (key, given) :: more, seen, value, result =>
    ∃ name, textOf? key = some name ∧
      ((fieldOf? fields name = none ∧ Fills fields more seen value result) ∨
        ∃ field put, fieldOf? fields name = some field ∧ field.member.name ∉ seen ∧ field.means given put ∧
          Fills fields more (field.member.name :: seen) (put value) result)

/-- The items are the values of the fields in order, of which the last ones may be absent. -/
def FillsInOrder : List (RecordField σ) → List Value → σ → σ → Prop
  | [], items, value, result => items = [] ∧ result = value
  | field :: more, [], value, result => field.member.required = false ∧ FillsInOrder more [] value result
  | field :: more, given :: items, value, result =>
    ∃ put, field.means given put ∧ FillsInOrder more items (put value) result

/-- The value stands for the record. -/
def MeansRecord (fields : List (RecordField σ)) (blank : σ) : Value → σ → Prop
  | .map members, result => Fills fields members [] blank result
  | .list items, result => FillsInOrder fields items blank result
  | _, _ => False

namespace Reader

theorem anotherMember_gap {gap : List UInt8} (blank : Blank gap) (isFirst : Bool) (rest : List UInt8) :
    anotherMember isFirst (gap ++ rest) = anotherMember isFirst rest := by
  unfold anotherMember
  simp only [bind, StateT.bind, peek?_gap blank]

theorem anotherMember_separates {isFirst : Bool} {sep : List UInt8} (separates : Separates isFirst sep) (more : List UInt8) :
    anotherMember isFirst (sep ++ quoteMark :: more) = .ok (true, quoteMark :: more) := by
  cases isFirst with
  | true => exact (anotherMember_gap separates true _).trans (anotherMember_quote true more)
  | false =>
    obtain ⟨before, after, blank, blankToo, rfl⟩ := separates
    have peeked : peek (after ++ quoteMark :: more) = .ok (quoteMark, quoteMark :: more) := by
      rw [peek_gap blankToo]
      exact peek_run rfl
    rw [List.append_assoc, anotherMember_gap blank, List.cons_append]
    unfold anotherMember
    rw [bind_run (peek?_run fun b first => by rw [← Option.some.inj first]; rfl)]
    show (advance >>= fun _ => _) (comma :: (after ++ quoteMark :: more)) = _
    rw [bind_run (advance_run _ _), bind_run peeked]
    rfl

theorem keyEnd_gap {gap : List UInt8} (blank : Blank gap) (more : List UInt8) :
    keyEnd (gap ++ colon :: more) = .ok ((), more) := by
  rw [← keyEnd_run more]
  unfold keyEnd
  simp only [bind, StateT.bind, peek_gap blank]

theorem skip_written {value : Value} {gap bytes rest : List UInt8} (blank : Blank gap)
    (written : Written (.value value) bytes) (ends : EndsNumeral rest) : skip (gap ++ (bytes ++ rest)) = .ok ((), rest) := by
  show (skipValue (gap ++ (bytes ++ rest))).map ((), ·) = _
  rw [skipValue_written blank written ends]
  rfl

theorem anotherElement_gap {gap : List UInt8} (blank : Blank gap) (isFirst : Bool) (rest : List UInt8) :
    anotherElement isFirst (gap ++ rest) = anotherElement isFirst rest := by
  unfold anotherElement
  simp only [bind, StateT.bind, peek?_gap blank]

theorem anotherElement_close {gap : List UInt8} (blank : Blank gap) (isFirst : Bool) (more : List UInt8) :
    anotherElement isFirst (gap ++ closeList :: more) = .ok (false, closeList :: more) := by
  rw [anotherElement_gap blank]
  unfold anotherElement
  rw [bind_run (peek?_run fun b first => by rw [← Option.some.inj first]; rfl)]
  rfl

theorem anotherElement_separates {isFirst : Bool} {sep : List UInt8} (separates : Separates isFirst sep) {value : Value}
    {bytes : List UInt8} (written : Written (.value value) bytes) (rest : List UInt8) :
    anotherElement isFirst (sep ++ (bytes ++ rest)) = .ok (true, bytes ++ rest) := by
  obtain ⟨b, more, rfl, opens⟩ := written.opens
  obtain ⟨solid, noClose, -, -⟩ := opens.solid
  cases isFirst with
  | true =>
    rw [anotherElement_gap separates]
    unfold anotherElement
    rw [List.cons_append, bind_run (peek?_run fun c first => by rw [← Option.some.inj first]; exact solid)]
    simp only [List.head?_cons, noClose, ↓reduceIte]
    rfl
  | false =>
    obtain ⟨before, after, blank, blankToo, rfl⟩ := separates
    have peeked : peek (after ++ (b :: more ++ rest)) = .ok (b, b :: more ++ rest) := by
      rw [peek_gap blankToo]
      exact peek_run solid
    rw [List.append_assoc, anotherElement_gap blank, List.cons_append]
    unfold anotherElement
    rw [bind_run (peek?_run fun c first => by rw [← Option.some.inj first]; rfl)]
    show (advance >>= fun _ => _) (comma :: (after ++ (b :: more ++ rest))) = _
    rw [bind_run (advance_run _ _), bind_run peeked, if_neg noClose]
    rfl

theorem close_run {gap : List UInt8} (blank : Blank gap) (more : List UInt8) :
    close closeList (gap ++ closeList :: more) = .ok ((), more) := by
  unfold close
  rw [bind_run ((peek_gap blank _).trans (peek_run rfl)), if_pos rfl]
  rfl

theorem close_other {gap : List UInt8} (blank : Blank gap) {b : UInt8} (solid : isSpace b = false) (other : b ≠ closeList)
    (more : List UInt8) {after : List UInt8} : close closeList (gap ++ b :: more) ≠ .ok ((), after) := by
  unfold close
  rw [bind_run ((peek_gap blank _).trans (peek_run solid)), if_neg other]
  exact fail_ne_ok

/-- Nothing is closed where another element comes. -/
theorem close_ne_ok {isFirst : Bool} {sep : List UInt8} (separates : Separates isFirst sep) {value : Value}
    {bytes rest after : List UInt8} (written : Written (.value value) bytes) :
    close closeList (sep ++ (bytes ++ rest)) ≠ .ok ((), after) := by
  obtain ⟨b, more, rfl, opens⟩ := written.opens
  cases isFirst with
  | true => exact close_other separates opens.solid.1 opens.solid.2.1 _
  | false =>
    obtain ⟨before, behind, blank, -, rfl⟩ := separates
    rw [List.append_assoc, List.cons_append]
    exact close_other blank rfl (by decide) _

end Reader

namespace Shape
variable {shape : Shape σ} {fields : List (RecordField σ)}

theorem find?_members (known : shape.members = fields.map (·.member)) (name : String) :
    shape.members.find? (·.answersTo name) = (fieldOf? fields name).map (·.member) := by
  rw [known, List.find?_map]
  rfl

theorem firstMissing?_eq_none_iff (known : shape.members = fields.map (·.member)) {seen : List String} :
    shape.firstMissing? seen = none ↔ ∀ field ∈ fields, field.member.required → field.member.name ∈ seen := by
  unfold firstMissing?
  rw [Option.map_eq_none_iff, List.find?_eq_none, known]
  simp

/-- One member that is written, and what is read after it. -/
theorem readNamed_member (known : shape.members = fields.map (·.member)) {isFirst : Bool} {key : List Nat} {given : Value}
    {sep body gap gap' bytes others rest after : List UInt8} (separates : Separates isFirst sep) (spelled : Spelled key body)
    (blank : Blank gap) (blankToo : Blank gap') (inner : Written (.value given) bytes) (ends : EndsNumeral (others ++ rest))
    (fuel : Nat) {seen : List String} {value result : σ} :
    shape.readNamed (fuel + 1) isFirst seen value
        (sep ++ quoteMark :: (body ++ quoteMark :: (gap ++ colon :: (gap' ++ (bytes ++ others)))) ++ rest) =
      .ok (result, after) ↔
    ∃ name, textOf? key = some name ∧
      ((fieldOf? fields name = none ∧ shape.readNamed fuel false seen value (others ++ rest) = .ok (result, after)) ∨
        ∃ field put, fieldOf? fields name = some field ∧ field.member.name ∉ seen ∧ field.means given put ∧
          shape.readNamed fuel false (field.member.name :: seen) (put value) (others ++ rest) = .ok (result, after)) := by
  rw [readNamed]
  simp only [List.append_assoc, List.cons_append]
  rw [Reader.bind_run (Reader.anotherMember_separates separates _), if_pos rfl, Reader.bind_eq_ok]
  simp only [quotedText_eq_ok spelled, find?_members known]
  cases isName : textOf? key with
  | none => simp
  | some name =>
    simp only [Option.some.injEq, and_assoc, exists_eq_left', exists_eq_left]
    cases found : fieldOf? fields name with
    | none =>
      simp only [Option.map_none, true_and, reduceCtorEq, false_and, exists_false, or_false]
      rw [Reader.bind_run (Reader.keyEnd_gap blank _), Reader.bind_run (Reader.skip_written blankToo inner ends)]
    | some field =>
      simp only [Option.map_some, reduceCtorEq, false_and, Option.some.injEq, false_or]
      by_cases repeated : seen.contains field.member.name
      · -- a field that is given again is refused, which is what the names seen before are kept for
        rw [if_pos repeated]
        refine iff_of_false Reader.fail_ne_ok ?_
        rintro ⟨other, -, rfl, unseen, -⟩
        exact unseen (List.contains_iff_mem.mp repeated)
      · have unseen : field.member.name ∉ seen := fun isSeen => repeated (List.contains_iff_mem.mpr isSeen)
        rw [if_neg repeated, Reader.bind_run (Reader.keyEnd_gap blank _), Reader.bind_eq_ok]
        constructor
        · rintro ⟨put, left, read, onward⟩
          obtain ⟨rfl, isPut⟩ := (field.denotes blankToo inner ends).mp read
          exact ⟨field, put, rfl, unseen, isPut, onward⟩
        · rintro ⟨other, put, rfl, -, isPut, onward⟩
          exact ⟨put, _, (field.denotes blankToo inner ends).mpr ⟨rfl, isPut⟩, onward⟩

/-- What is read where the members end. -/
theorem readNamed_closed (known : shape.members = fields.map (·.member)) {isFirst : Bool} {gap rest after : List UInt8}
    (blank : Blank gap) (fuel : Nat) {seen : List String} {value result : σ} :
    shape.readNamed (fuel + 1) isFirst seen value (gap ++ [closeMap] ++ rest) = .ok (result, after) ↔
      after = rest ∧ Fills fields [] seen value result := by
  have another : Reader.anotherMember isFirst (gap ++ ([closeMap] ++ rest)) = .ok (false, closeMap :: rest) :=
    (Reader.anotherMember_gap blank isFirst _).trans (Reader.anotherMember_close isFirst rest)
  rw [readNamed, List.append_assoc, Reader.bind_run another, if_neg Bool.false_ne_true, Fills,
    ← firstMissing?_eq_none_iff known]
  cases missing : shape.firstMissing? seen with
  | some name => exact iff_of_false Reader.fail_ne_ok (by simp)
  | none =>
    have closed : (do Reader.advance; return value : Reader σ) (closeMap :: rest) = .ok (value, rest) := rfl
    simp only [closed]
    simp [and_comm, eq_comm]

/-- Members that are written are read as what they make of the record so far. -/
theorem readNamed_eq_ok (known : shape.members = fields.map (·.member)) {members : Members} {isFirst : Bool}
    {bytes : List UInt8} (written : Written (.members isFirst members) bytes) {fuel : Nat} (enough : members.length < fuel)
    {seen : List String} {value result : σ} {rest after : List UInt8} :
    shape.readNamed fuel isFirst seen value (bytes ++ rest) = .ok (result, after) ↔
      after = rest ∧ Fills fields members seen value result := by
  induction members generalizing isFirst bytes fuel seen value with
  | nil =>
    obtain ⟨fuel, rfl⟩ := Nat.exists_eq_succ_of_ne_zero (Nat.ne_of_gt enough)
    cases written with
    | lastMember blank => exact readNamed_closed known blank fuel
  | cons member more ih =>
    obtain ⟨fuel, rfl⟩ := Nat.exists_eq_succ_of_ne_zero (Nat.ne_of_gt (Nat.zero_lt_of_lt enough))
    have enoughToo : more.length < fuel := Nat.lt_of_succ_lt_succ enough
    cases written with
    | member separates spelled blank blankToo inner further =>
      have ends := further.endsNumeral (.inr ⟨more, rfl⟩) rest
      rw [readNamed_member known separates spelled blank blankToo inner ends fuel, Fills]
      simp only [ih further enoughToo]
      grind

/-- Items that are written are read as the fields in order. -/
theorem readListed_eq_ok {fields : List (RecordField σ)} {items : List Value} {isFirst : Bool} {bytes : List UInt8}
    (written : Written (.items isFirst items) bytes) {index : Nat} (place : (index == 0) = isFirst) {value result : σ}
    {rest after : List UInt8} :
    shape.readListed (fields.map (·.member)) index value (bytes ++ rest) = .ok (result, after) ↔
      after = rest ∧ FillsInOrder fields items value result := by
  induction fields generalizing items isFirst index bytes value with
  | nil =>
    simp only [List.map_nil, readListed]
    cases written with
    | lastItem blank =>
      rw [List.append_assoc, List.singleton_append, Reader.bind_run (Reader.close_run blank _), FillsInOrder]
      show Except.ok (value, rest) = _ ↔ _
      simp [and_comm, eq_comm]
    | item separates inner further =>
      rw [List.append_assoc, List.append_assoc, Reader.bind_eq_ok]
      refine iff_of_false ?_ (by simp [FillsInOrder])
      rintro ⟨_, left, closed, -⟩
      exact Reader.close_ne_ok separates inner closed
  | cons field more ih =>
    simp only [List.map_cons, readListed, place]
    cases written with
    | @lastItem _ gap blank =>
      rw [List.append_assoc, List.singleton_append, Reader.bind_run (Reader.anotherElement_close blank _ _),
        if_neg Bool.false_ne_true, FillsInOrder]
      have last : Written (.items isFirst []) ([] ++ [closeList]) := .lastItem blank_nil
      cases required : field.member.required with
      | true => exact iff_of_false Reader.fail_ne_ok (by simp)
      | false =>
        rw [if_neg Bool.false_ne_true]
        simpa using ih last place
    | @item _ given items sep bytes others separates inner further =>
      have ends := further.endsNumeral (.inl ⟨items, rfl⟩) rest
      rw [List.append_assoc, List.append_assoc, Reader.bind_run (Reader.anotherElement_separates separates inner _),
        if_pos rfl, Reader.bind_eq_ok, FillsInOrder]
      have reads {put : σ → σ} {left : List UInt8} : field.member.read (bytes ++ (others ++ rest)) = .ok (put, left) ↔
          left = others ++ rest ∧ field.means given put := field.denotes blank_nil inner ends
      have placeToo : (index + 1 == 0) = false := rfl
      constructor
      · rintro ⟨put, left, read, onward⟩
        obtain ⟨rfl, isPut⟩ := reads.mp read
        obtain ⟨rfl, fills⟩ := (ih further placeToo).mp onward
        exact ⟨rfl, put, isPut, fills⟩
      · rintro ⟨rfl, put, isPut, fills⟩
        exact ⟨put, _, reads.mpr ⟨rfl, isPut⟩, (ih further placeToo).mpr ⟨rfl, fills⟩⟩

theorem length_lt_written {members : Members} {isFirst : Bool} {bytes : List UInt8}
    (written : Written (.members isFirst members) bytes) : members.length < bytes.length := by
  induction members generalizing isFirst bytes with
  | nil =>
    cases written with
    | lastMember blank => simp
  | cons member more ih =>
    cases written with
    | member separates spelled blank blankToo inner further =>
      have below := ih further
      simp only [List.length_append, List.length_cons]
      omega

theorem denotes_record (known : shape.members = fields.map (·.member)) :
    Denotes shape.read (MeansRecord fields shape.blank) := by
  intro value gap bytes rest after result blank written ends
  obtain ⟨b, kind, -, peeked⟩ := peek_written blank written rest
  unfold read
  rw [Reader.bind_run peeked]
  by_cases isMap : b = openMap
  · obtain ⟨members, rfl⟩ := kind.map.mp isMap
    cases written with
    | @map _ bytes inner =>
      have enough : members.length < (bytes ++ rest).length + 1 := by
        have below := length_lt_written inner
        rw [List.length_append]
        omega
      rw [if_pos isMap, List.cons_append, Reader.bind_run (Reader.advance_run _ _), Reader.bind_run (Reader.get_run _)]
      exact readNamed_eq_ok known inner enough
  · rw [if_neg isMap]
    by_cases isList : b = openList
    · obtain ⟨items, rfl⟩ := kind.list.mp isList
      cases written with
      | @list _ bytes inner =>
        rw [if_pos isList, List.cons_append, Reader.bind_run (Reader.advance_run _ _), known]
        exact readListed_eq_ok inner rfl
    · rw [if_neg isList]
      refine iff_of_false Reader.refuse_ne_ok ?_
      rintro ⟨-, means⟩
      cases value with
      | map members => exact isMap (kind.map.mpr ⟨members, rfl⟩)
      | list items => exact isList (kind.list.mpr ⟨items, rfl⟩)
      | null | flag | number | text => exact means

end Shape

end ModelDepot.Json
