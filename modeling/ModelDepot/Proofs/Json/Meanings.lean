import ModelDepot.Json.Shape
import ModelDepot.Proofs.Json.Wholes

/-!
What readers make of written values. A reader that `Denotes` a relation takes a value for what the relation says,
however the value is written, and refuses the values that mean nothing to it.
-/
namespace ModelDepot.Json

/-- What comes of reading a written value depends on the value, and is what it means. -/
def Denotes {α : Type} (read : Reader α) (means : Value → α → Prop) : Prop :=
  ∀ {value : Value} {gap bytes rest after : List UInt8} {result : α}, Blank gap → Written (.value value) bytes →
    EndsNumeral rest → (read (gap ++ (bytes ++ rest)) = .ok (result, after) ↔ after = rest ∧ means value result)

namespace Reader
variable {α β : Type} {input after : List UInt8}

theorem bind_eq_ok {read : Reader α} {next : α → Reader β} {result : β} :
    (read >>= next) input = .ok (result, after) ↔
      ∃ value rest, read input = .ok (value, rest) ∧ next value rest = .ok (result, after) := by
  simp only [bind, StateT.bind]
  cases read input with
  | error fault => simp [Except.bind]
  | ok found =>
    obtain ⟨value, rest⟩ := found
    simp [Except.bind, and_assoc]

theorem map_eq_ok {read : Reader α} {f : α → β} {result : β} :
    (f <$> read) input = .ok (result, after) ↔ ∃ value, read input = .ok (value, after) ∧ result = f value := by
  show (read >>= fun value => pure (f value)) input = _ ↔ _
  rw [bind_eq_ok]
  constructor
  · rintro ⟨value, rest, run, done⟩
    obtain ⟨rfl, rfl⟩ := Prod.mk.inj (Except.ok.inj done)
    exact ⟨value, run, rfl⟩
  · rintro ⟨value, run, rfl⟩
    exact ⟨value, after, run, rfl⟩

theorem fail_ne_ok {fault : Fault} {result : α} : (fail fault : Reader α) input ≠ .ok (result, after) := by
  simp [fail, throw, throwThe, MonadExceptOf.throw, StateT.lift, bind, Except.bind]

theorem skipSpace_gap {gap : List UInt8} (blank : Blank gap) (rest : List UInt8) :
    skipSpace (gap ++ rest) = skipSpace rest := by
  induction gap with
  | nil => rfl
  | cons b more ih =>
    have space := blank b List.mem_cons_self
    have further := ih fun c member => blank c (List.mem_cons_of_mem _ member)
    simp only [skipSpace, List.cons_append, List.dropWhile_cons, space, if_true] at further ⊢
    exact further

/-- White space before what is looked at goes unnoticed. -/
theorem peek?_gap {gap : List UInt8} (blank : Blank gap) (rest : List UInt8) : peek? (gap ++ rest) = peek? rest := by
  show Except.ok ((skipSpace (gap ++ rest)).head?, skipSpace (gap ++ rest)) = Except.ok ((skipSpace rest).head?, skipSpace rest)
  rw [skipSpace_gap blank]

theorem peek_gap {gap : List UInt8} (blank : Blank gap) (rest : List UInt8) : peek (gap ++ rest) = peek rest := by
  unfold peek
  simp only [bind, StateT.bind, peek?_gap blank]

/-- Nothing is read by a refusal. -/
theorem refuse_ne_ok {wanted : String} {result : α} : (refuse wanted : Reader α) input ≠ .ok (result, after) := by
  intro read
  unfold refuse at read
  obtain ⟨start, rest, -, read⟩ := bind_eq_ok.mp read
  cases first : start.head? with
  | none => exact fail_ne_ok (first ▸ read)
  | some b =>
    simp only [first] at read
    repeat' split at read
    all_goals first
      | exact fail_ne_ok read
      | obtain ⟨_, _, -, read⟩ := bind_eq_ok.mp read
        exact fail_ne_ok read

end Reader

/-! ### Kinds of values -/

/-- The first byte of a value tells its kind. -/
structure TellsKind (b : UInt8) (value : Value) : Prop where
  null : b = 0x6e ↔ value = .null
  yes : b = 0x74 ↔ value = .flag true
  no : b = 0x66 ↔ value = .flag false
  number : b = minus ∨ isDigit b ↔ ∃ number, value = .number number
  text : b = quoteMark ↔ ∃ units, value = .text units
  list : b = openList ↔ ∃ items, value = .list items
  map : b = openMap ↔ ∃ members, value = .map members

theorem Opens.tellsKind {value : Value} {b : UInt8} (opens : Opens value b) : TellsKind b value := by
  cases value with
  | number number =>
    have other (mark : UInt8) (isOther : mark ≠ minus ∧ isDigit mark = false) : b ≠ mark := by
      rintro rfl
      rcases opens with isMinus | digit
      · exact isOther.1 isMinus
      · rw [isOther.2] at digit
        cases digit
    constructor
    case number => exact iff_of_true opens ⟨number, rfl⟩
    all_goals exact iff_of_false (other _ (by decide)) (by simp)
  | flag value => cases value <;> cases opens <;> constructor <;> simp <;> decide
  | _ => cases opens; constructor <;> simp <;> decide

/-! ### Single values -/

/-- What comes next where a value is written. -/
theorem peek_written {value : Value} {gap bytes : List UInt8} (blank : Blank gap) (written : Written (.value value) bytes)
    (rest : List UInt8) :
    ∃ b, TellsKind b value ∧ Reader.peek? (gap ++ (bytes ++ rest)) = .ok (some b, bytes ++ rest) ∧
      Reader.peek (gap ++ (bytes ++ rest)) = .ok (b, bytes ++ rest) := by
  obtain ⟨b, more, rfl, opens⟩ := written.opens
  have solid := opens.solid.1
  refine ⟨b, opens.tellsKind, ?_, ?_⟩
  · rw [Reader.peek?_gap blank]
    exact Reader.peek?_run fun c first => by rw [← Option.some.inj first]; exact solid
  · rw [Reader.peek_gap blank]
    exact Reader.peek_run solid

theorem quotedText_eq_ok {units : List Nat} {body rest after : List UInt8} {text : String} (spelled : Spelled units body) :
    Reader.quotedText (quoteMark :: (body ++ quoteMark :: rest)) = .ok (text, after) ↔
      after = rest ∧ textOf? units = some text := by
  unfold Reader.quotedText
  rw [Reader.bind_run (Reader.advance_run _ _), Reader.lift, readTextBody_spelled spelled]
  cases textOf? units with
  | none => simp
  | some other => simp [and_comm, eq_comm]

theorem denotes_text : Denotes Reader.text fun value text => ∃ units, value = .text units ∧ textOf? units = some text := by
  intro value gap bytes rest after text blank written ends
  obtain ⟨b, kind, -, peeked⟩ := peek_written blank written rest
  unfold Reader.text
  rw [Reader.bind_run peeked]
  by_cases isText : b = quoteMark
  · obtain ⟨units, rfl⟩ := kind.text.mp isText
    cases written with
    | text spelled =>
      rw [if_pos isText, List.cons_append, List.append_assoc, List.singleton_append, quotedText_eq_ok spelled]
      simp
  · rw [if_neg isText]
    refine iff_of_false Reader.refuse_ne_ok ?_
    rintro ⟨-, units, rfl, -⟩
    exact isText (kind.text.mpr ⟨units, rfl⟩)

theorem denotes_flag : Denotes Reader.flag fun value flag => value = .flag flag := by
  intro value gap bytes rest after flag blank written ends
  obtain ⟨b, kind, -, peeked⟩ := peek_written blank written rest
  unfold Reader.flag
  rw [Reader.bind_run peeked]
  by_cases yes : b = 0x74
  · obtain rfl := kind.yes.mp yes
    cases written with
    | yes =>
      have read : (do Reader.word "true"; return true : Reader Bool) ([0x74, 0x72, 0x75, 0x65] ++ rest) =
        .ok (true, rest) := rfl
      rw [if_pos yes, read]
      simp [and_comm, eq_comm]
  · rw [if_neg yes]
    by_cases no : b = 0x66
    · obtain rfl := kind.no.mp no
      cases written with
      | no =>
        have read : (do Reader.word "false"; return false : Reader Bool) ([0x66, 0x61, 0x6c, 0x73, 0x65] ++ rest) =
          .ok (false, rest) := rfl
        rw [if_pos no, read]
        simp [and_comm, eq_comm]
    · rw [if_neg no]
      refine iff_of_false Reader.refuse_ne_ok ?_
      rintro ⟨-, rfl⟩
      cases flag
      · exact no (kind.no.mpr rfl)
      · exact yes (kind.yes.mpr rfl)

theorem numeral_eq_whole {number : Number} (sound : number.Sound) {rest after : List UInt8} (ends : EndsNumeral rest)
    {value : Int} : Reader.numeral (number.bytes ++ rest) = .ok (.whole value, after) ↔ after = rest ∧ number.Is value := by
  rw [← readNumeral_eq_whole sound ends]
  obtain ⟨filled, areDigits⟩ := sound.digits
  unfold Reader.numeral Number.bytes
  rw [Reader.bind_run (Reader.get_run _), List.append_assoc, List.append_assoc]
  cases negative : number.negative with
  | true => rw [if_pos rfl]; rfl
  | false =>
    obtain ⟨b, more, isFirst⟩ := List.exists_cons_of_ne_nil filled
    have noMinus : b ≠ minus := (of_isDigit (areDigits b (by rw [isFirst]; exact List.mem_cons_self))).2
    rw [if_neg (by simp [isFirst, noMinus])]
    rfl

theorem denotes_integer (wanted : String) (fits : Int → Bool) : Denotes (Reader.integer wanted fits) fun value n =>
    ∃ number, value = .number number ∧ number.Is n ∧ fits n := by
  intro value gap bytes rest after n blank written ends
  obtain ⟨b, kind, -, peeked⟩ := peek_written blank written rest
  unfold Reader.integer
  rw [Reader.bind_run peeked]
  by_cases isNumber : b = minus ∨ isDigit b
  · obtain ⟨number, rfl⟩ := kind.number.mp isNumber
    cases written with
    | number sound =>
      rw [if_pos (by simpa using isNumber), Reader.bind_eq_ok]
      constructor
      · rintro ⟨numeral, left, read, done⟩
        cases numeral with
        | other shown => exact (Reader.fail_ne_ok done).elim
        | whole found =>
          obtain ⟨rfl, isFound⟩ := (numeral_eq_whole sound ends).mp read
          by_cases fit : fits found
          · simp only [fit, if_true] at done
            obtain ⟨rfl, rfl⟩ := Prod.mk.inj (Except.ok.inj done)
            exact ⟨rfl, number, rfl, isFound, fit⟩
          · simp only [fit, Bool.false_eq_true, if_false] at done
            exact (Reader.fail_ne_ok done).elim
      · rintro ⟨rfl, other, same, isFound, fit⟩
        obtain rfl := Value.number.inj same
        refine ⟨.whole n, after, (numeral_eq_whole sound ends).mpr ⟨rfl, isFound⟩, ?_⟩
        simp only [fit, if_true]
        rfl
  · rw [if_neg (by simpa using isNumber)]
    refine iff_of_false Reader.refuse_ne_ok ?_
    rintro ⟨-, number, rfl, -⟩
    exact isNumber (kind.number.mpr ⟨number, rfl⟩)

theorem denotes_stamp : Denotes Reader.stamp fun value n => ∃ number, value = .number number ∧ number.Is n.toInt := by
  intro value gap bytes rest after n blank written ends
  unfold Reader.stamp
  rw [Reader.bind_eq_ok]
  constructor
  · rintro ⟨found, left, read, done⟩
    obtain ⟨rfl, number, rfl, isFound, fit⟩ := (denotes_integer _ _ blank written ends).mp read
    obtain ⟨rfl, rfl⟩ := Prod.mk.inj (Except.ok.inj done)
    simp only [Bool.and_eq_true, decide_eq_true_eq] at fit
    have same : (Int64.ofInt found).toInt = found :=
      Int64.toInt_ofInt_of_le fit.1 (Int.lt_of_le_of_lt fit.2 (by decide))
    exact ⟨rfl, number, rfl, by rwa [same]⟩
  · rintro ⟨rfl, number, rfl, isFound⟩
    refine ⟨n.toInt, after, (denotes_integer _ _ blank written ends).mpr ⟨rfl, number, rfl, isFound, ?_⟩, ?_⟩
    · simp only [Bool.and_eq_true, decide_eq_true_eq]
      exact ⟨n.minValue_le_toInt, n.toInt_le⟩
    · rw [Int64.ofInt_toInt]
      rfl

theorem denotes_count (wanted : String) :
    Denotes (Reader.count wanted) fun value n => ∃ number, value = .number number ∧ number.Is n.toNat := by
  intro value gap bytes rest after n blank written ends
  unfold Reader.count
  rw [Reader.bind_eq_ok]
  constructor
  · rintro ⟨found, left, read, done⟩
    obtain ⟨rfl, number, rfl, isFound, fit⟩ := (denotes_integer _ _ blank written ends).mp read
    obtain ⟨rfl, rfl⟩ := Prod.mk.inj (Except.ok.inj done)
    simp only [Bool.and_eq_true, decide_eq_true_eq] at fit
    have same : ((UInt64.ofNat found.toNat).toNat : Int) = found := by
      rw [UInt64.toNat_ofNat_of_lt' (by omega)]
      omega
    exact ⟨rfl, number, rfl, by rwa [same]⟩
  · rintro ⟨rfl, number, rfl, isFound⟩
    refine ⟨n.toNat, after, (denotes_integer _ _ blank written ends).mpr ⟨rfl, number, rfl, isFound, ?_⟩, ?_⟩
    · have small := n.toNat_lt_size
      simp only [Bool.and_eq_true, decide_eq_true_eq]
      omega
    · rw [Int.toNat_natCast, UInt64.ofNat_toNat]
      rfl

/-- A value that may be null. -/
theorem denotes_nullable {α : Type} {read : Reader α} {means : Value → α → Prop} (denotes : Denotes read means) :
    Denotes (Reader.nullable read) fun value result =>
      (value = .null ∧ result = none) ∨ (value ≠ .null ∧ ∃ present, result = some present ∧ means value present) := by
  intro value gap bytes rest after result blank written ends
  obtain ⟨b, kind, peeked, -⟩ := peek_written blank written rest
  unfold Reader.nullable
  rw [Reader.bind_run peeked]
  by_cases isNull : b = 0x6e
  · obtain rfl := kind.null.mp isNull
    cases written with
    | null =>
      have read : (do Reader.word "null"; return (none : Option α) : Reader (Option α)) ([0x6e, 0x75, 0x6c, 0x6c] ++ rest) =
        .ok (none, rest) := rfl
      rw [if_pos (by rw [isNull]), read]
      simp [and_comm, eq_comm]
  · have filled : value ≠ .null := fun same => isNull (kind.null.mpr same)
    rw [if_neg (by simpa using isNull), Reader.bind_eq_ok]
    have bare (found : α) (left : List UInt8) : read (bytes ++ rest) = .ok (found, left) ↔ left = rest ∧ means value found :=
      denotes blank_nil written ends
    constructor
    · rintro ⟨found, left, run, done⟩
      obtain ⟨rfl, isFound⟩ := (bare found left).mp run
      obtain ⟨rfl, rfl⟩ := Prod.mk.inj (Except.ok.inj done)
      exact ⟨rfl, .inr ⟨filled, found, rfl, isFound⟩⟩
    · rintro ⟨rfl, ⟨isNull, -⟩ | ⟨-, found, rfl, isFound⟩⟩
      · exact absurd isNull filled
      · exact ⟨found, after, (bare found after).mpr ⟨rfl, isFound⟩, rfl⟩

theorem denotes_map {α β : Type} {read : Reader α} {means : Value → α → Prop} (denotes : Denotes read means) (f : α → β) :
    Denotes (f <$> read) fun value result => ∃ found, means value found ∧ result = f found := by
  intro value gap bytes rest after result blank written ends
  rw [Reader.map_eq_ok]
  constructor
  · rintro ⟨found, run, rfl⟩
    obtain ⟨rfl, isFound⟩ := (denotes blank written ends).mp run
    exact ⟨rfl, found, isFound, rfl⟩
  · rintro ⟨rfl, found, isFound, rfl⟩
    exact ⟨found, (denotes blank written ends).mpr ⟨rfl, isFound⟩, rfl⟩

/-- A text that holds a value is read as what the value means. -/
theorem Holds.parse_eq_ok {α : Type} {read : Reader α} {means : Value → α → Prop} (denotes : Denotes read means)
    {text : List UInt8} {value : Value} (holds : Holds text value) {result : α} :
    read.parse text = .ok result ↔ means value result := by
  obtain ⟨before, bytes, after, blank, written, blankToo, rfl⟩ := holds
  have nothing : skipSpace after = [] := by simpa [skipSpace] using Reader.skipSpace_gap blankToo []
  have ends : EndsNumeral after := by simpa using endsNumeral_gap blankToo endsNumeral_nil
  have reads {result : α} {left : List UInt8} : read (before ++ (bytes ++ after)) = .ok (result, left) ↔
      left = after ∧ means value result := denotes blank written ends
  unfold Reader.parse
  constructor
  · intro parsed
    cases run : read (before ++ (bytes ++ after)) with
    | error fault => rw [run] at parsed; cases parsed
    | ok found =>
      obtain ⟨found, left⟩ := found
      obtain ⟨rfl, isFound⟩ := reads.mp run
      rw [run] at parsed
      simp only [bind, Except.bind, nothing, List.isEmpty_nil, if_true] at parsed
      obtain rfl := Except.ok.inj parsed
      exact isFound
  · intro isResult
    rw [reads.mpr ⟨rfl, isResult⟩]
    simp only [bind, Except.bind, nothing, List.isEmpty_nil, if_true]
    rfl

end ModelDepot.Json
