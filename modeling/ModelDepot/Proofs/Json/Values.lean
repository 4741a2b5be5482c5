import ModelDepot.Proofs.Json.Numerals

/-!
Readers take from the front of the input what was printed for a value, and nothing else.
-/
namespace ModelDepot.Json

/-- The reader takes these bytes from the front of the input, whatever follows them. -/
def Takes {α : Type} (read : Reader α) (bytes : List UInt8) (value : α) : Prop :=
  ∀ rest, EndsNumeral rest → read (bytes ++ rest) = .ok (value, rest)

namespace Reader
variable {α β : Type} {input after : List UInt8}

theorem bind_run {read : Reader α} {next : α → Reader β} {value : α} (first : read input = .ok (value, after)) :
    (read >>= next) input = next value after := by
  simp only [bind, StateT.bind, first, Except.bind]

theorem peek?_run (solid : ∀ b, input.head? = some b → isSpace b = false) : peek? input = .ok (input.head?, input) := by
  have same : skipSpace input = input := by
    cases input with
    | nil => rfl
    | cons b more => simp [skipSpace, solid b rfl]
  show Except.ok ((skipSpace input).head?, skipSpace input) = _
  rw [same]

theorem peek_run {b : UInt8} {more : List UInt8} (solid : isSpace b = false) :
    peek (b :: more) = .ok (b, b :: more) := by
  unfold peek
  rw [bind_run (peek?_run fun c first => by rw [← Option.some.inj first]; exact solid)]
  rfl

@[simp] theorem advance_run (b : UInt8) (more : List UInt8) : advance (b :: more) = .ok ((), more) := rfl

@[simp] theorem get_run (input : List UInt8) : (get : Reader (List UInt8)) input = .ok (input, input) := rfl

/-- The printed text begins with a mark. -/
theorem begins_printText (s : String) (rest : List UInt8) :
    utf8 (printText s) ++ rest = quoteMark :: (utf8 (printText s) ++ rest).drop 1 := by
  rw [utf8_printText]
  rfl

@[simp]
theorem quotedText_run (s : String) (rest : List UInt8) : quotedText (utf8 (printText s) ++ rest) = .ok (s, rest) := by
  unfold quotedText
  rw [begins_printText, bind_run (advance_run _ _)]
  exact readTextBody_printText s rest

end Reader

/-! ### Single values -/

theorem takes_text (s : String) : Takes Reader.text (utf8 (printText s)) s := by
  intro rest _
  have peeked : Reader.peek (utf8 (printText s) ++ rest) = .ok (quoteMark, utf8 (printText s) ++ rest) := by
    rw [Reader.begins_printText]
    exact Reader.peek_run rfl
  unfold Reader.text
  rw [Reader.bind_run peeked, if_pos rfl]
  exact Reader.quotedText_run s rest

theorem takes_flag (b : Bool) : Takes Reader.flag (utf8 (printFlag b)) b := by
  intro rest _
  cases b with
  | true => rfl
  | false => rfl

theorem digitBytes_cons (n : Nat) : ∃ b more, digitBytes n = b :: more ∧ isDigit b := by
  unfold digitBytes
  cases spelled : Nat.toDigits 10 n with
  | nil => exact (Nat.toDigits_ne_nil spelled).elim
  | cons c cs =>
    exact ⟨digitByte c, cs.map digitByte, rfl,
      (isDigit_digitByte (isDigit_toDigits (n := n) (by rw [spelled]; exact List.mem_cons_self))).1⟩

theorem of_isDigit {b : UInt8} (digit : isDigit b) : isSpace b = false ∧ b ≠ minus := by
  refine ⟨?_, ?_⟩
  · cases space : isSpace b with
    | false => rfl
    | true =>
      simp only [isSpace, Bool.or_eq_true, beq_iff_eq] at space
      rcases space with ((rfl | rfl) | rfl) | rfl <;> revert digit <;> decide
  · rintro rfl
    revert digit
    decide

/-- What a numeral of 64 bits is read as. -/
theorem numeral_run {n : Int} (lower : -0x8000000000000000 ≤ n) (upper : n ≤ maxWord) {rest : List UInt8}
    (ends : EndsNumeral rest) : Reader.numeral (utf8 (toString n) ++ rest) = .ok (.whole n, rest) := by
  have fits : n.natAbs ≤ maxWord := by
    have : maxWord = 0xffffffffffffffff := rfl
    omega
  rw [utf8_toString_int]
  unfold Reader.numeral
  rw [Reader.bind_run (Reader.get_run _)]
  split
  · rename_i negative
    simp only [List.cons_append, List.head?_cons, ↓reduceIte]
    rw [Reader.bind_run (Reader.advance_run minus _), Reader.lift, readNumeral_digits fits true ends]
    have small : 0 < n.natAbs ∧ n.natAbs ≤ 0x8000000000000000 := by omega
    have value : -(n.natAbs : Int) = n := by omega
    have whole : wholeNumeral true n.natAbs = .ok (.whole n) := by
      simp only [wholeNumeral, Bool.not_true, Bool.false_eq_true, ↓reduceIte, Bool.and_eq_true, decide_eq_true_eq,
        small, and_self, value]
    rw [whole]
    rfl
  · rename_i natural
    obtain ⟨b, more, spelled, digit⟩ := digitBytes_cons n.natAbs
    have noSign : (digitBytes n.natAbs ++ rest).head? ≠ some minus := by
      rw [spelled]
      exact fun same => (of_isDigit digit).2 (Option.some.inj same)
    have value : (n.natAbs : Int) = n := by omega
    have whole : wholeNumeral false n.natAbs = .ok (.whole n) := by
      simp only [wholeNumeral, Bool.not_false, ↓reduceIte, value]
    rw [if_neg noSign, Reader.lift, readNumeral_digits fits false ends, whole]
    rfl

theorem takes_integer (wanted : String) {fits : Int → Bool} {n : Int} (lower : -0x8000000000000000 ≤ n)
    (upper : n ≤ maxWord) (fit : fits n) : Takes (Reader.integer wanted fits) (utf8 (toString n)) n := by
  intro rest ends
  have begins : ∃ b more, utf8 (toString n) = b :: more ∧ isSpace b = false ∧ (b = minus ∨ isDigit b) := by
    rw [utf8_toString_int]
    split
    · exact ⟨minus, _, rfl, rfl, .inl rfl⟩
    · obtain ⟨b, more, spelled, digit⟩ := digitBytes_cons n.natAbs
      exact ⟨b, more, spelled, (of_isDigit digit).1, .inr digit⟩
  obtain ⟨b, more, spelled, solid, numeric⟩ := begins
  have peeked : Reader.peek (utf8 (toString n) ++ rest) = .ok (b, utf8 (toString n) ++ rest) := by
    rw [spelled]
    exact Reader.peek_run solid
  unfold Reader.integer
  rw [Reader.bind_run peeked, if_pos (by simpa using numeric), Reader.bind_run (numeral_run lower upper ends)]
  simp only [fit, ↓reduceIte]
  rfl

theorem takes_stamp (n : Int64) : Takes Reader.stamp (utf8 (printStamp n)) n := by
  intro rest ends
  have lower : -0x8000000000000000 ≤ n.toInt := n.le_toInt
  have upper : n.toInt ≤ maxWord := by
    have bound := n.toInt_lt
    have : (maxWord : Int) = 0xffffffffffffffff := rfl
    omega
  have whole : Takes (Reader.integer "i64" fun n => Int64.minValue.toInt ≤ n && n ≤ Int64.maxValue.toInt)
      (utf8 (printStamp n)) n.toInt := by
    refine takes_integer _ lower upper ?_
    simp only [Bool.and_eq_true, decide_eq_true_eq]
    exact ⟨n.minValue_le_toInt, n.toInt_le⟩
  unfold Reader.stamp
  rw [Reader.bind_run (whole rest ends), Int64.ofInt_toInt]
  rfl

theorem takes_nullable_some {α : Type} {read : Reader α} {bytes : List UInt8} {value : α}
    (takes : Takes read bytes value) (begins : ∃ b more, bytes = b :: more ∧ isSpace b = false ∧ b ≠ 0x6e) :
    Takes (Reader.nullable read) bytes (some value) := by
  intro rest ends
  obtain ⟨b, more, rfl, solid, other⟩ := begins
  unfold Reader.nullable
  rw [Reader.bind_run (Reader.peek?_run fun c first => by rw [← Option.some.inj first]; exact solid)]
  simp only [List.cons_append, List.head?_cons, Option.some.injEq, other, ↓reduceIte]
  rw [← List.cons_append, Reader.bind_run (takes rest ends)]
  rfl

end ModelDepot.Json
