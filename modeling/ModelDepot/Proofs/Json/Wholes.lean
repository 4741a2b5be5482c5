import ModelDepot.Proofs.Json.Skipping

/-!
Which numbers are whole to a reader: those without a point and an exponent that fit in 64 bits. Main statement:
`readNumeral_eq_whole`.
-/
namespace ModelDepot.Json

/-! ### Points and exponents -/

theorem numeralOf_ne_whole {negative : Bool} {digits : Nat} {exponent value : Int} :
    numeralOf negative digits exponent ≠ .ok (.whole value) := by
  unfold numeralOf
  dsimp only
  repeat' split
  all_goals simp

theorem readExponent_ne_whole {negative : Bool} {digits : Nat} {exponent value : Int} {input after : List UInt8} :
    readExponent negative digits exponent input ≠ .ok (.whole value, after) := by
  unfold readExponent
  intro read
  simp only [bind, Except.bind, pure, Except.pure, throw, throwThe, MonadExceptOf.throw] at read
  repeat' split at read
  all_goals try cases read
  all_goals exact numeralOf_ne_whole ‹_›

theorem readScaled_ne_whole {negative : Bool} {digits : Nat} {exponent value : Int} {input after : List UInt8} :
    readScaled negative digits exponent input ≠ .ok (.whole value, after) := by
  unfold readScaled
  intro read
  simp only [bind, Except.bind, pure, Except.pure] at read
  repeat' split at read
  all_goals try cases read
  all_goals first | exact readExponent_ne_whole ‹_› | exact numeralOf_ne_whole ‹_›

theorem readFraction_ne_whole {negative : Bool} {digits : Nat} {exponent value : Int} {input after : List UInt8} :
    readFraction negative digits exponent input ≠ .ok (.whole value, after) := by
  unfold readFraction
  intro read
  simp only [bind, Except.bind, throw, throwThe, MonadExceptOf.throw] at read
  repeat' split at read
  all_goals first | cases read | exact readScaled_ne_whole read

/-! ### Digits -/

/-- The number that digits are read as after others. -/
def valueOf (digits : List UInt8) (value : Nat) : Nat := digits.foldl (fun value b => value * 10 + digitValue b) value

theorem le_valueOf (digits : List UInt8) (value : Nat) : value ≤ valueOf digits value := by
  induction digits generalizing value with
  | nil => exact Nat.le_refl _
  | cons b more ih =>
    have next := ih (value * 10 + digitValue b)
    simp only [valueOf, List.foldl_cons] at next ⊢
    omega

/-- No digit comes first. -/
def Digitless (rest : List UInt8) : Prop := ∀ b, rest.head? = some b → isDigit b = false

/-- Digits are read up to the first one that leads beyond 64 bits. -/
theorem readDigits_split {digits : List UInt8} (areDigits : ∀ b ∈ digits, isDigit b) {rest : List UInt8}
    (digitless : Digitless rest) {value : Nat} (fits : value ≤ maxWord) (count : Nat) :
    ∃ read counted left, readDigits value count (digits ++ rest) = (read, counted, left ++ rest) ∧
      (∀ b ∈ left, isDigit b) ∧ (left = [] → read = valueOf digits value ∧ read ≤ maxWord) ∧
      (left ≠ [] → maxWord < valueOf digits value) := by
  induction digits generalizing value count with
  | nil =>
    refine ⟨value, count, [], ?_, by simp, fun _ => ⟨rfl, fits⟩, by simp⟩
    cases rest with
    | nil => rfl
    | cons b more => simp [readDigits, digitless b rfl]
  | cons b more ih =>
    have digit := areDigits b List.mem_cons_self
    by_cases fitsToo : value * 10 + digitValue b ≤ maxWord
    · obtain ⟨read, counted, left, run, rest⟩ := ih (fun c member => areDigits c (List.mem_cons_of_mem _ member)) fitsToo
        (count + 1)
      refine ⟨read, counted, left, ?_, rest⟩
      simpa [readDigits, digit, fitsToo] using run
    · refine ⟨value, count, b :: more, by simp [readDigits, digit, fitsToo], areDigits, by simp, fun _ => ?_⟩
      have grown := le_valueOf more (value * 10 + digitValue b)
      simp only [valueOf, List.foldl_cons] at grown ⊢
      omega

theorem span_digits {digits rest : List UInt8} (areDigits : ∀ b ∈ digits, isDigit b) (digitless : Digitless rest) :
    (digits ++ rest).takeWhile isDigit = digits ∧ (digits ++ rest).dropWhile isDigit = rest := by
  have stops : rest.takeWhile isDigit = [] ∧ rest.dropWhile isDigit = rest := by
    cases rest with
    | nil => exact ⟨rfl, rfl⟩
    | cons b more => simp [digitless b rfl]
  rw [List.takeWhile_append_of_pos areDigits, List.dropWhile_append_of_pos areDigits, stops.1, stops.2, List.append_nil]
  exact ⟨rfl, rfl⟩

/-! ### Numerals -/

/-- The number is whole, has this value and fits in 64 bits; there is no negative zero among them. -/
def Number.Is (number : Number) (value : Int) : Prop :=
  number.scale = [] ∧
    if number.negative then 0 < valueOf number.digits 0 ∧ valueOf number.digits 0 ≤ 0x8000000000000000 ∧
      value = -(valueOf number.digits 0)
    else valueOf number.digits 0 ≤ maxWord ∧ value = valueOf number.digits 0

theorem Number.Sound.scale_cons {number : Number} (sound : number.Sound) :
    number.scale = [] ∨ ∃ c more, number.scale = c :: more ∧ (c = point ∨ isExponentMark c) := by
  obtain ⟨fraction, exponent, isFraction, isExponent, parts⟩ := sound.scale
  rw [parts]
  rcases isFraction with rfl | ⟨digits, -, rfl⟩
  · rcases isExponent with rfl | ⟨mark, sign, digits, isMark, -, -, rfl⟩
    · exact .inl rfl
    · exact .inr ⟨mark, _, rfl, .inr isMark⟩
  · exact .inr ⟨point, _, rfl, .inl rfl⟩

theorem Number.Sound.digitless {number : Number} (sound : number.Sound) {rest : List UInt8} (ends : EndsNumeral rest) :
    Digitless (number.scale ++ rest) := by
  intro b first
  rcases sound.scale_cons with whole | ⟨c, more, scaled, isMark⟩
  · rw [whole] at first
    exact (ends b first).1
  · rw [scaled] at first
    obtain rfl := Option.some.inj first
    rcases isMark with rfl | mark
    · rfl
    · exact (Phase.not_digit_of_mark mark).1

/-- What is read of the digits of a number, up to what comes next. -/
theorem readNumeral_digits_then {number : Number} (sound : number.Sound) {rest : List UInt8} (digitless : Digitless rest)
    (negative : Bool) :
    ∃ read dropped, (dropped = 0 → read = valueOf number.digits 0 ∧ read ≤ maxWord) ∧
      (dropped ≠ 0 → maxWord < valueOf number.digits 0) ∧
      readNumeral negative (number.digits ++ rest) =
        match rest with
        | [] => readNumeral.ended negative read dropped rest
        | c :: _ =>
          if c = point then readFraction negative read dropped rest
          else if isExponentMark c then readExponent negative read dropped rest
          else readNumeral.ended negative read dropped rest := by
  obtain ⟨filled, areDigits⟩ := sound.digits
  obtain ⟨read, counted, left, run, areLeft, all, beyond⟩ := readDigits_split areDigits digitless (Nat.zero_le maxWord) 0
  obtain ⟨spelled, dropped⟩ := span_digits areLeft digitless
  obtain ⟨b, more, isFirst⟩ := List.exists_cons_of_ne_nil filled
  have noZero : (decide (b = digitZero) && (((more ++ rest).head?).map isDigit).getD false) = false := by
    by_cases zero : b = digitZero
    · have alone := sound.noZero (by rw [isFirst, zero]; rfl)
      obtain rfl : more = [] := by simpa [isFirst, zero] using alone
      cases rest with
      | nil => simp
      | cons c others => simp [digitless c rfl]
    · simp [zero]
  have digit : isDigit b := areDigits b (by rw [isFirst]; exact List.mem_cons_self)
  refine ⟨read, left.length, fun nothing => all (List.length_eq_zero_iff.mp nothing),
    fun something => beyond fun nothing => something (List.length_eq_zero_iff.mpr nothing), ?_⟩
  rw [isFirst] at run ⊢
  rw [List.cons_append] at run ⊢
  unfold readNumeral
  cases rest <;> simp only [digit, noZero, run, spelled, dropped, Bool.not_true, Bool.false_eq_true, ↓reduceIte]

theorem ended_eq_whole {negative : Bool} {read dropped : Nat} {rest after : List UInt8} {value : Int} :
    readNumeral.ended negative read dropped rest = .ok (.whole value, after) ↔
      after = rest ∧ dropped = 0 ∧ wholeNumeral negative read = .ok (.whole value) := by
  by_cases all : dropped = 0
  · rw [all, ended_zero]
    cases wholeNumeral negative read with
    | error fault => simp [Except.map]
    | ok numeral => simp [Except.map, and_comm, eq_comm]
  · unfold readNumeral.ended
    rw [if_neg all]
    cases read : numeralOf negative read dropped with
    | error fault => simp [bind, Except.bind, all]
    | ok numeral =>
      have other : numeral ≠ .whole value := by
        rintro rfl
        exact numeralOf_ne_whole read
      simp [bind, Except.bind, pure, Except.pure, all, other]

theorem wholeNumeral_eq_whole {negative : Bool} {read : Nat} {value : Int} :
    wholeNumeral negative read = .ok (.whole value) ↔
      if negative then 0 < read ∧ read ≤ 0x8000000000000000 ∧ value = -(read : Int) else value = read := by
  unfold wholeNumeral
  cases negative with
  | false => simp [eq_comm]
  | true =>
    by_cases fits : 0 < read ∧ read ≤ 0x8000000000000000
    · simp [fits, eq_comm]
    · have other := @numeralOf_ne_whole true read 0 value
      simp only [Bool.not_true, Bool.false_eq_true, ↓reduceIte, Bool.and_eq_true, decide_eq_true_eq, fits, other, false_iff]
      exact fun all => fits ⟨all.1, all.2.1⟩

theorem readNumeral_eq_whole {number : Number} (sound : number.Sound) {rest after : List UInt8} (ends : EndsNumeral rest)
    {value : Int} :
    readNumeral number.negative (number.digits ++ (number.scale ++ rest)) = .ok (.whole value, after) ↔
      after = rest ∧ number.Is value := by
  obtain ⟨read, dropped, all, beyond, run⟩ := readNumeral_digits_then sound (sound.digitless ends) number.negative
  rw [run, Number.Is]
  rcases sound.scale_cons with whole | ⟨c, more, scaled, isMark⟩
  · have ends : readNumeral number.negative (number.digits ++ (number.scale ++ rest)) =
        readNumeral.ended number.negative read dropped rest := by
      rw [run, whole, List.nil_append]
      cases rest with
      | nil => rfl
      | cons b more =>
        obtain ⟨-, noPoint, noMark⟩ := ends b rfl
        simp [noPoint, noMark]
    rw [← run, ends, ended_eq_whole, wholeNumeral_eq_whole]
    simp only [whole, true_and, and_congr_right_iff]
    intro _
    have limit : maxWord = 0xffffffffffffffff := rfl
    by_cases fits : dropped = 0
    · obtain ⟨rfl, small⟩ := all fits
      simp [fits, small]
    · have large := beyond fits
      cases number.negative <;> simp <;> omega
  · simp only [scaled, List.cons_append, reduceCtorEq, false_and, and_false, iff_false]
    rcases isMark with rfl | mark
    · exact readFraction_ne_whole
    · rw [if_neg (Phase.not_digit_of_mark mark).2, if_pos mark]
      exact readExponent_ne_whole

end ModelDepot.Json
