import ModelDepot.Proofs.Json.Spelling

/-!
A value that nobody asks for is passed over as a whole, however it is written and however deep it is
(`skipValue_written`).
-/
namespace ModelDepot.Json.Phase

variable {phase next : Phase} {stack deeper : List Bracket} {isKey : Bool} {rest : List UInt8}

theorem skip_step {b : UInt8} (step : phase.step stack b = goOn next deeper) (rest : List UInt8) :
    skip phase stack (b :: rest) = skip next deeper rest := by
  rw [skip, step]
  rfl

/-- Bytes that leave the phase as it is. -/
theorem skip_while {bytes : List UInt8} (stays : ∀ b ∈ bytes, phase.step stack b = goOn phase stack) (rest : List UInt8) :
    skip phase stack (bytes ++ rest) = skip phase stack rest := by
  induction bytes with
  | nil => rfl
  | cons b more ih =>
    rw [List.cons_append, skip_step (stays b List.mem_cons_self),
      ih fun other member => stays other (List.mem_cons_of_mem _ member)]

/-! ### Quoted texts -/

theorem step_plain {b : UInt8} (plain : IsPlain b) : (text isKey).step stack b = goOn (text isKey) stack := by
  obtain ⟨noQuote, noControl, noBackslash⟩ := plain
  simp [step, noQuote, noControl, noBackslash]

theorem step_hex {b : UInt8} {value left : Nat} (isHex : IsHex b value) (more : 1 < left) :
    (hex isKey left true).step stack b = goOn (hex isKey (left - 1) true) stack := by
  simp [step, hexValue?_of_isHex isHex, more]

theorem step_lastHex {b : UInt8} {value : Nat} (isHex : IsHex b value) :
    (hex isKey 1 true).step stack b = goOn (text isKey) stack := by
  simp [step, hexValue?_of_isHex isHex]

theorem step_backslash : (text isKey).step stack backslash = goOn (escape isKey) stack := rfl
theorem step_letterU : (escape isKey).step stack letterU = goOn (hex isKey 4 true) stack := rfl

theorem skip_spelled {units : List Nat} {body : List UInt8} (spelled : Spelled units body) (rest : List UInt8) :
    skip (text isKey) stack (body ++ quoteMark :: rest) = skip (afterText isKey) stack rest := by
  induction spelled with
  | done => exact skip_step rfl rest
  | plain noQuote noBackslash noControl further ih =>
    have plain := plain_utf8EncodeChar noQuote noBackslash noControl
    rw [List.append_assoc, skip_while fun b member => step_plain (plain b member), ih]
  | @short mark unit units bytes known further ih =>
    obtain ⟨value, noUnit, -, -⟩ := short_known _ known
    simp only at value noUnit
    have escaped : (escape isKey).step stack mark = goOn (text isKey) stack := by simp [step, noUnit, value]
    rw [List.cons_append, List.cons_append, skip_step step_backslash, skip_step escaped, ih]
  | hex isA isB isC isD further ih =>
    simp only [List.cons_append]
    rw [skip_step step_backslash, skip_step step_letterU,
      skip_step (step_hex isA (by decide)), skip_step (step_hex isB (by decide)), skip_step (step_hex isC (by decide)),
      skip_step (step_lastHex isD), ih]

/-! ### Numbers -/

/-- A numeral that may end here is over when something else comes. -/
theorem skip_ended (numeral : phase ∈ [zero, whole, part, exponentDigits]) (ends : EndsNumeral rest) :
    skip phase stack rest = skip after stack rest := by
  cases rest with
  | nil =>
    simp only [List.mem_cons, List.not_mem_nil, or_false] at numeral
    rcases numeral with rfl | rfl | rfl | rfl <;> rfl
  | cons b more =>
    obtain ⟨noDigit, noPoint, noMark⟩ := ends b rfl
    have same : phase.step stack b = after.step stack b := by
      simp only [List.mem_cons, List.not_mem_nil, or_false] at numeral
      rcases numeral with rfl | rfl | rfl | rfl <;> simp [step, step.wholeEnd, noDigit, noPoint, noMark]
    rw [skip, skip, same]

theorem skip_digits {digits : List UInt8} (numeral : phase ∈ [whole, part, exponentDigits])
    (areDigits : ∀ b ∈ digits, isDigit b) (rest : List UInt8) : skip phase stack (digits ++ rest) = skip phase stack rest := by
  refine skip_while (fun b member => ?_) rest
  have digit := areDigits b member
  simp only [List.mem_cons, List.not_mem_nil, or_false] at numeral
  rcases numeral with rfl | rfl | rfl <;> simp [step, digit]

theorem not_digit_of_mark {b : UInt8} (mark : isExponentMark b) : isDigit b = false ∧ b ≠ Json.point := by
  simp only [isExponentMark, Bool.or_eq_true, beq_iff_eq] at mark
  rcases mark with rfl | rfl <;> decide

theorem skip_exponent {bytes : List UInt8} (isExponent : IsExponent bytes) (numeral : phase ∈ [zero, whole, part])
    (ends : EndsNumeral rest) : skip phase stack (bytes ++ rest) = skip after stack rest := by
  rcases isExponent with rfl | ⟨mark, sign, digits, isMark, isSign, ⟨filled, areDigits⟩, rfl⟩
  · refine skip_ended ?_ ends
    simp only [List.mem_cons, List.not_mem_nil, or_false] at numeral
    rcases numeral with rfl | rfl | rfl <;> simp
  · obtain ⟨noDigit, noPoint⟩ := not_digit_of_mark isMark
    have marked : phase.step stack mark = goOn exponent stack := by
      simp only [List.mem_cons, List.not_mem_nil, or_false] at numeral
      rcases numeral with rfl | rfl | rfl <;> simp [step, step.wholeEnd, noDigit, noPoint, isMark]
    obtain ⟨b, more, rfl⟩ := List.exists_cons_of_ne_nil filled
    have digit := areDigits b List.mem_cons_self
    have further := fun c (member : c ∈ more) => areDigits c (List.mem_cons_of_mem _ member)
    have begun (phase : Phase) (isBegun : phase = exponent ∨ phase = exponentSign) :
        skip phase stack (b :: more ++ rest) = skip after stack rest := by
      have first : phase.step stack b = goOn exponentDigits stack := by
        rcases isBegun with rfl | rfl
        · by_cases signed : b = plus ∨ b = Json.minus
          · rcases signed with rfl | rfl <;> cases digit
          · simp [step, digit, not_or.mp signed]
        · simp [step, digit]
      rw [List.cons_append, skip_step first, skip_digits (by simp) further, skip_ended (by simp) ends]
    rw [List.cons_append, skip_step marked]
    rcases isSign with rfl | rfl | rfl
    · exact begun exponent (.inl rfl)
    · exact (skip_step rfl _).trans (begun exponentSign (.inr rfl))
    · exact (skip_step rfl _).trans (begun exponentSign (.inr rfl))

theorem skip_scale {bytes : List UInt8} (isScale : ∃ fraction exponent, IsFraction fraction ∧ IsExponent exponent ∧
      bytes = fraction ++ exponent) (numeral : phase ∈ [zero, whole]) (ends : EndsNumeral rest) :
    skip phase stack (bytes ++ rest) = skip after stack rest := by
  obtain ⟨fraction, exponent, isFraction, isExponent, rfl⟩ := isScale
  simp only [List.mem_cons, List.not_mem_nil, or_false] at numeral
  rw [List.append_assoc]
  rcases isFraction with rfl | ⟨digits, ⟨filled, areDigits⟩, rfl⟩
  · refine skip_exponent isExponent ?_ ends
    rcases numeral with rfl | rfl <;> simp
  · obtain ⟨b, more, rfl⟩ := List.exists_cons_of_ne_nil filled
    have digit := areDigits b List.mem_cons_self
    have pointed : phase.step stack Json.point = goOn point stack := by
      rcases numeral with rfl | rfl <;> rfl
    have first : point.step stack b = goOn part stack := by simp [step, digit]
    rw [List.cons_append, List.cons_append, skip_step pointed, skip_step first,
      skip_digits (by simp) fun c member => areDigits c (List.mem_cons_of_mem _ member),
      skip_exponent isExponent (by simp) ends]

theorem begin_digit {b : UInt8} (digit : isDigit b) :
    begin stack b = goOn (if b = digitZero then zero else whole) stack := by
  have noQuote : b ≠ quoteMark := by
    rintro rfl
    cases digit
  have noMinus : b ≠ Json.minus := (of_isDigit digit).2
  unfold begin
  rw [if_neg noQuote, if_neg noMinus, if_pos digit]
  split <;> rfl

theorem skip_number {number : Number} (sound : number.Sound) (ends : EndsNumeral rest) :
    skip value stack (number.bytes ++ rest) = skip after stack rest := by
  obtain ⟨negative, digits, scale⟩ := number
  obtain ⟨⟨filled, areDigits⟩, noZero, isScale⟩ := sound
  simp only at filled areDigits noZero isScale
  obtain ⟨b, more, rfl⟩ := List.exists_cons_of_ne_nil filled
  have digit := areDigits b List.mem_cons_self
  have begun (phase : Phase)
      (first : phase.step stack b = goOn (if b = digitZero then zero else whole) stack) :
      skip phase stack (b :: more ++ (scale ++ rest)) = skip after stack rest := by
    rw [List.cons_append, skip_step first]
    by_cases isZero : b = digitZero
    · obtain rfl := isZero
      obtain rfl : more = [] := by simpa using noZero rfl
      exact skip_scale isScale (by simp) ends
    · rw [if_neg isZero, skip_digits (by simp) fun c member => areDigits c (List.mem_cons_of_mem _ member)]
      exact skip_scale isScale (by simp) ends
  unfold Number.bytes
  cases negative with
  | true =>
    have signed : value.step stack Json.minus = goOn sign stack := rfl
    simp only [if_true, List.cons_append, List.nil_append, List.append_assoc]
    rw [skip_step signed]
    refine begun sign ?_
    simp only [step]
    rw [if_pos digit]
    split <;> rfl
  | false =>
    simp only [Bool.false_eq_true, if_false, List.nil_append, List.append_assoc]
    refine begun value ?_
    simp only [step, (of_isDigit digit).1, Bool.false_eq_true, if_false]
    exact begin_digit digit

/-! ### Lists and maps -/

theorem skip_gap {gap : List UInt8} (blank : Blank gap)
    (between : phase ∈ [value, first, key, colon] ∨ phase = after ∧ stack ≠ []) (rest : List UInt8) :
    skip phase stack (gap ++ rest) = skip phase stack rest := by
  refine skip_while (fun b member => ?_) rest
  have space := blank b member
  rcases between with inner | ⟨rfl, inside⟩
  · simp only [List.mem_cons, List.not_mem_nil, or_false] at inner
    rcases inner with rfl | rfl | rfl | rfl <;> simp [step, Phase.inside, space]
  · obtain ⟨bracket, outer, rfl⟩ := List.exists_cons_of_ne_nil inside
    simp [step, behind, space]

/-- Where an element or the closing mark may come. -/
def place (isFirst : Bool) : Phase := if isFirst then first else after

theorem skip_separator {isFirst : Bool} {sep : List UInt8} (separates : Separates isFirst sep) {value : Value}
    {bytes : List UInt8} (written : Written (.value value) bytes) (rest : List UInt8) :
    skip (place isFirst) (.list :: stack) (sep ++ (bytes ++ rest)) = skip .value (.list :: stack) (bytes ++ rest) := by
  cases isFirst with
  | true =>
    obtain ⟨b, more, rfl, opens⟩ := written.opens
    obtain ⟨solid, noClose, -, -⟩ := opens.solid
    rw [skip_gap separates (by simp [place])]
    simp only [place, if_true, List.cons_append, skip, step, inside, solid, noClose, Bool.false_eq_true, if_false]
  | false =>
    obtain ⟨before, behind, blank, blankToo, rfl⟩ := separates
    have separated : after.step (.list :: stack) comma = goOn .value (.list :: stack) := rfl
    rw [List.append_assoc, skip_gap blank (by simp [place]), List.cons_append]
    refine (skip_step separated _).trans ?_
    exact skip_gap blankToo (by simp) _

theorem skip_keySeparator {isFirst : Bool} {sep : List UInt8} (separates : Separates isFirst sep) (rest : List UInt8) :
    skip (place isFirst) (.map :: stack) (sep ++ quoteMark :: rest) = skip (text true) (.map :: stack) rest := by
  cases isFirst with
  | true =>
    rw [skip_gap separates (by simp [place])]
    exact skip_step rfl rest
  | false =>
    obtain ⟨before, behind, blank, blankToo, rfl⟩ := separates
    have separated : after.step (.map :: stack) comma = goOn key (.map :: stack) := rfl
    have opened : key.step (.map :: stack) quoteMark = goOn (text true) (.map :: stack) := rfl
    rw [List.append_assoc, skip_gap blank (by simp [place]), List.cons_append]
    refine (skip_step separated _).trans ?_
    rw [skip_gap blankToo (by simp), skip_step opened]

/-- What is passed over when a piece is written. -/
def Passes : Piece → List UInt8 → Prop
  | .value _, bytes => ∀ stack rest, EndsNumeral rest → skip value stack (bytes ++ rest) = skip after stack rest
  | .items isFirst _, bytes => ∀ stack rest, skip (place isFirst) (.list :: stack) (bytes ++ rest) = skip after stack rest
  | .members isFirst _, bytes => ∀ stack rest, skip (place isFirst) (.map :: stack) (bytes ++ rest) = skip after stack rest

theorem passes_written {piece : Piece} {bytes : List UInt8} (written : Written piece bytes) : Passes piece bytes := by
  induction written with
  | null | yes | no => exact fun stack rest _ => rfl
  | number sound => exact fun stack rest ends => skip_number sound ends
  | @text units body spelled =>
    intro stack rest _
    have opened : value.step stack quoteMark = goOn (text false) stack := rfl
    rw [List.cons_append, List.append_assoc, skip_step opened]
    exact skip_spelled spelled rest
  | list inner ih => exact fun stack rest _ => (skip_step rfl _).trans (ih stack rest)
  | map inner ih => exact fun stack rest _ => (skip_step rfl _).trans (ih stack rest)
  | @lastItem isFirst gap blank =>
    intro stack rest
    rw [List.append_assoc, skip_gap blank (by cases isFirst <;> simp [place])]
    exact skip_step (by cases isFirst <;> rfl) rest
  | @item isFirst value more sep bytes rest separates inner further ih ihMore =>
    intro stack behind
    rw [List.append_assoc, List.append_assoc, skip_separator separates inner,
      ih _ _ (further.endsNumeral (.inl ⟨more, rfl⟩) behind)]
    exact ihMore stack behind
  | @lastMember isFirst gap blank =>
    intro stack rest
    rw [List.append_assoc, skip_gap blank (by cases isFirst <;> simp [place])]
    exact skip_step (by cases isFirst <;> rfl) rest
  | @member isFirst key value more sep body gap gap' bytes rest separates spelled blank blankToo inner further ih ihMore =>
    intro stack behind
    have named : colon.step (.map :: stack) Json.colon = goOn .value (.map :: stack) := rfl
    simp only [List.append_assoc, List.cons_append]
    rw [skip_keySeparator separates, skip_spelled spelled]
    refine (skip_gap blank (by simp [afterText]) _).trans ?_
    refine (skip_step named _).trans ?_
    rw [skip_gap blankToo (by simp), ih _ _ (further.endsNumeral (.inr ⟨more, rfl⟩) behind)]
    exact ihMore stack behind

end ModelDepot.Json.Phase

namespace ModelDepot.Json

/-- A written value is passed over, and nothing else. -/
theorem skipValue_written {value : Value} {gap bytes rest : List UInt8} (blank : Blank gap)
    (written : Written (.value value) bytes) (ends : EndsNumeral rest) : skipValue (gap ++ (bytes ++ rest)) = .ok rest := by
  unfold skipValue
  rw [Phase.skip_gap blank (by simp), Phase.passes_written written [] rest ends]
  cases rest with
  | nil => rfl
  | cons b more => rfl

end ModelDepot.Json
