import ModelDepot.Proofs.Json.Texts

/-!
A whole number of at most 64 bits is read as it was before it was printed, when no digit, point or
exponent follows.
-/
namespace ModelDepot.Json

/-- What follows cannot belong to a numeral. -/
def EndsNumeral (rest : List UInt8) : Prop :=
  ∀ b, rest.head? = some b → isDigit b = false ∧ b ≠ point ∧ isExponentMark b = false

/-- The byte of a digit. -/
def digitByte (c : Char) : UInt8 := UInt8.ofNat c.toNat

theorem isDigit_digitByte {c : Char} (digit : c.isDigit) :
    isDigit (digitByte c) ∧ digitValue (digitByte c) = c.toNat - '0'.toNat := by
  have range := Char.isDigit_iff_toNat.mp digit
  have each : ∀ n < 128, '0'.toNat ≤ n ∧ n ≤ '9'.toNat →
      isDigit (UInt8.ofNat n) ∧ digitValue (UInt8.ofNat n) = n - '0'.toNat := by decide
  exact each c.toNat (by have := range.2; simp at this; omega) range

/-- No other digit has the byte of zero. -/
theorem eq_of_digitByte {c : Char} (digit : c.isDigit) (zero : digitByte c = digitZero) : c = '0' := by
  have value := (isDigit_digitByte digit).2
  rw [zero] at value
  have range := Char.isDigit_iff_toNat.mp digit
  have : digitValue digitZero = 0 := rfl
  exact Char.toNat_inj.mp (by omega)

theorem utf8EncodeChar_digit {c : Char} (digit : c.isDigit) : String.utf8EncodeChar c = [digitByte c] :=
  utf8EncodeChar_ascii (Nat.lt_of_le_of_lt (Char.isDigit_iff_toNat.mp digit).2 (by decide))

/-- The bytes of a number. -/
def digitBytes (n : Nat) : List UInt8 := (Nat.toDigits 10 n).map digitByte

theorem isDigit_toDigits {n : Nat} {c : Char} (member : c ∈ Nat.toDigits 10 n) : c.isDigit :=
  Nat.isDigit_of_mem_toDigits (by decide) (by decide) member

theorem utf8_toString (n : Nat) : utf8 (toString n) = digitBytes n := by
  rw [Nat.toString_eq_ofList_toDigits, utf8_ofList, digitBytes]
  have each : ∀ cs : List Char, (∀ c ∈ cs, c.isDigit) → cs.flatMap String.utf8EncodeChar = cs.map digitByte := by
    intro cs digits
    induction cs with
    | nil => rfl
    | cons c more ih =>
      rw [List.flatMap_cons, utf8EncodeChar_digit (digits c List.mem_cons_self),
        ih fun other member => digits other (List.mem_cons_of_mem _ member)]
      rfl
  exact each _ fun c => isDigit_toDigits

/-- Only zero begins with a zero. -/
theorem head_toDigits {n : Nat} (positive : 0 < n) : (Nat.toDigits 10 n).head? ≠ some '0' := by
  induction n using Nat.base_induction 10 (by decide) with
  | single m small =>
    rw [Nat.toDigits_of_lt_base small]
    have each : ∀ m < 10, 0 < m → [m.digitChar].head? ≠ some '0' := by decide
    exact each m small positive
  | digit m k small more ih =>
    have first := ih more
    rw [← Nat.toDigits_append_toDigits (by decide) more small]
    cases digits : Nat.toDigits 10 m with
    | nil => exact (Nat.toDigits_ne_nil digits).elim
    | cons c cs =>
      rw [digits] at first
      exact first

/-- More digits never make a number smaller. -/
theorem le_ofDigitChars (cs : List Char) (value : Nat) : value ≤ Nat.ofDigitChars 10 cs value := by
  rw [Nat.ofDigitChars_eq_ofDigitChars_zero]
  exact Nat.le_trans (Nat.le_mul_of_pos_left _ (Nat.pow_pos (by decide))) (Nat.le_add_right _ _)

theorem readDigits_digits {cs : List Char} (digits : ∀ c ∈ cs, c.isDigit) (value count : Nat) {rest : List UInt8}
    (ends : EndsNumeral rest) (fits : Nat.ofDigitChars 10 cs value ≤ maxWord) :
    readDigits value count (cs.map digitByte ++ rest) = (Nat.ofDigitChars 10 cs value, count + cs.length, rest) := by
  induction cs generalizing value count with
  | nil =>
    cases rest with
    | nil => rfl
    | cons b more =>
      have other := (ends b rfl).1
      simp [readDigits, other]
  | cons c more ih =>
    obtain ⟨isDigit, digitIs⟩ := isDigit_digitByte (digits c List.mem_cons_self)
    rw [Nat.ofDigitChars_cons] at fits ⊢
    have next : value * 10 + digitValue (digitByte c) = 10 * value + (c.toNat - '0'.toNat) := by
      rw [digitIs, Nat.mul_comm]
    rw [List.map_cons, List.cons_append, readDigits, next]
    have within : 10 * value + (c.toNat - '0'.toNat) ≤ maxWord := Nat.le_trans (le_ofDigitChars more _) fits
    simp only [isDigit, within, decide_true, Bool.and_true, ↓reduceIte]
    rw [ih (fun other member => digits other (List.mem_cons_of_mem _ member)) _ _ fits, List.length_cons]
    congr 2
    omega

/-- A number is not taken for one with a zero in front. -/
theorem noZero_toDigits {n : Nat} {c : Char} {cs : List Char} (spelled : Nat.toDigits 10 n = c :: cs)
    {rest : List UInt8} (ends : EndsNumeral rest) :
    (decide (digitByte c = digitZero) && (((cs.map digitByte ++ rest).head?).map isDigit).getD false) = false := by
  rcases Nat.eq_zero_or_pos n with rfl | positive
  · obtain ⟨rfl, rfl⟩ := List.cons.inj (spelled.symm.trans (Nat.toDigits_zero 10))
    cases rest with
    | nil => rfl
    | cons b more => simp [(ends b rfl).1]
  · have other : digitByte c ≠ digitZero := by
      intro same
      have digit : c.isDigit := isDigit_toDigits (by rw [spelled]; exact List.mem_cons_self)
      have first := head_toDigits positive
      rw [spelled, eq_of_digitByte digit same] at first
      exact first rfl
    simp [other]

theorem ended_zero (negative : Bool) (n : Nat) (rest : List UInt8) :
    readNumeral.ended negative n 0 rest = (wholeNumeral negative n).map (·, rest) := by
  unfold readNumeral.ended
  cases wholeNumeral negative n <;> rfl

theorem readNumeral_digits {n : Nat} (fits : n ≤ maxWord) (negative : Bool) {rest : List UInt8}
    (ends : EndsNumeral rest) :
    readNumeral negative (digitBytes n ++ rest) = (wholeNumeral negative n).map (·, rest) := by
  have digits : ∀ c ∈ Nat.toDigits 10 n, c.isDigit := fun c => isDigit_toDigits
  have whole := readDigits_digits digits 0 0 ends (by rw [Nat.ofDigitChars_ten_toDigits]; exact fits)
  rw [Nat.ofDigitChars_ten_toDigits] at whole
  have noDigits : rest.takeWhile isDigit = [] ∧ rest.dropWhile isDigit = rest := by
    cases rest with
    | nil => exact ⟨rfl, rfl⟩
    | cons b more => simp [(ends b rfl).1]
  unfold digitBytes
  cases spelled : Nat.toDigits 10 n with
  | nil => exact (Nat.toDigits_ne_nil spelled).elim
  | cons c cs =>
    have first := (isDigit_digitByte (digits c (by rw [spelled]; exact List.mem_cons_self))).1
    rw [spelled] at whole
    unfold readNumeral
    simp only [List.map_cons, List.cons_append] at whole ⊢
    simp only [first, noZero_toDigits spelled ends, whole, noDigits, Bool.not_true, Bool.false_eq_true, ↓reduceIte,
      List.length_nil]
    cases rest with
    | nil => exact ended_zero negative n []
    | cons b more =>
      obtain ⟨_, noPoint, noExponent⟩ := ends b rfl
      simp only [noPoint, noExponent, Bool.false_eq_true, ↓reduceIte]
      exact ended_zero negative n (b :: more)

/-! ### Whole numbers with a sign -/

theorem utf8_toString_int (n : Int) :
    utf8 (toString n) = if n < 0 then minus :: digitBytes n.natAbs else digitBytes n.natAbs := by
  cases n with
  | ofNat m =>
    rw [if_neg (by simp)]
    exact utf8_toString m
  | negSucc m =>
    rw [if_pos (Int.negSucc_lt_zero m)]
    rw [show toString (Int.negSucc m) = "-" ++ toString (m + 1) from rfl, utf8_append, utf8_toString]
    rfl

end ModelDepot.Json
