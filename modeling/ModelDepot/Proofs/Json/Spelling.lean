import ModelDepot.Proofs.Json.Grammar

/-!
However a text is spelled between quotes, it is read as the same characters (`readTextBody_spelled`), and passed over
as a whole (`skip_spelled`).
-/
namespace ModelDepot.Json

/-! ### Units -/

theorem hexValue?_of_isHex {b : UInt8} {value : Nat} (isHex : IsHex b value) : hexValue? b = some value := by
  have each : ∀ value < 16, hexValue? (UInt8.ofNat (hexDigit value).toNat) = some value ∧
      hexValue? (UInt8.ofNat (hexDigit value).toUpper.toNat) = some value := by decide
  obtain ⟨small, rfl | rfl⟩ := isHex
  · exact (each value small).1
  · exact (each value small).2

theorem hexUnit?_of_isHex {a b c d : UInt8} {h i j k : Nat} (isA : IsHex a h) (isB : IsHex b i) (isC : IsHex c j)
    (isD : IsHex d k) : hexUnit? a b c d = some (((h * 16 + i) * 16 + j) * 16 + k) := by
  unfold hexUnit?
  rw [hexValue?_of_isHex isA, hexValue?_of_isHex isB, hexValue?_of_isHex isC, hexValue?_of_isHex isD]
  simp only [Option.pure_def, Option.bind_eq_bind, Option.bind_some, Option.some.injEq]
  omega

theorem short_known : ∀ escape ∈ shortEscapes, escapeValue? escape.1 = some (UInt8.ofNat escape.2) ∧ escape.1 ≠ letterU ∧
    String.utf8EncodeChar (Char.ofNat escape.2) = [UInt8.ofNat escape.2] ∧ escape.2 < 0x80 := by decide

theorem noHalf_of_small {unit : Nat} (small : unit < 0xd800) : isLeadingHalf unit = false ∧ isTrailingHalf unit = false := by
  simp only [isLeadingHalf, isTrailingHalf, Bool.and_eq_false_iff, decide_eq_false_iff_not]
  omega

theorem not_trailing_of_leading {unit : Nat} (leading : isLeadingHalf unit) : isTrailingHalf unit = false := by
  simp only [isLeadingHalf, isTrailingHalf, Bool.and_eq_true, decide_eq_true_eq, Bool.and_eq_false_iff,
    decide_eq_false_iff_not] at leading ⊢
  omega

theorem toNat_range (c : Char) : c.toNat < 0xd800 ∨ 0xdfff < c.toNat ∧ c.toNat < 0x110000 := c.valid

/-- A character is no half of a pair. -/
theorem noHalf_toNat (c : Char) : isLeadingHalf c.toNat = false ∧ isTrailingHalf c.toNat = false := by
  have range := toNat_range c
  simp only [isLeadingHalf, isTrailingHalf, Bool.and_eq_false_iff, decide_eq_false_iff_not]
  omega

/-- What the units of a character begin with. -/
theorem unitsOf_cons (c : Char) : ∃ unit more, unitsOf c = unit :: more ∧ isTrailingHalf unit = false := by
  unfold unitsOf
  split
  · exact ⟨_, _, rfl, (noHalf_toNat c).2⟩
  · refine ⟨_, _, rfl, ?_⟩
    have range := toNat_range c
    simp only [isTrailingHalf, Bool.and_eq_false_iff, decide_eq_false_iff_not]
    omega

theorem charsOf?_unit {unit : Nat} (leading : isLeadingHalf unit = false) (trailing : isTrailingHalf unit = false)
    (more : List Nat) : charsOf? (unit :: more) = (charsOf? more).map (Char.ofNat unit :: ·) := by
  rw [charsOf?.eq_def]
  simp [leading, trailing]

theorem charsOf?_pair {unit other : Nat} (leading : isLeadingHalf unit) (more : List Nat) :
    charsOf? (unit :: other :: more) =
      if isTrailingHalf other then (charsOf? more).map (Char.ofNat (pairValue unit other) :: ·) else none := by
  rw [charsOf?.eq_def]
  simp [leading, not_trailing_of_leading leading]

@[simp]
theorem charsOf?_unitsOf (c : Char) (more : List Nat) : charsOf? (unitsOf c ++ more) = (charsOf? more).map (c :: ·) := by
  unfold unitsOf
  split
  · rw [List.singleton_append, charsOf?_unit (noHalf_toNat c).1 (noHalf_toNat c).2, Char.ofNat_toNat]
  · rename_i large
    have range := toNat_range c
    have leading : isLeadingHalf (0xd800 + (c.toNat - 0x10000) / 0x400) := by
      simp only [isLeadingHalf, Bool.and_eq_true, decide_eq_true_eq]
      omega
    have trailing : isTrailingHalf (0xdc00 + (c.toNat - 0x10000) % 0x400) := by
      simp only [isTrailingHalf, Bool.and_eq_true, decide_eq_true_eq]
      omega
    have value : pairValue (0xd800 + (c.toNat - 0x10000) / 0x400) (0xdc00 + (c.toNat - 0x10000) % 0x400) = c.toNat := by
      unfold pairValue
      omega
    rw [List.cons_append, List.singleton_append, charsOf?_pair leading, if_pos trailing, value, Char.ofNat_toNat]

/-- The units of a text are read as the text. -/
@[simp] theorem textOf?_units (text : String) : textOf? (units text) = some text := by
  have each : ∀ cs : List Char, charsOf? (cs.flatMap unitsOf) = some cs := by
    intro cs
    induction cs with
    | nil => rfl
    | cons c more ih => rw [List.flatMap_cons, charsOf?_unitsOf, ih, Option.map_some]
  rw [textOf?, units, each, Option.map_some, String.ofList_toList]

/-! ### Reading -/

theorem readQuoted_trailing {a b c d : UInt8} {unit : Nat} (spelled : hexUnit? a b c d = some unit)
    (trailing : isTrailingHalf unit) (done rest : List UInt8) :
    readQuoted done (backslash :: letterU :: a :: b :: c :: d :: rest) = .error .malformed := by
  rw [readQuoted.eq_def]
  simp only [spelled, trailing, ↓reduceIte]
  rfl

section Leading
variable {a b c d : UInt8} {unit : Nat} (spelled : hexUnit? a b c d = some unit) (leading : isLeadingHalf unit)
include spelled leading

theorem readQuoted_lone {next : UInt8} (other : next ≠ backslash) (done rest : List UInt8) :
    readQuoted done (backslash :: letterU :: a :: b :: c :: d :: next :: rest) = .error .malformed := by
  rw [readQuoted.eq_def]
  simp only [spelled, leading, not_trailing_of_leading leading, ne_eq, other, not_false_eq_true, ↓reduceIte]
  rfl

theorem readQuoted_lone_escape {mark : UInt8} (other : mark ≠ letterU) (done rest : List UInt8) :
    readQuoted done (backslash :: letterU :: a :: b :: c :: d :: backslash :: mark :: rest) = .error .malformed := by
  rw [readQuoted.eq_def]
  simp only [spelled, leading, not_trailing_of_leading leading, ne_eq, other, not_false_eq_true, not_true_eq_false,
    ↓reduceIte]
  rfl

theorem readQuoted_pair {a' b' c' d' : UInt8} {unit' : Nat} (spelledToo : hexUnit? a' b' c' d' = some unit')
    (done rest : List UInt8) :
    readQuoted done (backslash :: letterU :: a :: b :: c :: d :: backslash :: letterU :: a' :: b' :: c' :: d' :: rest) =
      if isTrailingHalf unit' then
        readQuoted ((String.utf8EncodeChar (Char.ofNat (pairValue unit unit'))).reverse ++ done) rest
      else .error .malformed := by
  rw [readQuoted.eq_def]
  simp only [spelled, leading, not_trailing_of_leading leading, spelledToo, ↓reduceIte]
  rfl

end Leading

/-- What comes of units, after bytes that were read before. -/
def quotedOutcome (done : List UInt8) (units : List Nat) (rest : List UInt8) : Except Fault (List UInt8 × List UInt8) :=
  match charsOf? units with
  | some cs => .ok (done.reverse ++ cs.flatMap String.utf8EncodeChar, rest)
  | none => .error .malformed

theorem quotedOutcome_map {c : Char} {units more : List Nat} (first : charsOf? units = (charsOf? more).map (c :: ·))
    (done rest : List UInt8) :
    quotedOutcome done units rest = quotedOutcome ((String.utf8EncodeChar c).reverse ++ done) more rest := by
  unfold quotedOutcome
  rw [first]
  cases charsOf? more <;> simp

theorem quotedOutcome_none {units : List Nat} (none : charsOf? units = none) (done rest : List UInt8) :
    quotedOutcome done units rest = .error .malformed := by
  rw [quotedOutcome, none]

theorem quotedOutcome_trailing {unit : Nat} (trailing : isTrailingHalf unit) (units : List Nat) (done rest : List UInt8) :
    quotedOutcome done (unit :: units) rest = .error .malformed := by
  refine quotedOutcome_none ?_ done rest
  rw [charsOf?.eq_def]
  simp [trailing]

section Leading
variable {unit other : Nat} (leading : isLeadingHalf unit)
include leading

/-- A half without the other one is no character. -/
theorem quotedOutcome_lone (noTrailing : isTrailingHalf other = false) (units : List Nat) (done rest : List UInt8) :
    quotedOutcome done (unit :: other :: units) rest = .error .malformed := by
  refine quotedOutcome_none ?_ done rest
  rw [charsOf?_pair leading, if_neg (by simp [noTrailing])]

theorem quotedOutcome_pair (trailing : isTrailingHalf other) (units : List Nat) (done rest : List UInt8) :
    quotedOutcome done (unit :: other :: units) rest =
      quotedOutcome ((String.utf8EncodeChar (Char.ofNat (pairValue unit other))).reverse ++ done) units rest := by
  refine quotedOutcome_map ?_ done rest
  rw [charsOf?_pair leading, if_pos trailing]

end Leading

/-- What is spelled is read as its units. The second part is about the half of a pair right before it, of which the
    other half may be the first unit. -/
theorem readQuoted_spelled {units : List Nat} {body : List UInt8} (spelled : Spelled units body) :
    (∀ done rest, readQuoted done (body ++ quoteMark :: rest) = quotedOutcome done units rest) ∧
    ∀ {a b c d : UInt8} {unit : Nat}, hexUnit? a b c d = some unit → isLeadingHalf unit → ∀ done rest,
      readQuoted done (backslash :: letterU :: a :: b :: c :: d :: (body ++ quoteMark :: rest)) =
        quotedOutcome done (unit :: units) rest := by
  induction spelled with
  | done =>
    refine ⟨fun done rest => ?_, fun {a b c d unit} isUnit leading done rest => ?_⟩
    · rw [List.nil_append, readQuoted.eq_def]
      simp [quotedOutcome, charsOf?]
    · rw [List.nil_append, readQuoted_lone isUnit leading (by decide)]
      exact (quotedOutcome_none (by simp [charsOf?, leading]) done rest).symm
  | @plain c units bytes noQuote noBackslash noControl further ih =>
    have plain := plain_utf8EncodeChar noQuote noBackslash noControl
    refine ⟨fun done rest => ?_, fun {a b c' d unit} isUnit leading done rest => ?_⟩
    · rw [List.append_assoc, readQuoted_plain plain, ih.1, quotedOutcome_map (charsOf?_unitsOf c units)]
    · -- a character as it stands is never the other half, neither to the reader nor among the units
      obtain ⟨b, more, isFirst⟩ : ∃ b more, String.utf8EncodeChar c = b :: more :=
        List.exists_cons_of_ne_nil (List.ne_nil_of_length_pos (by rw [String.length_utf8EncodeChar]; exact c.utf8Size_pos))
      have noEscape := (plain b (by rw [isFirst]; exact List.mem_cons_self)).2.2
      obtain ⟨unit', others, areUnits, noTrailing⟩ := unitsOf_cons c
      rw [isFirst, List.cons_append, List.cons_append, readQuoted_lone isUnit leading noEscape, areUnits,
        List.cons_append, quotedOutcome_lone leading noTrailing]
  | @short mark unit units bytes known further ih =>
    obtain ⟨value, noUnit, itself, small⟩ := short_known _ known
    simp only at value noUnit itself small
    obtain ⟨noLeading, noTrailing⟩ := noHalf_of_small (Nat.lt_trans small (by decide))
    refine ⟨fun done rest => ?_, fun {a b c d unit'} isUnit leading done rest => ?_⟩
    · rw [List.cons_append, List.cons_append, readQuoted_escape mark value noUnit, ih.1,
        quotedOutcome_map (charsOf?_unit noLeading noTrailing units), itself]
      rfl
    · rw [List.cons_append, List.cons_append, readQuoted_lone_escape isUnit leading noUnit,
        quotedOutcome_lone leading noTrailing]
  | @hex a b c d h i j k units bytes isA isB isC isD further ih =>
    have isUnit := hexUnit?_of_isHex isA isB isC isD
    generalize ((h * 16 + i) * 16 + j) * 16 + k = unit at isUnit
    refine ⟨fun done rest => ?_, fun {a' b' c' d' unit'} isUnitToo leading done rest => ?_⟩
    · simp only [List.cons_append]
      by_cases trailing : isTrailingHalf unit
      · rw [readQuoted_trailing isUnit trailing, quotedOutcome_trailing trailing]
      by_cases leading : isLeadingHalf unit
      · -- the reader takes both halves at once, so this one is left to what follows
        exact ih.2 isUnit leading done rest
      · rw [readQuoted_unit isUnit (by simpa using leading) (by simpa using trailing), ih.1,
          quotedOutcome_map (charsOf?_unit (by simpa using leading) (by simpa using trailing) units)]
    · simp only [List.cons_append]
      rw [readQuoted_pair isUnitToo leading isUnit]
      by_cases trailing : isTrailingHalf unit
      · rw [if_pos trailing, ih.1, quotedOutcome_pair leading trailing]
      · rw [if_neg trailing, quotedOutcome_lone leading (by simpa using trailing)]

/-- A spelled text is read after its opening mark, if its units stand for characters. -/
theorem readTextBody_spelled {units : List Nat} {body : List UInt8} (spelled : Spelled units body) (rest : List UInt8) :
    readTextBody (body ++ quoteMark :: rest) =
      match textOf? units with
      | some text => .ok (text, rest)
      | none => .error .malformed := by
  unfold readTextBody
  rw [(readQuoted_spelled spelled).1, quotedOutcome, textOf?]
  cases charsOf? units with
  | none => rfl
  | some cs =>
    simp only [bind, Except.bind, List.reverse_nil, List.nil_append, ← utf8_ofList, ofUtf8?_utf8, Option.map_some]
    rfl

end ModelDepot.Json
