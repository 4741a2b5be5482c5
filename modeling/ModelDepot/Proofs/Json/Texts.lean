import ModelDepot.Json.Printer

/-!
A quoted text is read as it was before it was printed: every character is printed as bytes that
stand for themselves, or as an escape that stands for its bytes.
-/
namespace ModelDepot.Json

@[simp] theorem utf8_ofList (cs : List Char) : utf8 (String.ofList cs) = cs.flatMap String.utf8EncodeChar := by
  unfold utf8
  rw [String.toUTF8_eq_toByteArray, String.toByteArray_ofList, List.utf8Encode]
  exact List.toList_data_toByteArray

theorem utf8_eq (s : String) : utf8 s = s.toList.flatMap String.utf8EncodeChar := by
  rw [← utf8_ofList, String.ofList_toList]

@[simp] theorem utf8_append (a b : String) : utf8 (a ++ b) = utf8 a ++ utf8 b := by
  simp [utf8, String.toByteArray_append, ByteArray.data_append]

@[simp] theorem ofUtf8?_utf8 (s : String) : ofUtf8? (utf8 s) = some s := by
  have valid : s.toByteArray.IsValidUTF8 := s.isValidUTF8
  simp only [ofUtf8?, utf8, String.toUTF8_eq_toByteArray, String.fromUTF8?]
  rw [dif_pos valid]
  rfl

/-! ### One character -/

theorem utf8EncodeChar_ascii {c : Char} (ascii : c.toNat < 0x80) :
    String.utf8EncodeChar c = [UInt8.ofNat c.toNat] := by
  unfold String.utf8EncodeChar
  dsimp only
  rw [show c.val.toNat = c.toNat from rfl, if_pos (by omega)]

/-- The byte stands for itself between quotes. -/
def IsPlain (b : UInt8) : Prop := b ≠ quoteMark ∧ ¬ b < 0x20 ∧ b ≠ backslash

theorem isPlain_iff {b : UInt8} : IsPlain b ↔ b.toNat ≠ 0x22 ∧ 0x20 ≤ b.toNat ∧ b.toNat ≠ 0x5c := by
  unfold IsPlain
  simp only [ne_eq, ← UInt8.toNat_inj, UInt8.lt_iff_toNat_lt, Nat.not_lt]
  rfl

theorem readQuoted_plain {bytes : List UInt8} (plain : ∀ b ∈ bytes, IsPlain b) (done rest : List UInt8) :
    readQuoted done (bytes ++ rest) = readQuoted (bytes.reverse ++ done) rest := by
  induction bytes generalizing done with
  | nil => rfl
  | cons b more ih =>
    obtain ⟨noQuote, noControl, noBackslash⟩ := plain b List.mem_cons_self
    rw [List.cons_append, readQuoted.eq_def]
    simp only [noQuote, noControl, noBackslash, ↓reduceIte]
    rw [ih fun other member => plain other (List.mem_cons_of_mem _ member)]
    simp

theorem readQuoted_escape {value : UInt8} (mark : UInt8) (known : escapeValue? mark = some value)
    (other : mark ≠ letterU) (done rest : List UInt8) :
    readQuoted done (backslash :: mark :: rest) = readQuoted (value :: done) rest := by
  rw [readQuoted.eq_def]
  simp only [other, known, ↓reduceIte]
  rfl

theorem readQuoted_unit {a b c d : UInt8} {unit : Nat} (spelled : hexUnit? a b c d = some unit)
    (leading : isLeadingHalf unit = false) (trailing : isTrailingHalf unit = false) (done rest : List UInt8) :
    readQuoted done (backslash :: letterU :: a :: b :: c :: d :: rest) =
      readQuoted ((String.utf8EncodeChar (Char.ofNat unit)).reverse ++ done) rest := by
  rw [readQuoted.eq_def]
  simp only [spelled, leading, trailing, ↓reduceIte]
  rfl

/-- Bytes beyond the first half are plain, and so are all characters but two and the controls. -/
theorem plain_utf8EncodeChar {c : Char} (noQuote : c ≠ '"') (noBackslash : c ≠ '\\') (noControl : ¬ c.toNat < 0x20) :
    ∀ b ∈ String.utf8EncodeChar c, IsPlain b := by
  have notQuote : c.toNat ≠ 0x22 := fun same => noQuote (Char.toNat_inj.mp same)
  have notBackslash : c.toNat ≠ 0x5c := fun same => noBackslash (Char.toNat_inj.mp same)
  intro b member
  rw [isPlain_iff]
  unfold String.utf8EncodeChar at member
  dsimp only at member
  rw [show c.val.toNat = c.toNat from rfl] at member
  split at member
  · obtain rfl := List.mem_singleton.mp member
    rw [UInt8.toNat_ofNat']
    omega
  split at member
  · simp only [List.mem_cons, List.not_mem_nil, or_false] at member
    rcases member with rfl | rfl <;> rw [UInt8.toNat_ofNat'] <;> omega
  split at member
  · simp only [List.mem_cons, List.not_mem_nil, or_false] at member
    rcases member with rfl | rfl | rfl <;> rw [UInt8.toNat_ofNat'] <;> omega
  · simp only [List.mem_cons, List.not_mem_nil, or_false] at member
    rcases member with rfl | rfl | rfl | rfl <;> rw [UInt8.toNat_ofNat'] <;> omega

/-- The digits of a control that has no letter of its own. -/
theorem hexUnit?_control : ∀ n < 0x20, hexUnit? digitZero digitZero (UInt8.ofNat (hexDigit (n / 16)).toNat)
    (UInt8.ofNat (hexDigit (n % 16)).toNat) = some n := by decide

theorem utf8EncodeChar_hexDigit : ∀ n < 16, String.utf8EncodeChar (hexDigit n) = [UInt8.ofNat (hexDigit n).toNat] := by
  decide

theorem readQuoted_printChar (c : Char) (done rest : List UInt8) :
    readQuoted done ((printChar c).flatMap String.utf8EncodeChar ++ rest) =
      readQuoted ((String.utf8EncodeChar c).reverse ++ done) rest := by
  have numbered : ∀ n, c.toNat = n → c = Char.ofNat n := fun n same => by rw [← same, Char.ofNat_toNat]
  unfold printChar
  split
  · rename_i same
    rw [same]
    exact readQuoted_escape quoteMark rfl (by decide) done rest
  rename_i noQuote
  split
  · rename_i same
    rw [same]
    exact readQuoted_escape backslash rfl (by decide) done rest
  rename_i noBackslash
  split
  · rename_i same
    rw [numbered _ same]
    exact readQuoted_escape 0x62 rfl (by decide) done rest
  split
  · rename_i same
    rw [numbered _ same]
    exact readQuoted_escape 0x66 rfl (by decide) done rest
  split
  · rename_i same
    rw [same]
    exact readQuoted_escape 0x6e rfl (by decide) done rest
  split
  · rename_i same
    rw [same]
    exact readQuoted_escape 0x72 rfl (by decide) done rest
  split
  · rename_i same
    rw [same]
    exact readQuoted_escape 0x74 rfl (by decide) done rest
  split
  · rename_i control
    have spelled := hexUnit?_control c.toNat control
    have leading : isLeadingHalf c.toNat = false := by simp [isLeadingHalf]; omega
    have trailing : isTrailingHalf c.toNat = false := by simp [isTrailingHalf]; omega
    have read := readQuoted_unit spelled leading trailing done rest
    rw [Char.ofNat_toNat] at read
    rw [← read]
    simp only [List.flatMap_cons, List.flatMap_nil, List.append_nil]
    rw [utf8EncodeChar_hexDigit _ (by omega), utf8EncodeChar_hexDigit _ (by omega)]
    rfl
  · rename_i noControl
    rw [List.flatMap_singleton]
    exact readQuoted_plain (plain_utf8EncodeChar noQuote noBackslash noControl) done rest

/-! ### Whole texts -/

theorem readQuoted_chars (cs : List Char) (done rest : List UInt8) :
    readQuoted done ((cs.flatMap printChar).flatMap String.utf8EncodeChar ++ quoteMark :: rest) =
      .ok (done.reverse ++ cs.flatMap String.utf8EncodeChar, rest) := by
  induction cs generalizing done with
  | nil =>
    rw [List.flatMap_nil, List.flatMap_nil, List.nil_append, readQuoted.eq_def]
    simp
  | cons c more ih =>
    rw [List.flatMap_cons, List.flatMap_append, List.append_assoc, readQuoted_printChar, ih]
    simp

theorem utf8_printText (s : String) :
    utf8 (printText s) =
      quoteMark :: ((s.toList.flatMap printChar).flatMap String.utf8EncodeChar ++ [quoteMark]) := by
  unfold printText
  rw [utf8_ofList, List.flatMap_cons, List.flatMap_append]
  rfl

/-- A printed text is read after its opening mark. -/
theorem readTextBody_printText (s : String) (rest : List UInt8) :
    readTextBody ((utf8 (printText s) ++ rest).drop 1) = .ok (s, rest) := by
  rw [utf8_printText, List.cons_append, List.drop_one, List.tail_cons, List.append_assoc, List.singleton_append]
  unfold readTextBody
  rw [readQuoted_chars, List.reverse_nil, List.nil_append, ← utf8_eq]
  simp only [bind, Except.bind, ofUtf8?_utf8]
  rfl

end ModelDepot.Json
