import ModelDepot.Http.Url
import ModelDepot.Proofs.Json.Texts

/-!
Texts in addresses. The bytes of a character that may not stand in an address are spelled by a percent sign and two
digits, and they are read back one character after the other. Main statements: what is spelled with percent signs is
read as it was (`percentDecode_percentEncode`), and so are the pairs of a form (`readForm_formPairs`).
-/
namespace ModelDepot

namespace Text

theorem splitAtAll_eq {α : Type} (separates : α → Bool) (list : List α) :
    splitAtAll separates list = list.splitOnP separates := by
  induction list with
  | nil => rfl
  | cons x rest ih =>
    rw [splitAtAll, ih, List.splitOnP_cons_eq_if_modifyHead]
    congr 1
    cases parts : rest.splitOnP separates with
    | nil => exact absurd parts (List.splitOnP_ne_nil _ _)
    | cons part more => rfl

theorem splitChars_eq (c : Char) (text : List Char) : splitChars c text = text.splitOn c := by
  rw [splitChars, splitAtAll_eq, List.splitOn_eq_splitOnP]

/-- Texts that are joined are cut where they are joined, and where each of them is cut. -/
theorem splitChars_intercalate {c : Char} {texts : List (List Char)} (there : texts ≠ []) :
    splitChars c ([c].intercalate texts) = texts.flatMap (splitChars c) := by
  rw [show splitChars c = List.splitOn c from funext (splitChars_eq c)]
  induction texts with
  | nil => exact absurd rfl there
  | cons text more ih =>
    by_cases last : more = []
    · rw [last, List.intercalate_singleton, List.flatMap_singleton]
    · rw [List.intercalate_cons_of_ne_nil last, List.append_assoc, List.singleton_append,
        List.splitOn_append_cons_self, ih last, List.flatMap_cons]

theorem not_mem_of_mem_splitChars {c : Char} {text part : List Char} (cut : part ∈ splitChars c text) : c ∉ part := by
  rw [splitChars_eq] at cut
  induction text generalizing part with
  | nil =>
    rw [List.splitOn_nil, List.mem_singleton] at cut
    exact cut ▸ List.not_mem_nil
  | cons x rest ih =>
    obtain ⟨first, more, parts⟩ := List.exists_cons_of_ne_nil (List.splitOn_ne_nil c rest)
    rw [List.splitOn_cons_eq_if_modifyHead, parts] at cut
    rw [parts] at ih
    split at cut
    · rcases List.mem_cons.mp cut with rfl | later
      · exact List.not_mem_nil
      · exact ih later
    · rename_i other
      rcases List.mem_cons.mp cut with rfl | later
      · rw [List.mem_cons, not_or]
        exact ⟨fun same => other (beq_iff_eq.mpr same.symm), ih List.mem_cons_self⟩
      · exact ih (List.mem_cons_of_mem _ later)

end Text

namespace Http
open Json

/-! ### Single bytes and characters -/

theorem percentDecode_cons {b : UInt8} (other : b ≠ 0x25) (rest : List UInt8) :
    percentDecode (b :: rest) = b :: percentDecode rest := by
  rw [percentDecode]
  intro a c more same
  exact absurd same other

theorem utf8EncodeChar_upperHex :
    ∀ n < 16, String.utf8EncodeChar (upperHex n) = [UInt8.ofNat (upperHex n).toNat] := by decide

theorem hexValue?_upperHex : ∀ n < 16, hexValue? (UInt8.ofNat (upperHex n).toNat) = some n := by decide

/-- The bytes that spell one byte. -/
theorem utf8_escapeByte (b : UInt8) :
    (escapeByte b).flatMap String.utf8EncodeChar =
      [0x25, UInt8.ofNat (upperHex (b.toNat / 16)).toNat, UInt8.ofNat (upperHex (b.toNat % 16)).toNat] := by
  have small : b.toNat < 256 := b.toNat_lt
  have sign : String.utf8EncodeChar '%' = [0x25] := by decide
  simp only [escapeByte, List.flatMap_cons, List.flatMap_nil, sign,
    utf8EncodeChar_upperHex _ (show b.toNat / 16 < 16 by omega),
    utf8EncodeChar_upperHex _ (show b.toNat % 16 < 16 by omega), List.append_nil, List.cons_append, List.nil_append]

@[simp] theorem percentDecode_escapeByte (b : UInt8) (rest : List UInt8) :
    percentDecode ((escapeByte b).flatMap String.utf8EncodeChar ++ rest) = b :: percentDecode rest := by
  have small : b.toNat < 256 := b.toNat_lt
  rw [utf8_escapeByte]
  simp only [List.cons_append, List.nil_append]
  rw [percentDecode]
  simp only [hexValue?_upperHex _ (show b.toNat / 16 < 16 by omega),
    hexValue?_upperHex _ (show b.toNat % 16 < 16 by omega)]
  rw [show b.toNat / 16 * 16 + b.toNat % 16 = b.toNat by omega, UInt8.ofNat_toNat]

@[simp] theorem percentDecode_escapeBytes (bytes rest : List UInt8) :
    percentDecode ((bytes.flatMap escapeByte).flatMap String.utf8EncodeChar ++ rest) = bytes ++ percentDecode rest := by
  induction bytes with
  | nil => rfl
  | cons b more ih =>
    rw [List.flatMap_cons, List.flatMap_append, List.append_assoc, percentDecode_escapeByte, ih, List.cons_append]

theorem byte_ne_of_ne {c d : Char} (ascii : c.toNat < 0x80) (other : d.toNat < 0x80) (differ : c ≠ d) :
    UInt8.ofNat c.toNat ≠ UInt8.ofNat d.toNat := by
  intro same
  have numbers := congrArg UInt8.toNat same
  rw [UInt8.toNat_ofNat', UInt8.toNat_ofNat'] at numbers
  exact differ (Char.toNat_inj.mp (by omega))

theorem percentDecode_plain {c : Char} (ascii : c.toNat < 0x80) (plain : c ≠ '%') (rest : List UInt8) :
    percentDecode (String.utf8EncodeChar c ++ rest) = String.utf8EncodeChar c ++ percentDecode rest := by
  rw [utf8EncodeChar_ascii ascii, List.singleton_append, List.singleton_append,
    percentDecode_cons (byte_ne_of_ne ascii (by decide) plain)]

/-! ### Whole texts -/

/-- What is read back after every single character is read back after a whole text. -/
theorem decode_flatMap (decode : List UInt8 → List UInt8) (spell : Char → List Char)
    (reads : ∀ c rest, decode ((spell c).flatMap String.utf8EncodeChar ++ rest) =
      String.utf8EncodeChar c ++ decode rest) (s : String) (rest : List UInt8) :
    decode (utf8 (String.ofList (s.toList.flatMap spell)) ++ rest) = utf8 s ++ decode rest := by
  rw [utf8_ofList, utf8_eq]
  generalize s.toList = cs
  induction cs with
  | nil => rfl
  | cons c more ih =>
    rw [List.flatMap_cons, List.flatMap_append, List.append_assoc, reads, ih, List.flatMap_cons, List.append_assoc]

/-- Only characters of ASCII are kept, and the percent sign is not. -/
def Kept (kept : Char → Bool) : Prop := ∀ c, kept c → c.toNat < 0x80 ∧ c ≠ '%'

theorem percentDecode_percentEncode {kept : Char → Bool} (escaping : Kept kept) (s : String) :
    percentDecode (utf8 (percentEncode kept s)) = utf8 s := by
  have whole := decode_flatMap percentDecode
    (fun c => if kept c then [c] else (String.utf8EncodeChar c).flatMap escapeByte) ?_ s []
  · simpa [percentEncode, percentDecode] using whole
  intro c rest
  split
  · rename_i keeps
    obtain ⟨ascii, plain⟩ := escaping c keeps
    rw [List.flatMap_singleton, percentDecode_plain ascii plain]
  · exact percentDecode_escapeBytes _ _

theorem percentEncode_injective {kept : Char → Bool} (escaping : Kept kept) {s t : String}
    (same : percentEncode kept s = percentEncode kept t) : s = t := by
  have bytes : utf8 s = utf8 t := by
    rw [← percentDecode_percentEncode escaping s, same, percentDecode_percentEncode escaping t]
  have texts := congrArg ofUtf8? bytes
  simpa using texts

theorem upperHex_alphanum : ∀ n < 16, (upperHex n).isAlphanum := by decide

/-- A character of a spelling is kept, or the sign, or a digit. -/
theorem mem_escapeBytes {bytes : List UInt8} {c : Char} (member : c ∈ bytes.flatMap escapeByte) :
    c = '%' ∨ c.isAlphanum := by
  obtain ⟨b, -, spelled⟩ := List.mem_flatMap.mp member
  have small : b.toNat < 256 := b.toNat_lt
  simp only [escapeByte, List.mem_cons, List.not_mem_nil, or_false] at spelled
  rcases spelled with rfl | rfl | rfl
  · exact .inl rfl
  · exact .inr (upperHex_alphanum _ (by omega))
  · exact .inr (upperHex_alphanum _ (by omega))

theorem not_mem_percentEncode {kept : Char → Bool} {c : Char} (sign : c ≠ '%') (mark : c.isAlphanum = false)
    (spelled : kept c = false) (s : String) : c ∉ (percentEncode kept s).toList := by
  rw [percentEncode, String.toList_ofList]
  intro member
  obtain ⟨d, -, member⟩ := List.mem_flatMap.mp member
  split at member
  · rename_i keeps
    rw [← List.mem_singleton.mp member, spelled] at keeps
    exact Bool.false_ne_true keeps
  · rcases mem_escapeBytes member with same | digit
    · exact sign same
    · exact Bool.false_ne_true (mark.symm.trans digit)

/-! ### Forms -/

/-- A plus sign stands for a blank in a form. -/
def formByte (b : UInt8) : UInt8 := if b = plus then 0x20 else b

/-- The bytes that a text in a form stands for. -/
def formBytes (bytes : List UInt8) : List UInt8 := percentDecode (bytes.map formByte)

/-- The text that is spelled in a form, if it is one. -/
def formDecode (s : String) : Option String := ofUtf8? (formBytes (utf8 s))

theorem formByte_upperHex : ∀ n < 16, formByte (UInt8.ofNat (upperHex n).toNat) = UInt8.ofNat (upperHex n).toNat := by
  decide

theorem map_formByte_escapeBytes (bytes : List UInt8) :
    ((bytes.flatMap escapeByte).flatMap String.utf8EncodeChar).map formByte =
      (bytes.flatMap escapeByte).flatMap String.utf8EncodeChar := by
  induction bytes with
  | nil => rfl
  | cons b more ih =>
    have small : b.toNat < 256 := b.toNat_lt
    rw [List.flatMap_cons, List.flatMap_append, List.map_append, ih, utf8_escapeByte]
    simp only [List.map_cons, List.map_nil, formByte_upperHex _ (show b.toNat / 16 < 16 by omega),
      formByte_upperHex _ (show b.toNat % 16 < 16 by omega)]
    rfl

/-- The characters that stand for themselves in a form. -/
def formKept (c : Char) : Bool := c.isAlphanum || c = '*' || c = '-' || c = '.' || c = '_'

theorem formChar_eq (c : Char) :
    formChar c =
      if c = ' ' then ['+'] else if formKept c then [c] else (String.utf8EncodeChar c).flatMap escapeByte := rfl

theorem ascii_of_alphanum {c : Char} (alphanum : c.isAlphanum) : c.toNat < 0x80 := by
  have upTo (last : Char) (small : last.toNat < 0x80) (within : c.val ≤ last.val) : c.toNat < 0x80 :=
    Nat.lt_of_le_of_lt (UInt32.le_iff_toNat_le.mp within) small
  rcases (Bool.or_eq_true _ _).mp alphanum with letter | digit
  · rcases (Bool.or_eq_true _ _).mp letter with upper | lower
    · exact upTo 'Z' (by decide) (of_decide_eq_true upper).2
    · exact upTo 'z' (by decide) (of_decide_eq_true ((Bool.and_eq_true _ _).mp lower).2)
  · exact upTo '9' (by decide) (of_decide_eq_true ((Bool.and_eq_true _ _).mp digit).2)

theorem formKept_plain {c : Char} (kept : formKept c) : c.toNat < 0x80 ∧ c ≠ '%' ∧ c ≠ '+' := by
  refine ⟨?_, ?_, ?_⟩
  · simp only [formKept, Bool.or_eq_true, decide_eq_true_eq] at kept
    rcases kept with (((alphanum | rfl) | rfl) | rfl) | rfl
    · exact ascii_of_alphanum alphanum
    all_goals decide
  · rintro rfl
    exact absurd kept (by decide)
  · rintro rfl
    exact absurd kept (by decide)

@[simp] theorem formBytes_formChar (c : Char) (rest : List UInt8) :
    formBytes ((formChar c).flatMap String.utf8EncodeChar ++ rest) = String.utf8EncodeChar c ++ formBytes rest := by
  unfold formBytes
  rw [List.map_append, formChar_eq]
  split
  · rename_i blank
    rw [blank]
    exact percentDecode_cons (by decide) _
  split
  · rename_i kept
    obtain ⟨ascii, noSign, noPlus⟩ := formKept_plain kept
    have itself : formByte (UInt8.ofNat c.toNat) = UInt8.ofNat c.toNat :=
      if_neg (byte_ne_of_ne ascii (d := '+') (by decide) noPlus)
    rw [List.flatMap_singleton, utf8EncodeChar_ascii ascii, List.map_singleton, itself, ← utf8EncodeChar_ascii ascii,
      percentDecode_plain ascii noSign]
  · rw [map_formByte_escapeBytes, percentDecode_escapeBytes]

@[simp] theorem formDecode_formEncode (s : String) : formDecode (formEncode s) = some s := by
  have whole := decode_flatMap formBytes formChar formBytes_formChar s []
  rw [List.append_nil, show formBytes [] = [] from rfl, List.append_nil] at whole
  rw [formDecode, formEncode, whole, ofUtf8?_utf8]

theorem not_mem_formEncode {c : Char} (unkept : formKept c = false) (noSign : c ≠ '%') (noPlus : c ≠ '+') (s : String) :
    c ∉ (formEncode s).toList := by
  rw [formEncode, String.toList_ofList]
  intro member
  obtain ⟨d, -, member⟩ := List.mem_flatMap.mp member
  rw [formChar_eq] at member
  split at member
  · exact noPlus (List.mem_singleton.mp member)
  split at member
  · rename_i kept
    obtain rfl := List.mem_singleton.mp member
    exact Bool.false_ne_true (unkept.symm.trans kept)
  · rcases mem_escapeBytes member with same | digit
    · exact noSign same
    · simp [formKept, digit] at unkept

theorem ampersand_not_mem (s : String) : '&' ∉ (formEncode s).toList :=
  not_mem_formEncode (by decide) (by decide) (by decide) s

theorem equals_not_mem (s : String) : '=' ∉ (formEncode s).toList :=
  not_mem_formEncode (by decide) (by decide) (by decide) s

/-- The name and the value of a pair. -/
def readPair (pair : List Char) : Option (String × String) := do
  let (name, value) := Url.cutAt '=' pair
  return (← formDecode (String.ofList name), ← formDecode (String.ofList (value.getD [])))

/-- The pairs of a form, in order. -/
def readForm (form : String) : List (String × String) := (form.toList.splitOn '&').filterMap readPair

theorem cutAt_append {c : Char} {front : List Char} (absent : c ∉ front) (rest : List Char) :
    Url.cutAt c (front ++ c :: rest) = (front, some rest) := by
  have taken : (front ++ c :: rest).takeWhile (· != c) = front := by
    rw [List.takeWhile_append_of_pos fun d member => bne_iff_ne.mpr fun same : d = c => absent (same ▸ member)]
    simp
  unfold Url.cutAt
  simp [taken]

@[simp] theorem readPair_spelled (name value : String) :
    readPair (formEncode name ++ "=" ++ formEncode value).toList = some (name, value) := by
  rw [String.toList_append, String.toList_append, List.append_assoc]
  unfold readPair
  rw [show "=".toList = ['='] from rfl, List.singleton_append, cutAt_append (equals_not_mem name)]
  simp

theorem readForm_formPairs {pairs : List (String × String)} (there : pairs ≠ []) :
    readForm (formPairs pairs) = pairs := by
  have cut : (formPairs pairs).toList.splitOn '&' =
      pairs.map fun p => (formEncode p.1 ++ "=" ++ formEncode p.2).toList := by
    rw [formPairs, String.toList_intercalate, List.map_map]
    refine List.splitOn_intercalate '&' ?_ (by simpa using there)
    intro part member
    obtain ⟨pair, -, rfl⟩ := List.mem_map.mp member
    simp [ampersand_not_mem]
  have read : (readPair ∘ fun p : String × String => (formEncode p.1 ++ "=" ++ formEncode p.2).toList) = some :=
    funext fun p => readPair_spelled p.1 p.2
  rw [readForm, cut, List.filterMap_map, read, List.filterMap_some]

/-- Pairs that are put behind a form are read after those of the form. -/
theorem readForm_append (form more : String) : readForm (form ++ "&" ++ more) = readForm form ++ readForm more := by
  unfold readForm
  rw [String.toList_append, String.toList_append, List.append_assoc, show "&".toList = ['&'] from rfl,
    List.singleton_append, List.splitOn_append_cons_self, List.filterMap_append]

/-- The pairs that are put into the query of an address are read behind those that it had. -/
theorem readForm_withPairs (url : Url) :
    ∃ before, ∀ pairs, pairs ≠ [] → readForm ((url.withPairs pairs).query.getD "") = before ++ pairs := by
  have unpaired {pairs : List (String × String)} (there : pairs ≠ []) : pairs.isEmpty = false := by
    simpa using there
  unfold Url.withPairs
  rcases there : url.query with _ | query
  · refine ⟨[], fun pairs asked => ?_⟩
    simp [unpaired asked, readForm_formPairs asked]
  · by_cases blank : query = ""
    · refine ⟨[], fun pairs asked => ?_⟩
      simp [unpaired asked, blank, readForm_formPairs asked]
    · refine ⟨readForm query, fun pairs asked => ?_⟩
      simp [unpaired asked, readForm_append, readForm_formPairs asked]

end Http
end ModelDepot
