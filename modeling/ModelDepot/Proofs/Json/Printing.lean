import ModelDepot.Proofs.Json.Maps

/-!
What is printed, as written values. A printer that `Conveys` a relation writes for each value something that means it,
so a reader that denotes the same relation reads it back (`Codec.parse_print`), also where the members of a record stand on
lines of their own (`Shape.parse_laidOut`).
-/
namespace ModelDepot.Json

/-! ### Texts -/

/-- A character is printed as one of its spellings. -/
theorem spelled_printChar (c : Char) {units : List Nat} {bytes : List UInt8} (further : Spelled units bytes) :
    Spelled (unitsOf c ++ units) ((printChar c).flatMap String.utf8EncodeChar ++ bytes) := by
  have short (n : Nat) {mark : UInt8} (known : (mark, n) ∈ shortEscapes) (is : c.toNat = n) :
      Spelled (unitsOf c ++ units) (backslash :: mark :: bytes) := by
    have small := (short_known _ known).2.2.2
    rw [unitsOf, if_pos (by omega), is]
    exact .short known further
  unfold printChar
  split
  · exact short 0x22 (by decide) (congrArg Char.toNat ‹_›)
  rename_i noQuote
  split
  · exact short 0x5c (by decide) (congrArg Char.toNat ‹_›)
  rename_i noBackslash
  split
  · exact short 0x08 (by decide) ‹_›
  split
  · exact short 0x0c (by decide) ‹_›
  split
  · exact short 0x0a (by decide) (congrArg Char.toNat ‹_›)
  split
  · exact short 0x0d (by decide) (congrArg Char.toNat ‹_›)
  split
  · exact short 0x09 (by decide) (congrArg Char.toNat ‹_›)
  split
  · rename_i control
    have zero : IsHex digitZero 0 := by decide
    have digit {n : Nat} (small : n < 16) : IsHex (UInt8.ofNat (hexDigit n).toNat) n := ⟨small, .inl rfl⟩
    have spelled := Spelled.hex zero zero (digit (n := c.toNat / 16) (by omega)) (digit (n := c.toNat % 16) (by omega)) further
    rw [show ((0 * 16 + 0) * 16 + c.toNat / 16) * 16 + c.toNat % 16 = c.toNat by omega] at spelled
    rw [unitsOf, if_pos (by omega), List.singleton_append]
    simp only [List.flatMap_cons, List.flatMap_nil, List.append_nil]
    rw [utf8EncodeChar_hexDigit _ (by omega), utf8EncodeChar_hexDigit _ (by omega)]
    exact spelled
  · rename_i noControl
    rw [List.flatMap_singleton]
    exact .plain noQuote noBackslash noControl further

/-- What stands between the quotes of a printed text. -/
def quotedBytes (s : String) : List UInt8 := (s.toList.flatMap printChar).flatMap String.utf8EncodeChar

theorem spelled_quotedBytes (s : String) : Spelled (units s) (quotedBytes s) := by
  unfold units quotedBytes
  generalize s.toList = cs
  induction cs with
  | nil => exact .done
  | cons c more ih =>
    rw [List.flatMap_cons, List.flatMap_cons, List.flatMap_append]
    exact spelled_printChar c ih

/-! ### Printers -/

/-- What is printed for a value is written as something that means it. -/
def Conveys {α : Type} (print : α → String) (means : Value → α → Prop) : Prop :=
  ∀ x, ∃ value, Written (.value value) (utf8 (print x)) ∧ means value x

theorem conveys_text : Conveys printText fun value text => ∃ units, value = .text units ∧ textOf? units = some text := by
  intro s
  rw [utf8_printText]
  exact ⟨.text (units s), .text (spelled_quotedBytes s), units s, rfl, textOf?_units s⟩

theorem conveys_flag : Conveys printFlag fun value flag => value = .flag flag := by
  intro flag
  cases flag with
  | true => exact ⟨.flag true, .yes, rfl⟩
  | false => exact ⟨.flag false, .no, rfl⟩

/-! ### Numbers -/

@[simp] theorem valueOf_digitBytes (n : Nat) : valueOf (digitBytes n) 0 = n := by
  have each : ∀ cs : List Char, (∀ c ∈ cs, c.isDigit) → ∀ value,
      valueOf (cs.map digitByte) value = Nat.ofDigitChars 10 cs value := by
    intro cs digits
    induction cs with
    | nil => exact fun _ => rfl
    | cons c more ih =>
      intro value
      rw [Nat.ofDigitChars_cons, ← ih fun other member => digits other (List.mem_cons_of_mem _ member), List.map_cons,
        valueOf, List.foldl_cons, (isDigit_digitByte (digits c List.mem_cons_self)).2, Nat.mul_comm value]
      rfl
  rw [digitBytes, each _ fun c => isDigit_toDigits, Nat.ofDigitChars_ten_toDigits]

theorem sound_digitBytes (n : Nat) : Number.Sound ⟨false, digitBytes n, []⟩ where
  digits := by
    refine ⟨by simp [digitBytes, Nat.toDigits_ne_nil], fun b member => ?_⟩
    obtain ⟨c, isChar, rfl⟩ := List.mem_map.mp member
    exact (isDigit_digitByte (isDigit_toDigits isChar)).1
  noZero first := by
    rcases Nat.eq_zero_or_pos n with rfl | positive
    · rfl
    · simp only [digitBytes, List.head?_map, Option.map_eq_some_iff] at first
      obtain ⟨c, isFirst, zero⟩ := first
      have digit := isDigit_toDigits (List.mem_of_head? isFirst)
      exact absurd (eq_of_digitByte digit zero ▸ isFirst) (head_toDigits positive)
  scale := ⟨[], [], .inl rfl, .inl rfl, rfl⟩

theorem conveys_count :
    Conveys printCount fun value n => ∃ number, value = .number number ∧ number.Is n.toNat := by
  intro n
  have small : n.toNat ≤ maxWord := Nat.le_of_lt_succ n.toNat_lt
  have written := Written.number (sound_digitBytes n.toNat)
  simp only [Number.bytes, Bool.false_eq_true, ↓reduceIte, List.nil_append, List.append_nil] at written
  rw [printCount, utf8_toString]
  exact ⟨_, written, _, rfl, rfl, by simpa using small⟩

/-! ### Values that may be null, and choices -/

variable {α : Type} {print : α → String} {means : Value → α → Prop}

theorem conveys_nullable (conveys : Conveys print means) (filled : ∀ x, ¬ means .null x) :
    Conveys (printNullable print) fun value result =>
      (value = .null ∧ result = none) ∨ (value ≠ .null ∧ ∃ present, result = some present ∧ means value present) := by
  intro result
  cases result with
  | none => exact ⟨.null, .null, .inl ⟨rfl, rfl⟩⟩
  | some x =>
    obtain ⟨value, written, isValue⟩ := conveys x
    refine ⟨value, written, .inr ⟨?_, x, rfl, isValue⟩⟩
    rintro rfl
    exact filled x isValue

theorem conveys_choice {choices : List (String × α)} {name : α → String} (named : ∀ x, choices.lookup (name x) = some x) :
    Conveys (fun x => printText (name x)) (MeansChoice choices) := by
  intro x
  obtain ⟨value, written, units, rfl, isName⟩ := conveys_text (name x)
  exact ⟨_, written, units, name x, .inl rfl, isName, named x⟩

/-! ### Layouts -/

/-- The white space in a map: before each of its members, behind the colon, and before the closing mark. -/
structure Layout where
  before : List UInt8
  behind : List UInt8
  closing : List UInt8
  blank : Blank before ∧ Blank behind ∧ Blank closing

/-- No white space at all. -/
def Layout.compact : Layout := ⟨[], [], [], blank_nil, blank_nil, blank_nil⟩

/-- The bytes of members from the first one or a later one on, up to the closing mark. -/
def Layout.bytes (layout : Layout) : Bool → List (String × String) → List UInt8
  | _, [] => layout.closing ++ [closeMap]
  | isFirst, (name, text) :: more =>
    (if isFirst then [] else [comma]) ++ (layout.before ++ (utf8 (printText name) ++
      colon :: (layout.behind ++ (utf8 text ++ layout.bytes false more))))

theorem bytes_compact (isFirst : Bool) (members : List (String × String)) :
    Layout.compact.bytes isFirst members = memberBytes isFirst members := by
  induction members generalizing isFirst with
  | nil => rfl
  | cons member more ih =>
    rw [Layout.bytes, memberBytes, ih]
    rfl

theorem Layout.separates (layout : Layout) (isFirst : Bool) :
    Separates isFirst ((if isFirst then [] else [comma]) ++ layout.before) := by
  cases isFirst with
  | true => exact layout.blank.1
  | false => exact ⟨[], layout.before, blank_nil, layout.blank.1, rfl⟩

/-- The texts stand for the values of members of the same names, in the same order. -/
def Lists (texts : List (String × String)) (members : Members) : Prop :=
  List.Forall₂ (fun text member => member.1 = units text.1 ∧ Written (.value member.2) (utf8 text.2)) texts members

theorem Lists.written {texts : List (String × String)} {members : Members} (lists : Lists texts members) (layout : Layout)
    (isFirst : Bool) : Written (.members isFirst members) (layout.bytes isFirst texts) := by
  induction lists generalizing isFirst with
  | nil => exact .lastMember layout.blank.2.2
  | @cons text member texts members head lists ih =>
    obtain ⟨name, text⟩ := text
    obtain ⟨key, value⟩ := member
    obtain ⟨rfl, written⟩ := head
    have member := Written.member (layout.separates isFirst) (spelled_quotedBytes name) blank_nil layout.blank.2.1 written
      (ih false)
    rw [Layout.bytes, utf8_printText]
    simpa only [quotedBytes, List.append_assoc, List.cons_append, List.nil_append] using member

theorem Lists.written_map {texts : List (String × String)} {members : Members} (lists : Lists texts members) :
    Written (.value (.map members)) (utf8 (printMembers texts)) := by
  rw [utf8_printMembers, ← bytes_compact]
  exact .map (lists.written .compact true)

/-! ### Maps from texts -/

@[simp] theorem ofList_toList (dict : Dict α) : Std.ExtTreeMap.ofList dict.toList = dict := by
  refine Std.ExtTreeMap.ext_getElem? fun key => ?_
  cases found : dict[key]? with
  | some x =>
    have member : (key, x) ∈ dict.toList := Std.ExtTreeMap.mem_toList_iff_getElem?_eq_some.mpr found
    exact Std.ExtTreeMap.getElem?_ofList_of_mem Std.compare_self Std.ExtTreeMap.distinct_keys_toList member
  | none =>
    refine Std.ExtTreeMap.getElem?_ofList_of_contains_eq_false ?_
    rw [Std.ExtTreeMap.map_fst_toList_eq_keys]
    simpa using found

theorem conveys_dict (conveys : Conveys print means) : Conveys (printDict print) (MeansDict means) := by
  intro dict
  have all (entries : List (String × α)) : ∃ members, Lists (entries.map fun entry => (entry.1, print entry.2)) members ∧
      List.Forall₂ (MeansEntry means) members entries := by
    induction entries with
    | nil => exact ⟨[], .nil, .nil⟩
    | cons entry more ih =>
      obtain ⟨value, written, isValue⟩ := conveys entry.2
      obtain ⟨members, lists, stand⟩ := ih
      exact ⟨(units entry.1, value) :: members, .cons ⟨rfl, written⟩ lists, .cons ⟨textOf?_units entry.1, isValue⟩ stand⟩
  obtain ⟨members, lists, stand⟩ := all dict.toList
  exact ⟨.map members, lists.written_map, members, dict.toList, rfl, stand, (ofList_toList dict).symm⟩

/-! ### Codecs -/

/-- A reader and a printer that agree on what values mean. -/
structure Codec (α : Type) where
  read : Reader α
  print : α → String
  means : Value → α → Prop
  denotes : Denotes read means
  conveys : Conveys print means

namespace Codec

def text : Codec String := ⟨_, _, _, denotes_text, conveys_text⟩
def flag : Codec Bool := ⟨_, _, _, denotes_flag, conveys_flag⟩
def count (wanted : String) : Codec UInt64 := ⟨_, _, _, denotes_count wanted, conveys_count⟩

def nullable (codec : Codec α) (filled : ∀ x, ¬ codec.means .null x) : Codec (Option α) :=
  ⟨_, _, _, denotes_nullable codec.denotes, conveys_nullable codec.conveys filled⟩

def choice (choices : List (String × α)) (name : α → String) (named : ∀ x, choices.lookup (name x) = some x) : Codec α :=
  ⟨_, _, _, denotes_choice choices, conveys_choice named⟩

def dict (codec : Codec α) : Codec (Dict α) := ⟨_, _, _, denotes_dict codec.denotes, conveys_dict codec.conveys⟩

/-- What is printed for a value is read as the value. -/
theorem parse_print (codec : Codec α) (x : α) : codec.read.parse (utf8 (codec.print x)) = .ok x := by
  obtain ⟨value, written, isValue⟩ := codec.conveys x
  have holds : Holds (utf8 (codec.print x)) value := ⟨[], _, [], blank_nil, written, blank_nil, by simp⟩
  exact (holds.parse_eq_ok codec.denotes).mpr isValue

end Codec

/-! ### Records -/

variable {σ : Type}

/-- A field that is always written. -/
def RecordField.of (codec : Codec α) (name : String) (get : σ → α) (set : α → σ → σ) : RecordField σ :=
  ⟨.of name codec.read codec.print get set, _, denotes_map codec.denotes set⟩

/-- What is printed of a record for the field means this change of a record. -/
def Conveyed (value : σ) (field : RecordField σ) (put : σ → σ) : Prop :=
  ∃ text given, field.member.print value = some text ∧ Written (.value given) (utf8 text) ∧ field.means given put

theorem conveyed_of (codec : Codec α) {name : String} {get : σ → α} {set : α → σ → σ} (value : σ) :
    Conveyed value (.of codec name get set) (set (get value)) := by
  obtain ⟨given, written, isValue⟩ := codec.conveys (get value)
  exact ⟨codec.print (get value), given, rfl, written, get value, isValue, rfl⟩

/-- The record after the changes, one after the other. -/
def changed (puts : List (σ → σ)) (value : σ) : σ := puts.foldl (fun current put => put current) value

/-- What is printed for some of the fields makes the changes that it means, where those before them are known. -/
theorem fills_conveyed {value : σ} (before : List (RecordField σ)) {after : List (RecordField σ)}
    (distinct : (before ++ after).Pairwise fun earlier later => earlier.member.answersTo later.member.name = false)
    {puts : List (σ → σ)} (each : List.Forall₂ (Conveyed value) after puts) (current : σ) :
    ∃ members, Lists (Shape.printedOf value (after.map (·.member))) members ∧
      Fills (before ++ after) members (before.map (·.member.name)).reverse current (changed puts current) := by
  induction each generalizing before current with
  | nil => exact ⟨[], .nil, by simpa [Fills, changed] using fun field known _ => ⟨field, known, rfl⟩⟩
  | @cons field put after puts head each ih =>
    obtain ⟨text, given, printed, written, isPut⟩ := head
    obtain ⟨members, lists, fills⟩ := ih (before ++ [field]) (List.append_cons before field after ▸ distinct) (put current)
    rw [← List.append_cons] at fills
    refine ⟨(units field.member.name, given) :: members, ?_, field.member.name, textOf?_units _, .inr ⟨field, put, ?_⟩⟩
    · rw [List.map_cons, Shape.printedOf_written printed]
      exact .cons ⟨rfl, written⟩ lists
    · refine ⟨find?_of_pairwise RecordField.member distinct, ?_, isPut, by simpa [changed] using fills⟩
      simpa using name_ne_of_pairwise RecordField.member distinct

namespace Shape
variable {shape : Shape σ} {fields : List (RecordField σ)}

/-- What is printed for the fields of a record makes this record of the blank one. -/
def Restores (shape : Shape σ) (fields : List (RecordField σ)) (value : σ) : Prop :=
  ∃ puts, List.Forall₂ (Conveyed value) fields puts ∧ changed puts shape.blank = value

theorem fills_printed (known : shape.members = fields.map (·.member)) (distinct : shape.Distinct) {value : σ}
    (restores : shape.Restores fields value) :
    ∃ members, Lists (shape.printed value) members ∧ Fills fields members [] shape.blank value := by
  obtain ⟨puts, each, back⟩ := restores
  rw [Distinct, known, List.pairwise_map] at distinct
  obtain ⟨members, lists, fills⟩ := fills_conveyed [] distinct each shape.blank
  rw [back] at fills
  rw [printed, known]
  exact ⟨members, lists, fills⟩

/-- Records whose fields give them back. -/
def codec (known : shape.members = fields.map (·.member)) (distinct : shape.Distinct)
    (restores : ∀ value, shape.Restores fields value) : Codec σ where
  read := shape.read
  print := shape.print
  means := MeansRecord fields shape.blank
  denotes := denotes_record known
  conveys value := by
    obtain ⟨members, lists, fills⟩ := fills_printed known distinct (restores value)
    exact ⟨.map members, lists.written_map, fills⟩

end Shape

end ModelDepot.Json
