import ModelDepot.Proofs.Json.Values

/-!
The texts of JSON values. A value may be written in many ways: with any white space between its tokens, and each
character of a text as it stands or as an escape. Main definitions: `Written` says which bytes stand for a value, `Holds`
which whole texts hold one.
-/
namespace ModelDepot.Json

/-! ### Quoted texts -/

/-- The units of UTF-16 for a character. -/
def unitsOf (c : Char) : List Nat :=
  if c.toNat < 0x10000 then [c.toNat]
  else [0xd800 + (c.toNat - 0x10000) / 0x400, 0xdc00 + (c.toNat - 0x10000) % 0x400]

def units (text : String) : List Nat := text.toList.flatMap unitsOf

/-- The characters for units, of which half a pair is none. -/
def charsOf? : List Nat → Option (List Char)
  | [] => some []
  | unit :: more =>
    if isTrailingHalf unit then none
    else if isLeadingHalf unit then
      match more with
      | [] => none
      | other :: more =>
        if isTrailingHalf other then (charsOf? more).map (Char.ofNat (pairValue unit other) :: ·) else none
    else (charsOf? more).map (Char.ofNat unit :: ·)

def textOf? (units : List Nat) : Option String := (charsOf? units).map String.ofList

/-- The letters of the short escapes, with the units that they stand for. -/
def shortEscapes : List (UInt8 × Nat) :=
  [(0x22, 0x22), (0x5c, 0x5c), (0x2f, 0x2f), (0x62, 0x08), (0x66, 0x0c), (0x6e, 0x0a), (0x72, 0x0d), (0x74, 0x09)]

/-- The byte is a hexadecimal digit of the value, in either case. -/
def IsHex (b : UInt8) (value : Nat) : Prop :=
  value < 16 ∧ (b = UInt8.ofNat (hexDigit value).toNat ∨ b = UInt8.ofNat (hexDigit value).toUpper.toNat)

instance (b : UInt8) (value : Nat) : Decidable (IsHex b value) := inferInstanceAs (Decidable (_ ∧ _))

/-- The bytes spell the units between quotes. -/
inductive Spelled : List Nat → List UInt8 → Prop where
  | done : Spelled [] []
  | plain {c : Char} {units : List Nat} {bytes : List UInt8} (noQuote : c ≠ '"') (noBackslash : c ≠ '\\')
      (noControl : ¬ c.toNat < 0x20) (further : Spelled units bytes) :
      Spelled (unitsOf c ++ units) (String.utf8EncodeChar c ++ bytes)
  | short {mark : UInt8} {unit : Nat} {units : List Nat} {bytes : List UInt8} (known : (mark, unit) ∈ shortEscapes)
      (further : Spelled units bytes) : Spelled (unit :: units) (backslash :: mark :: bytes)
  | hex {a b c d : UInt8} {h i j k : Nat} {units : List Nat} {bytes : List UInt8} (isA : IsHex a h) (isB : IsHex b i)
      (isC : IsHex c j) (isD : IsHex d k) (further : Spelled units bytes) :
      Spelled ((((h * 16 + i) * 16 + j) * 16 + k) :: units) (backslash :: letterU :: a :: b :: c :: d :: bytes)

/-- The character may stand between quotes as it is. -/
def needsNoEscape (c : Char) : Bool := c ≠ '"' && c ≠ '\\' && !decide (c.toNat < 0x20)

/-- A text without marks and controls is spelled by its own bytes. -/
theorem spelled_plain {text : String} (plain : text.toList.all needsNoEscape) : Spelled (units text) (utf8 text) := by
  rw [units, utf8_eq]
  generalize text.toList = cs at plain
  induction cs with
  | nil => exact .done
  | cons c more ih =>
    rw [List.all_cons, Bool.and_eq_true] at plain
    obtain ⟨first, others⟩ := plain
    simp only [needsNoEscape, Bool.and_eq_true, decide_eq_true_eq, Bool.not_eq_true', decide_eq_false_iff_not] at first
    obtain ⟨⟨noQuote, noBackslash⟩, noControl⟩ := first
    exact .plain noQuote noBackslash noControl (ih others)

/-! ### Numbers -/

def Digits (bytes : List UInt8) : Prop := bytes ≠ [] ∧ ∀ b ∈ bytes, isDigit b

def IsFraction (bytes : List UInt8) : Prop := bytes = [] ∨ ∃ digits, Digits digits ∧ bytes = point :: digits

def IsExponent (bytes : List UInt8) : Prop :=
  bytes = [] ∨ ∃ mark sign digits, isExponentMark mark ∧ (sign = [] ∨ sign = [plus] ∨ sign = [minus]) ∧
    Digits digits ∧ bytes = mark :: (sign ++ digits)

/-- A number as it is written: a sign, digits, and from a point or an exponent mark on the rest of it. -/
structure Number where
  negative : Bool
  digits : List UInt8
  scale : List UInt8

structure Number.Sound (number : Number) : Prop where
  digits : Digits number.digits
  noZero : number.digits.head? = some digitZero → number.digits = [digitZero]
  scale : ∃ fraction exponent, IsFraction fraction ∧ IsExponent exponent ∧ number.scale = fraction ++ exponent

def Number.bytes (number : Number) : List UInt8 :=
  (if number.negative then [minus] else []) ++ (number.digits ++ number.scale)

/-! ### Values -/

/-- A value; its texts, and the names in its maps, are any units. -/
inductive Value where
  | null
  | flag (value : Bool)
  | number (number : Number)
  | text (units : List Nat)
  | list (items : List Value)
  | map (members : List (List Nat × Value))

abbrev Members := List (List Nat × Value)

/-- What is written: a value, or what is left of a list or a map, up to the closing mark. -/
inductive Piece where
  | value (value : Value)
  | items (isFirst : Bool) (items : List Value)
  | members (isFirst : Bool) (members : Members)

def Blank (gap : List UInt8) : Prop := ∀ b ∈ gap, isSpace b

/-- What stands before an element: a comma unless it is the first one. -/
def Separates (isFirst : Bool) (bytes : List UInt8) : Prop :=
  if isFirst then Blank bytes else ∃ before after, Blank before ∧ Blank after ∧ bytes = before ++ comma :: after

/-- The bytes stand for the piece. -/
inductive Written : Piece → List UInt8 → Prop where
  | null : Written (.value .null) [0x6e, 0x75, 0x6c, 0x6c]
  | yes : Written (.value (.flag true)) [0x74, 0x72, 0x75, 0x65]
  | no : Written (.value (.flag false)) [0x66, 0x61, 0x6c, 0x73, 0x65]
  | number {number : Number} (sound : number.Sound) : Written (.value (.number number)) number.bytes
  | text {units : List Nat} {body : List UInt8} (spelled : Spelled units body) :
      Written (.value (.text units)) (quoteMark :: (body ++ [quoteMark]))
  | list {items : List Value} {bytes : List UInt8} (inner : Written (.items true items) bytes) :
      Written (.value (.list items)) (openList :: bytes)
  | map {members : Members} {bytes : List UInt8} (inner : Written (.members true members) bytes) :
      Written (.value (.map members)) (openMap :: bytes)
  | lastItem {isFirst : Bool} {gap : List UInt8} (blank : Blank gap) : Written (.items isFirst []) (gap ++ [closeList])
  | item {isFirst : Bool} {value : Value} {more : List Value} {sep bytes rest : List UInt8}
      (separates : Separates isFirst sep) (inner : Written (.value value) bytes) (further : Written (.items false more) rest) :
      Written (.items isFirst (value :: more)) (sep ++ (bytes ++ rest))
  | lastMember {isFirst : Bool} {gap : List UInt8} (blank : Blank gap) : Written (.members isFirst []) (gap ++ [closeMap])
  | member {isFirst : Bool} {key : List Nat} {value : Value} {more : Members} {sep body gap gap' bytes rest : List UInt8}
      (separates : Separates isFirst sep) (spelled : Spelled key body) (blank : Blank gap) (blankToo : Blank gap')
      (inner : Written (.value value) bytes) (further : Written (.members false more) rest) :
      Written (.members isFirst ((key, value) :: more))
        (sep ++ quoteMark :: (body ++ quoteMark :: (gap ++ colon :: (gap' ++ (bytes ++ rest)))))

/-- The whole text holds one value. -/
def Holds (text : List UInt8) (value : Value) : Prop :=
  ∃ before bytes after, Blank before ∧ Written (.value value) bytes ∧ Blank after ∧ text = before ++ (bytes ++ after)

/-! ### What a piece begins with -/

/-- The byte that a value begins with. -/
def Opens : Value → UInt8 → Prop
  | .null, b => b = 0x6e
  | .flag true, b => b = 0x74
  | .flag false, b => b = 0x66
  | .number _, b => b = minus ∨ isDigit b
  | .text _, b => b = quoteMark
  | .list _, b => b = openList
  | .map _, b => b = openMap

theorem Written.opens {value : Value} {bytes : List UInt8} (written : Written (.value value) bytes) :
    ∃ b more, bytes = b :: more ∧ Opens value b := by
  cases written with
  | null | yes | no | text | list | map => exact ⟨_, _, rfl, rfl⟩
  | @number number sound =>
    obtain ⟨negative, digits, scale⟩ := number
    cases negative with
    | true => exact ⟨minus, _, rfl, .inl rfl⟩
    | false =>
      cases digits with
      | nil => exact absurd rfl sound.digits.1
      | cons b more => exact ⟨b, _, rfl, .inr (sound.digits.2 b List.mem_cons_self)⟩

/-- No value begins with white space or with a mark that closes something. -/
theorem Opens.solid {value : Value} {b : UInt8} (opens : Opens value b) :
    isSpace b = false ∧ b ≠ closeList ∧ b ≠ closeMap ∧ b ≠ comma := by
  have closed : ∀ b : UInt8, isDigit b → isSpace b = false ∧ b ≠ closeList ∧ b ≠ closeMap ∧ b ≠ comma := by
    intro b digit
    refine ⟨(of_isDigit digit).1, ?_, ?_, ?_⟩ <;> rintro rfl <;> revert digit <;> decide
  cases value with
  | number number =>
    rcases opens with rfl | digit
    · decide
    · exact closed b digit
  | flag value =>
    cases value <;> cases opens <;> decide
  | _ => cases opens; decide

theorem blank_nil : Blank [] := List.forall_mem_nil _

theorem separates_comma : Separates false [comma] := ⟨[], [], blank_nil, blank_nil, rfl⟩

theorem isSpace_iff {b : UInt8} : isSpace b ↔ b = 0x20 ∨ b = 0x0a ∨ b = 0x09 ∨ b = 0x0d := by
  simp [isSpace, or_assoc]

theorem endsNumeral_nil : EndsNumeral [] := fun _ first => nomatch first

theorem endsNumeral_cons {b : UInt8} (noDigit : isDigit b = false) (noPoint : b ≠ point) (noMark : isExponentMark b = false)
    (rest : List UInt8) : EndsNumeral (b :: rest) := by
  intro c first
  obtain rfl := Option.some.inj first
  exact ⟨noDigit, noPoint, noMark⟩

/-- White space ends a numeral. -/
theorem endsNumeral_gap {gap rest : List UInt8} (blank : Blank gap) (ends : EndsNumeral rest) : EndsNumeral (gap ++ rest) := by
  cases gap with
  | nil => exact ends
  | cons b more =>
    rcases isSpace_iff.mp (blank b List.mem_cons_self) with rfl | rfl | rfl | rfl <;>
      exact endsNumeral_cons (by decide) (by decide) (by decide) _

theorem endsNumeral_separates {sep rest : List UInt8} (separates : Separates false sep) : EndsNumeral (sep ++ rest) := by
  obtain ⟨before, after, blank, -, rfl⟩ := separates
  rw [List.append_assoc]
  exact endsNumeral_gap blank (endsNumeral_cons (by decide) (by decide) (by decide) _)

/-- A numeral is over where another element, or the closing mark, comes. -/
theorem Written.endsNumeral {piece : Piece} {bytes : List UInt8} (written : Written piece bytes)
    (further : (∃ items, piece = .items false items) ∨ ∃ members, piece = .members false members) (rest : List UInt8) :
    EndsNumeral (bytes ++ rest) := by
  cases written with
  | null | yes | no | number | text | list | map => obtain ⟨_, wrong⟩ | ⟨_, wrong⟩ := further <;> cases wrong
  | lastItem blank | lastMember blank =>
    rw [List.append_assoc]
    exact endsNumeral_gap blank (endsNumeral_cons (by decide) (by decide) (by decide) _)
  | item separates | member separates =>
    obtain ⟨_, isFurther⟩ | ⟨_, isFurther⟩ := further <;> cases isFurther
    rw [List.append_assoc]
    exact endsNumeral_separates separates

end ModelDepot.Json
