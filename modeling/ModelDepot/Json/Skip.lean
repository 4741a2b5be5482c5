import ModelDepot.Json.Bytes

/-!
Values that nobody asks for. They are passed over byte by byte with the open brackets on a stack,
so they may be nested to any depth; numbers in them are not bounded and texts not resolved.
-/
namespace ModelDepot.Json

/-- An open bracket. -/
inductive Bracket where
  | list
  | map
  deriving DecidableEq, Repr

/-- What may come next inside a value that is passed over. -/
inductive Phase where
  | value
  | first
  | key
  | colon
  | after
  | text (isKey : Bool)
  | escape (isKey : Bool)
  | hex (isKey : Bool) (left : Nat) (sound : Bool)
  | word (left : List UInt8)
  | sign
  | zero
  | whole
  | point
  | part
  | exponent
  | exponentSign
  | exponentDigits
  deriving DecidableEq, Repr

/-- After one byte the value is over, before that byte, or it goes on in a phase with open
    brackets. -/
abbrev Passed := Except Fault (Option (Phase × List Bracket))

namespace Phase

/-- The phase behind a quoted text. -/
def afterText (isKey : Bool) : Phase := if isKey then colon else after

def goOn (phase : Phase) (stack : List Bracket) : Passed := .ok (some (phase, stack))

/-- The first byte of a value. -/
def begin (stack : List Bracket) (b : UInt8) : Passed :=
  if b = quoteMark then goOn (text false) stack
  else if b = Json.minus then goOn sign stack
  else if b = digitZero then goOn zero stack
  else if isDigit b then goOn whole stack
  else if b = openList then goOn first (.list :: stack)
  else if b = openMap then goOn first (.map :: stack)
  else if b = 0x6e then goOn (word [0x75, 0x6c, 0x6c]) stack
  else if b = 0x74 then goOn (word [0x72, 0x75, 0x65]) stack
  else if b = 0x66 then goOn (word [0x61, 0x6c, 0x73, 0x65]) stack
  else .error .malformed

/-- A byte behind a finished value. -/
def behind (stack : List Bracket) (b : UInt8) : Passed :=
  match stack with
  | [] => .ok none
  | bracket :: outer =>
    if isSpace b then goOn after stack
    else if b = comma then goOn (match bracket with | .list => value | .map => key) stack
    else
      match bracket with
      | .list => if b = closeList then goOn after outer else .error .malformed
      | .map => if b = closeMap then goOn after outer else .error .malformed

/-- The first byte behind an opening bracket. -/
def inside (stack : List Bracket) (b : UInt8) : Passed :=
  if isSpace b then goOn first stack
  else
    match stack with
    | [] => .error .malformed
    | .list :: outer => if b = closeList then goOn after outer else begin stack b
    | .map :: outer =>
      if b = closeMap then goOn after outer
      else if b = quoteMark then goOn (text true) stack
      else .error .malformed

/-- One byte of a value that is passed over. -/
def step (phase : Phase) (stack : List Bracket) (b : UInt8) : Passed :=
  match phase with
  | value => if isSpace b then goOn value stack else begin stack b
  | first => inside stack b
  | key =>
    if isSpace b then goOn key stack
    else if b = quoteMark then goOn (text true) stack
    else .error .malformed
  | colon =>
    if isSpace b then goOn colon stack
    else if b = Json.colon then goOn value stack
    else .error .malformed
  | after => behind stack b
  | text isKey =>
    if b = quoteMark then goOn (afterText isKey) stack
    else if b = backslash then goOn (escape isKey) stack
    else if b < 0x20 then .error .malformed
    else goOn (text isKey) stack
  | escape isKey =>
    if b = letterU then goOn (hex isKey 4 true) stack
    else if (escapeValue? b).isSome then goOn (text isKey) stack
    else .error .malformed
  | hex isKey left sound =>
    let sound := sound && (hexValue? b).isSome
    if 1 < left then goOn (hex isKey (left - 1) sound) stack
    else if sound then goOn (text isKey) stack
    else .error .malformed
  | word left =>
    match left with
    | [] => .error .malformed
    | c :: more =>
      if b ≠ c then .error .malformed
      else if more.isEmpty then goOn after stack
      else goOn (word more) stack
  | sign =>
    if b = digitZero then goOn zero stack
    else if isDigit b then goOn whole stack
    else .error .malformed
  | zero =>
    if isDigit b then .error .malformed else wholeEnd b
  | whole => if isDigit b then goOn whole stack else wholeEnd b
  | point => if isDigit b then goOn part stack else .error .malformed
  | part =>
    if isDigit b then goOn part stack
    else if isExponentMark b then goOn exponent stack
    else behind stack b
  | exponent =>
    if b = plus || b = Json.minus then goOn exponentSign stack
    else if isDigit b then goOn exponentDigits stack
    else .error .malformed
  | exponentSign => if isDigit b then goOn exponentDigits stack else .error .malformed
  | exponentDigits => if isDigit b then goOn exponentDigits stack else behind stack b
where
  wholeEnd (b : UInt8) : Passed :=
    if b = Json.point then goOn point stack
    else if isExponentMark b then goOn exponent stack
    else behind stack b

/-- What the end of the input means: `none` when the value is complete. -/
def atEnd (phase : Phase) (stack : List Bracket) : Option Fault :=
  match phase with
  | after | zero | whole | part | exponentDigits =>
    if stack.isEmpty then none else some .endsEarly
  | sign | point | exponent | exponentSign => some .malformed
  | _ => some .endsEarly

/-- The input behind the value that is passed over. -/
def skip (phase : Phase) (stack : List Bracket) : List UInt8 → Except Fault (List UInt8)
  | [] =>
    match phase.atEnd stack with
    | none => .ok []
    | some fault => .error fault
  | b :: rest =>
    match phase.step stack b with
    | .error fault => .error fault
    | .ok none => .ok (b :: rest)
    | .ok (some (next, deeper)) => skip next deeper rest

end Phase

/-- The input behind one value of any kind. -/
def skipValue (input : List UInt8) : Except Fault (List UInt8) := Phase.skip .value [] input

end ModelDepot.Json
