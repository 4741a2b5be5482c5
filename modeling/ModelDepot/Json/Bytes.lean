import ModelDepot.Json.Fault
import ModelDepot.Number.Shortest

/-!
The lexical layer: white space, fixed words, quoted texts and numbers, each read from the front of
a list of bytes.
-/
namespace ModelDepot.Json

@[match_pattern] def quoteMark : UInt8 := 0x22
@[match_pattern] def plus : UInt8 := 0x2b
@[match_pattern] def comma : UInt8 := 0x2c
@[match_pattern] def minus : UInt8 := 0x2d
@[match_pattern] def point : UInt8 := 0x2e
@[match_pattern] def slash : UInt8 := 0x2f
@[match_pattern] def digitZero : UInt8 := 0x30
@[match_pattern] def colon : UInt8 := 0x3a
@[match_pattern] def openList : UInt8 := 0x5b
@[match_pattern] def backslash : UInt8 := 0x5c
@[match_pattern] def closeList : UInt8 := 0x5d
@[match_pattern] def letterU : UInt8 := 0x75
@[match_pattern] def openMap : UInt8 := 0x7b
@[match_pattern] def closeMap : UInt8 := 0x7d

/-- The bytes of a text in UTF-8. -/
def utf8 (s : String) : List UInt8 := s.toUTF8.data.toList

/-- The text with the given bytes, if they are UTF-8. -/
def ofUtf8? (bytes : List UInt8) : Option String := String.fromUTF8? ⟨bytes.toArray⟩

def isSpace (b : UInt8) : Bool := b == 0x20 || b == 0x0a || b == 0x09 || b == 0x0d
def isDigit (b : UInt8) : Bool := 0x30 ≤ b && b ≤ 0x39
def digitValue (b : UInt8) : Nat := b.toNat - 0x30
def isExponentMark (b : UInt8) : Bool := b == 0x65 || b == 0x45

/-- The bytes after leading white space. -/
def skipSpace (input : List UInt8) : List UInt8 := input.dropWhile isSpace

/-- The bytes after the given ones, which must come first. -/
def expectBytes : List UInt8 → List UInt8 → Except Fault (List UInt8)
  | [], input => .ok input
  | _ :: _, [] => .error .endsEarly
  | b :: more, c :: input => if b = c then expectBytes more input else .error .malformed

/-! ### Quoted texts -/

def hexValue? (b : UInt8) : Option Nat :=
  if isDigit b then some (digitValue b)
  else if 0x61 ≤ b && b ≤ 0x66 then some (b.toNat - 0x61 + 10)
  else if 0x41 ≤ b && b ≤ 0x46 then some (b.toNat - 0x41 + 10)
  else none

/-- The number that four hexadecimal digits spell. -/
def hexUnit? (a b c d : UInt8) : Option Nat := do
  return ((← hexValue? a) * 16 + (← hexValue? b)) * 256 + ((← hexValue? c) * 16 + (← hexValue? d))

/-- The byte that a one-letter escape stands for. -/
def escapeValue? (b : UInt8) : Option UInt8 :=
  if b = quoteMark || b = backslash || b = slash then some b
  else if b = 0x62 then some 0x08
  else if b = 0x66 then some 0x0c
  else if b = 0x6e then some 0x0a
  else if b = 0x72 then some 0x0d
  else if b = 0x74 then some 0x09
  else none

def isLeadingHalf (n : Nat) : Bool := 0xd800 ≤ n && n ≤ 0xdbff
def isTrailingHalf (n : Nat) : Bool := 0xdc00 ≤ n && n ≤ 0xdfff

/-- The character that two halves of a pair spell. -/
def pairValue (leading trailing : Nat) : Nat :=
  (leading - 0xd800) * 0x400 + (trailing - 0xdc00) + 0x10000

/-- The bytes of a quoted text after its opening mark, with the escapes resolved and put after
    `done`, which is in reverse; and the input after the closing mark. -/
def readQuoted (done : List UInt8) : List UInt8 → Except Fault (List UInt8 × List UInt8)
  | [] => .error .endsEarly
  | b :: rest =>
    if b = quoteMark then .ok (done.reverse, rest)
    else if b < 0x20 then .error .malformed
    else if b = backslash then
      match rest with
      | [] => .error .endsEarly
      | mark :: rest =>
        if mark = letterU then
          match rest with
          | h₁ :: h₂ :: h₃ :: h₄ :: rest =>
            match hexUnit? h₁ h₂ h₃ h₄ with
            | none => .error .malformed
            | some unit =>
              if isTrailingHalf unit then .error .malformed
              else if isLeadingHalf unit then
                match rest with
                | [] => .error .endsEarly
                | again :: rest =>
                  if again ≠ backslash then .error .malformed
                  else
                    match rest with
                    | [] => .error .endsEarly
                    | mark :: rest =>
                      if mark ≠ letterU then .error .malformed
                      else
                        match rest with
                        | h₁ :: h₂ :: h₃ :: h₄ :: rest =>
                          match hexUnit? h₁ h₂ h₃ h₄ with
                          | none => .error .malformed
                          | some other =>
                            if isTrailingHalf other then
                              let bytes := String.utf8EncodeChar (Char.ofNat (pairValue unit other))
                              readQuoted (bytes.reverse ++ done) rest
                            else .error .malformed
                        | _ => .error .endsEarly
              else
                readQuoted ((String.utf8EncodeChar (Char.ofNat unit)).reverse ++ done) rest
          | _ => .error .endsEarly
        else
          match escapeValue? mark with
          | some value => readQuoted (value :: done) rest
          | none => .error .malformed
    else readQuoted (b :: done) rest

/-- A quoted text after its opening mark. -/
def readTextBody (input : List UInt8) : Except Fault (String × List UInt8) := do
  let (bytes, rest) ← readQuoted [] input
  match ofUtf8? bytes with
  | some text => return (text, rest)
  | none => throw .malformed

/-! ### Numbers -/

/-- A number as it was written: whole and within 64 bits, or anything else. -/
inductive Numeral where
  | whole (value : Int)
  | other (shown : String)
  deriving DecidableEq, Repr

def maxWord : Nat := UInt64.size - 1

/-- The value of the leading digits that keep it within 64 bits, how many those are, and the
    input after them. -/
def readDigits (value count : Nat) : List UInt8 → Nat × Nat × List UInt8
  | [] => (value, count, [])
  | b :: rest =>
    if isDigit b && value * 10 + digitValue b ≤ maxWord then
      readDigits (value * 10 + digitValue b) (count + 1) rest
    else (value, count, b :: rest)

/-- `x` divided by `10 ^ shift`, in steps that keep the divisor finite. -/
def shrink (x : Float) (shift : Nat) : Float :=
  if shift ≤ 308 then x / Float.ofScientific 1 false shift
  else if x == 0 then x
  else shrink (x / Float.ofScientific 1 false 308) (shift - 308)
termination_by shift

/-- The numeral for `digits * 10 ^ exponent`, if it is finite. -/
def numeralOf (negative : Bool) (digits : Nat) (exponent : Int) : Except Fault Numeral :=
  let x := digits.toUInt64.toFloat
  let shown (x : Float) : Except Fault Numeral :=
    .ok (.other (Number.floatText (if negative then -x else x)))
  if exponent < 0 then shown (shrink x exponent.natAbs)
  else if exponent ≤ 308 then
    let y := x * Float.ofScientific 1 false exponent.toNat
    if y.isInf then .error .malformed else shown y
  else if digits = 0 then shown x
  else .error .malformed

/-- The largest exponent that is still counted exactly. -/
def maxExponent : Nat := 0x7fffffff

/-- The value of the leading digits, or nothing when it passes the largest exponent. -/
def exponentValue (digits : List UInt8) : Option Nat :=
  digits.foldl (fun value b => do
    let next := (← value) * 10 + digitValue b
    if next ≤ maxExponent then some next else none) (some 0)

/-- A numeral from its exponent mark on. -/
def readExponent (negative : Bool) (digits : Nat) (exponent : Int) (input : List UInt8) :
    Except Fault (Numeral × List UInt8) := do
  let input := input.drop 1
  let (down, input) :=
    match input with
    | plus :: rest => (false, rest)
    | minus :: rest => (true, rest)
    | _ => (false, input)
  if input.isEmpty then throw .endsEarly
  let spelled := input.takeWhile isDigit
  let rest := input.dropWhile isDigit
  if spelled.isEmpty then throw .malformed
  match exponentValue spelled with
  | some n =>
    let shifted := if down then exponent - n else exponent + n
    return (← numeralOf negative digits shifted, rest)
  | none =>
    if digits ≠ 0 && !down then throw .malformed
    return (.other (if negative then "-0.0" else "0.0"), rest)

/-- The exponent, if one comes next. -/
def readScaled (negative : Bool) (digits : Nat) (exponent : Int) (input : List UInt8) :
    Except Fault (Numeral × List UInt8) := do
  match input with
  | b :: _ =>
    if isExponentMark b then readExponent negative digits exponent input
    else return (← numeralOf negative digits exponent, input)
  | [] => return (← numeralOf negative digits exponent, input)

/-- A numeral from its point on. -/
def readFraction (negative : Bool) (digits : Nat) (exponent : Int) (input : List UInt8) :
    Except Fault (Numeral × List UInt8) := do
  let (digits, count, rest) := readDigits digits 0 (input.drop 1)
  let ignored := rest.takeWhile isDigit
  if count = 0 && ignored.isEmpty then
    if rest.isEmpty then throw .endsEarly else throw .malformed
  readScaled negative digits (exponent - count) (rest.dropWhile isDigit)

/-- The whole number, or the fraction it becomes when it does not fit. -/
def wholeNumeral (negative : Bool) (digits : Nat) : Except Fault Numeral :=
  if !negative then .ok (.whole digits)
  else if 0 < digits && digits ≤ 0x8000000000000000 then .ok (.whole (-digits))
  else numeralOf true digits 0

/-- A numeral after its sign. -/
def readNumeral (negative : Bool) (input : List UInt8) : Except Fault (Numeral × List UInt8) := do
  match input with
  | [] => throw .endsEarly
  | b :: rest =>
    if !isDigit b then throw .malformed
    if b = digitZero && (rest.head?.map isDigit).getD false then throw .malformed
    let (digits, _, rest) := readDigits 0 0 input
    let dropped := (rest.takeWhile isDigit).length
    let rest := rest.dropWhile isDigit
    match rest with
    | [] => ended digits dropped rest
    | c :: _ =>
      if c = point then readFraction negative digits dropped rest
      else if isExponentMark c then readExponent negative digits dropped rest
      else ended digits dropped rest
where
  ended (digits dropped : Nat) (rest : List UInt8) : Except Fault (Numeral × List UInt8) := do
    if dropped = 0 then return (← wholeNumeral negative digits, rest)
    else return (← numeralOf negative digits dropped, rest)

end ModelDepot.Json
