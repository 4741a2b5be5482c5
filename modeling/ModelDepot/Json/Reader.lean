import ModelDepot.Json.Skip
import Std.Data.ExtTreeMap

/-!
Readers of typed values. A reader takes one value from the front of the input; the first problem
in reading order decides what is reported.
-/
namespace ModelDepot

/-- A finite map with its keys in code point order. -/
abbrev Dict (α : Type) := Std.ExtTreeMap String α

namespace Json

/-- Takes a value from the front of the bytes, or says why there is none. -/
abbrev Reader (α : Type) := StateT (List UInt8) (Except Fault) α

namespace Reader

def fail {α : Type} (fault : Fault) : Reader α := throw fault

/-- The next byte that is not white space, left in place. -/
def peek? : Reader (Option UInt8) := do
  modify skipSpace
  return (← get).head?

/-- The next byte that is not white space, left in place; the input must go on. -/
def peek : Reader UInt8 := do
  match ← peek? with
  | some b => return b
  | none => fail .endsEarly

/-- Drops one byte. -/
def advance : Reader Unit := modify (List.drop 1)

/-- Runs a function on the input that answers the rest of it. -/
def lift {α : Type} (f : List UInt8 → Except Fault (α × List UInt8)) : Reader α :=
  fun input => f input

def expect (word : List UInt8) : Reader Unit :=
  lift fun input => (expectBytes word input).map ((), ·)

/-- A fixed word from its first byte on. -/
def word (w : String) : Reader Unit := do
  advance
  expect ((utf8 w).drop 1)

/-- A quoted text whose opening mark comes next. -/
def quotedText : Reader String := do
  advance
  lift readTextBody

/-- A numeral whose first byte comes next. -/
def numeral : Reader Numeral := do
  if (← get).head? = some minus then
    advance
    lift (readNumeral true)
  else lift (readNumeral false)

def skip : Reader Unit := lift fun input => (skipValue input).map ((), ·)

def Numeral.found : Numeral → Found
  | .whole n => .integer n
  | .other shown => .fraction shown

/-- Refuses the value that comes next, which is of another kind than the one wanted. -/
def refuse {α : Type} (wanted : String) : Reader α := do
  let misfit (found : Found) : Reader α := fail (.misfit (.kind found wanted))
  match (← get).head? with
  | none => fail .malformed
  | some b =>
    if b = 0x6e then word "null"; misfit .null
    else if b = 0x74 then word "true"; misfit (.boolean true)
    else if b = 0x66 then word "false"; misfit (.boolean false)
    else if b = minus || isDigit b then misfit (Numeral.found (← numeral))
    else if b = quoteMark then misfit (.text (← quotedText))
    else if b = openList then misfit .sequence
    else if b = openMap then misfit .map
    else fail .malformed

def text : Reader String := do
  if (← peek) = quoteMark then quotedText else refuse "a string"

def flag : Reader Bool := do
  let b ← peek
  if b = 0x74 then word "true"; return true
  else if b = 0x66 then word "false"; return false
  else refuse "a boolean"

/-- A whole number that `fits`. -/
def integer (wanted : String) (fits : Int → Bool) : Reader Int := do
  let b ← peek
  if b = minus || isDigit b then
    match ← numeral with
    | .whole n => if fits n then return n else fail (.misfit (.range n wanted))
    | .other shown => fail (.misfit (.kind (.fraction shown) wanted))
  else refuse wanted

/-- A whole number of 64 bits with a sign. -/
def stamp : Reader Int64 := do
  return Int64.ofInt (← integer "i64" fun n => Int64.minValue.toInt ≤ n && n ≤ Int64.maxValue.toInt)

/-- A whole number of 64 bits without a sign, called `wanted` in messages. -/
def count (wanted : String) : Reader UInt64 := do
  return UInt64.ofNat (← integer wanted fun n => 0 ≤ n && n < UInt64.size).toNat

/-- A value that may be null. -/
def nullable {α : Type} (read : Reader α) : Reader (Option α) := do
  if (← peek?) = some 0x6e then word "null"; return none
  else return some (← read)

/-- Whether another member comes, whose key is then next. -/
def anotherMember (isFirst : Bool) : Reader Bool := do
  match ← peek? with
  | none => fail .endsEarly
  | some b =>
    if b = closeMap then return false
    else if isFirst then
      if b = quoteMark then return true else fail .malformed
    else if b = comma then
      advance
      if (← peek) = quoteMark then return true else fail .malformed
    else fail .malformed

/-- Whether another element comes. -/
def anotherElement (isFirst : Bool) : Reader Bool := do
  match ← peek? with
  | none => fail .endsEarly
  | some b =>
    if b = closeList then return false
    else if isFirst then return true
    else if b = comma then
      advance
      if (← peek) = closeList then fail .malformed else return true
    else fail .malformed

/-- The colon between a key and its value. -/
def keyEnd : Reader Unit := do
  if (← peek) = colon then advance else fail .malformed

/-- The closing mark that must come next. -/
def close (mark : UInt8) : Reader Unit := do
  if (← peek) = mark then advance else fail .malformed

def elementsFrom {α : Type} (read : Reader α) : Nat → List α → Reader (List α)
  | 0, _ => fail .malformed
  | fuel + 1, done => do
    if ← anotherElement done.isEmpty then
      elementsFrom read fuel ((← read) :: done)
    else
      advance
      return done.reverse

/-- A sequence of values. -/
def sequence {α : Type} (read : Reader α) : Reader (List α) := do
  if (← peek) = openList then
    advance
    elementsFrom read ((← get).length + 1) []
  else refuse "a sequence"

def entriesFrom {α : Type} (read : Reader α) : Nat → Bool → Dict α → Reader (Dict α)
  | 0, _, _ => fail .malformed
  | fuel + 1, isFirst, done => do
    if ← anotherMember isFirst then
      let key ← quotedText
      keyEnd
      let value ← read
      entriesFrom read fuel false (done.insert key value)
    else
      advance
      return done

/-- A map from texts; of a repeated key the last value stays. -/
def dict {α : Type} (read : Reader α) : Reader (Dict α) := do
  if (← peek) = openMap then
    advance
    entriesFrom read ((← get).length + 1) true ∅
  else refuse "a map"

/-- The value of a choice by its name. -/
def chosen {α : Type} (choices : List (String × α)) (name : String) : Reader α :=
  match choices.lookup name with
  | some value => return value
  | none => fail (.misfit (.variant name (choices.map (·.1))))

/-- One of a few names, alone or as the only key of a map that holds null. -/
def choice {α : Type} (choices : List (String × α)) : Reader α := do
  let b ← peek
  if b = quoteMark then chosen choices (← quotedText)
  else if b = openMap then
    advance
    let name ← if (← peek) = quoteMark then quotedText else fail .malformed
    let value ← chosen choices name
    keyEnd
    if (← peek) = 0x6e then word "null" else refuse "unit"
    close closeMap
    return value
  else fail .malformed

/-- The one value that the whole input holds. -/
def parse {α : Type} (read : Reader α) (input : List UInt8) : Except Fault α := do
  let (value, rest) ← read input
  if (skipSpace rest).isEmpty then return value else throw .malformed

end Reader
end Json
end ModelDepot
