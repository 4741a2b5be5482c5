/-!
Labels of ASCII characters that stand for labels of other ones: the plain characters, a dash, and
then numbers of variable length, each of which puts one more character in.
-/
namespace ModelDepot.Http.Domain.Punycode

def digit? (c : Char) : Option Nat :=
  if c.isLower then some (c.toNat - 'a'.toNat)
  else if c.isUpper then some (c.toNat - 'A'.toNat)
  else if c.isDigit then some (c.toNat - '0'.toNat + 26)
  else none

/-- The digits below the threshold end a number. -/
def threshold (place bias : Nat) : Nat :=
  if place ≤ bias then 1 else if bias + 26 ≤ place then 26 else place - bias

/-- The bias that a scaled number leads to. -/
def biasFrom (place n : Nat) : Nat :=
  if 455 < n then biasFrom (place + 36) (n / 35) else place + 36 * n / (n + 38)
termination_by n
decreasing_by exact Nat.div_lt_self (by omega) (by omega)

/-- The bias for the number behind one that put in a character, of which there are `count` now. -/
def nextBias (number count : Nat) (isFirst : Bool) : Nat :=
  let scaled := if isFirst then number / 700 else number / 2
  biasFrom 0 (scaled + scaled / count)

/-- One number, which is added to what there is, and what follows it. Neither the number nor the
    weight of a digit outgrows a word. -/
def readNumber (bias : Nat) : List Char → (place weight sum : Nat) → Option (Nat × List Char)
  | [], _, _, _ => none
  | c :: rest, place, weight, sum =>
    match digit? c with
    | none => none
    | some digit =>
      let sum := sum + digit * weight
      let t := threshold place bias
      if UInt32.size ≤ sum then none
      else if digit < t then some (sum, rest)
      else if UInt32.size ≤ weight * (36 - t) then none
      else readNumber bias rest (place + 36) (weight * (36 - t)) sum

theorem readNumber_length {bias place weight sum : Nat} {text : List Char}
    {result : Nat × List Char} (h : readNumber bias text place weight sum = some result) :
    result.2.length < text.length := by
  induction text generalizing place weight sum with
  | nil => simp [readNumber] at h
  | cons c rest ih =>
    rw [readNumber] at h
    split at h
    · simp at h
    · dsimp only at h
      split at h
      · simp at h
      · split at h
        · obtain rfl := Option.some.inj h
          simp
        · split at h
          · simp at h
          · exact Nat.lt_succ_of_lt (ih h)

/-- The character of a number, unless there is none. -/
def char? (n : Nat) : Option Char :=
  if n.isValidChar then some (Char.ofNat n) else none

/-- Puts in the characters of all numbers; the next one is no less than `least` and stands at
    `place` or behind it. -/
def insertAll (bias least place : Nat) (done text : List Char) : Option (List Char) :=
  if text.isEmpty then some done
  else
    match _h : readNumber bias text 36 1 place with
    | none => none
    | some (number, rest) =>
      let count := done.length + 1
      match char? (least + number / count) with
      | none => none
      | some c =>
        insertAll (nextBias (number - place) count (place == 0)) (least + number / count)
          (number % count + 1) (done.insertIdx (number % count) c) rest
termination_by text.length
decreasing_by exact readNumber_length _h

/-- The label that another one stands for. -/
def decode (label : List Char) : Option (List Char) :=
  let coded := (label.reverse.takeWhile (· != '-')).reverse
  let plain := (label.take (label.length - coded.length)).dropLast
  insertAll 72 0x80 0 plain (if plain.isEmpty then label else coded)

end ModelDepot.Http.Domain.Punycode
