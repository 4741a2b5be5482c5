/-!
The shortest decimal that reads back as a given binary fraction, and its text: positional from
a hundred-thousandth up to ten quadrillions, with an exponent beyond.
-/
namespace ModelDepot.Number

/-- A finite binary fraction `mantissa * 2 ^ exponent`. It is `atStep` when the next fraction
    below is only half as far away as the next one above. -/
structure Binary where
  mantissa : Nat
  exponent : Int
  atStep : Bool
  deriving DecidableEq, Repr

/-- A decimal `digits * 10 ^ exponent`. -/
structure Decimal where
  digits : Nat
  exponent : Int
  deriving DecidableEq, Repr

/-- The magnitude of a finite double. -/
def Binary.ofFloat (x : Float) : Binary :=
  let bits : Nat := x.toBits.toNat
  let field : Nat := bits / 0x10000000000000 % 0x800
  let fraction : Nat := bits % 0x10000000000000
  if field = 0 then ⟨fraction, -1074, false⟩
  else ⟨0x10000000000000 + fraction, Int.ofNat field - 1075, fraction = 0 && field > 1⟩

namespace Binary

/-- Numerator and denominator of `n * 2 ^ e * 10 ^ d`. -/
def scaled (n : Nat) (e d : Int) : Nat × Nat :=
  (n * Nat.pow 2 e.toNat * Nat.pow 10 d.toNat, Nat.pow 2 (-e).toNat * Nat.pow 10 (-d).toNat)

/-- The decimal with the given digits is read back as this fraction: it lies between the middles
    to the two neighbours, where a middle itself goes to an even mantissa. -/
def admits (b : Binary) (d : Decimal) : Bool :=
  let (n, k) := scaled (4 * d.digits) (-b.exponent) d.exponent
  let low := (4 * b.mantissa - if b.atStep then 1 else 2) * k
  let high := (4 * b.mantissa + 2) * k
  if b.mantissa % 2 = 0 then low ≤ n && n ≤ high else low < n && n < high

/-- The power of ten of the leading digit, looked for from the largest one downward. -/
def leading (b : Binary) : Nat → Int → Int
  | 0, e => e
  | tries + 1, e =>
    let (n, k) := scaled b.mantissa b.exponent (-e)
    if k ≤ n then e else leading b tries (e - 1)

/-- The decimals with the given last place on either side of the fraction, the nearer one first. -/
def around (b : Binary) (place : Int) : List Decimal :=
  let (n, k) := scaled b.mantissa b.exponent (-place)
  let below : Decimal := ⟨n / k, place⟩
  let above : Decimal := ⟨n / k + 1, place⟩
  let twice := 2 * (n % k)
  if twice < k || (twice = k && n / k % 2 = 0) then [below, above] else [above, below]

/-- The first decimal that reads back, with more and more digits. -/
def firstAdmitted (b : Binary) (top : Int) : List Nat → Decimal
  | [] => ⟨0, 0⟩
  | n :: more =>
    match (b.around (top - n)).find? b.admits with
    | some d => d
    | none => firstAdmitted b top more

/-- The decimal of the fewest digits that reads back, and the nearest one of those. -/
def shortest (b : Binary) : Decimal :=
  if b.mantissa = 0 then ⟨0, 0⟩ else b.firstAdmitted (b.leading 700 309) (List.range 18)

end Binary

namespace Decimal

/-- The text of the digits without zeros at the end, and the number of digits before the point. -/
def digitsAndPoint (d : Decimal) : List Char × Int :=
  let all := Nat.toDigits 10 d.digits
  let kept := (all.reverse.dropWhile (· == '0')).reverse
  (kept, all.length + d.exponent)

/-- The text of a decimal that is not negative. -/
def render (d : Decimal) : String :=
  if d.digits = 0 then "0.0"
  else
    let (ds, point) := d.digitsAndPoint
    let zeros (n : Int) := List.replicate n.toNat '0'
    String.ofList <|
      if 0 < point && point ≤ 16 then
        let whole := ds.take point.toNat ++ zeros (point - ds.length)
        let part := ds.drop point.toNat
        whole ++ '.' :: (if part.isEmpty then ['0'] else part)
      else if -5 < point && point ≤ 0 then
        '0' :: '.' :: (zeros (-point) ++ ds)
      else
        let power := point - 1
        let sign := if power < 0 then '-' else '+'
        let part := ds.drop 1
        ds.take 1 ++ (if part.isEmpty then [] else '.' :: part) ++
          ['e', sign] ++ Nat.toDigits 10 power.natAbs

end Decimal

/-- The shortest text that reads back as the finite double. -/
def floatText (x : Float) : String :=
  let text := (Binary.ofFloat x).shortest.render
  if x.toBits.toNat / 0x8000000000000000 = 1 then "-" ++ text else text

end ModelDepot.Number
