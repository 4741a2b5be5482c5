/-!
Bytes read as UTF-8 where every broken part counts as one replacement character.
-/
namespace ModelDepot.Text

def replacement : Char := '\ufffd'

def isTail (b : UInt8) : Bool := 0x80 ≤ b && b ≤ 0xbf

/-- How many bytes the first one begins, and the bounds of the second one; a byte that begins
    nothing has none. -/
def sequenceOf (b : UInt8) : Option (Nat × UInt8 × UInt8) :=
  if 0xc2 ≤ b && b ≤ 0xdf then some (2, 0x80, 0xbf)
  else if b = 0xe0 then some (3, 0xa0, 0xbf)
  else if b = 0xed then some (3, 0x80, 0x9f)
  else if 0xe1 ≤ b && b ≤ 0xef then some (3, 0x80, 0xbf)
  else if b = 0xf0 then some (4, 0x90, 0xbf)
  else if 0xf1 ≤ b && b ≤ 0xf3 then some (4, 0x80, 0xbf)
  else if b = 0xf4 then some (4, 0x80, 0x8f)
  else none

/-- The value of a byte behind the first one. -/
def tailBits (b : UInt8) : Nat := b.toNat % 0x40

/-- A broken part ends before the first byte that cannot continue it. -/
def lossyChars (done : List Char) : List UInt8 → List Char
  | [] => done.reverse
  | a :: rest =>
    if a < 0x80 then lossyChars (Char.ofNat a.toNat :: done) rest
    else
      match sequenceOf a with
      | none => lossyChars (replacement :: done) rest
      | some (size, low, high) =>
        match rest with
        | [] => (replacement :: done).reverse
        | b :: rest₁ =>
          if !(low ≤ b && b ≤ high) then lossyChars (replacement :: done) (b :: rest₁)
          else if size = 2 then
            lossyChars (Char.ofNat (a.toNat % 0x20 * 0x40 + tailBits b) :: done) rest₁
          else
            match rest₁ with
            | [] => (replacement :: done).reverse
            | c :: rest₂ =>
              if !isTail c then lossyChars (replacement :: done) (c :: rest₂)
              else if size = 3 then
                let n := (a.toNat % 0x10 * 0x40 + tailBits b) * 0x40 + tailBits c
                lossyChars (Char.ofNat n :: done) rest₂
              else
                match rest₂ with
                | [] => (replacement :: done).reverse
                | d :: rest₃ =>
                  if !isTail d then lossyChars (replacement :: done) (d :: rest₃)
                  else
                    let n := ((a.toNat % 0x08 * 0x40 + tailBits b) * 0x40 + tailBits c) * 0x40 +
                      tailBits d
                    lossyChars (Char.ofNat n :: done) rest₃
termination_by bytes => bytes.length

/-- The text of the bytes. -/
def lossy (bytes : List UInt8) : String := String.ofList (lossyChars [] bytes)

end ModelDepot.Text
