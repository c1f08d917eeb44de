/-!
Hexadecimal text: lowercase digits for naturals and for byte strings, and the reading of a byte
string back from its digits. `ofHex? (toHex bs) = some bs` is the law that ties the two.
-/

namespace FlasherStub.Hex

/-- The lowercase hexadecimal digit of a value below sixteen. -/
def digit (n : Nat) : Char :=
  if n < 10 then Char.ofNat (48 + n) else Char.ofNat (87 + n)

/-- The value of a hexadecimal digit of either case. -/
def value? (c : Char) : Option Nat :=
  if '0' ≤ c ∧ c ≤ '9' then some (c.toNat - 48)
  else if 'a' ≤ c ∧ c ≤ 'f' then some (c.toNat - 87)
  else if 'A' ≤ c ∧ c ≤ 'F' then some (c.toNat - 55)
  else none

/-- The digits of `n` in base sixteen, most significant first, without leading zeros. -/
def digitsOf (n : Nat) : List Char :=
  if n < 16 then [digit n]
  else digitsOf (n / 16) ++ [digit (n % 16)]
termination_by n
decreasing_by omega

/-- Lowercase hexadecimal text of a natural, `"0"` for zero. -/
def ofNat (n : Nat) : String := String.ofList (digitsOf n)

/-- The two lowercase digits of a byte. -/
def byteDigits (b : UInt8) : List Char := [digit (b.toNat / 16), digit (b.toNat % 16)]

/-- Lowercase hexadecimal text of a byte string, two digits per byte. -/
def ofBytes (bs : List UInt8) : String := String.ofList (bs.flatMap byteDigits)

/-- Reads a byte string from pairs of hexadecimal digits. -/
def bytesOfDigits? : List Char → Option (List UInt8)
  | [] => some []
  | hi :: lo :: rest => do
    let h ← value? hi
    let l ← value? lo
    let tail ← bytesOfDigits? rest
    pure (UInt8.ofNat (16 * h + l) :: tail)
  | [_] => none

/-- Reads a byte string from its hexadecimal text. -/
def toBytes? (s : String) : Option (List UInt8) := bytesOfDigits? s.toList

end FlasherStub.Hex
