/-!
# Hexadecimal digits
-/
namespace Gatehouse.Hex

/-- The lower-case digit of a value below sixteen. -/
def digit (value : Nat) : Char :=
  if value < 10 then Char.ofNat (48 + value) else Char.ofNat (87 + value)

/-- The value of a digit in either case. -/
def value? (byte : UInt8) : Option Nat :=
  let b := byte.toNat
  if 48 ≤ b ∧ b ≤ 57 then some (b - 48)
  else if 97 ≤ b ∧ b ≤ 102 then some (b - 87)
  else if 65 ≤ b ∧ b ≤ 70 then some (b - 55)
  else none

/-- Two digits for each byte. -/
def ofBytes (bytes : List UInt8) : List Char :=
  bytes.flatMap fun b => [digit (b.toNat / 16), digit (b.toNat % 16)]

/-- The bytes that pairs of digits spell; a digit left over or out of range spells none. -/
def toBytes? : List Char → Option (List UInt8)
  | [] => some []
  | [_] => none
  | high :: low :: rest => do
    let h ← value? (UInt8.ofNat high.toNat)
    let l ← value? (UInt8.ofNat low.toNat)
    let bytes ← toBytes? rest
    some (UInt8.ofNat (h * 16 + l) :: bytes)

/-- A number in the fewest lower-case digits. -/
def ofNat (value : Nat) : String := String.ofList (Nat.toDigits 16 value)

end Gatehouse.Hex
