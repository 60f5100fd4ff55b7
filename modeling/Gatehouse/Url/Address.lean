import Gatehouse.Number.Digits

/-!
# Numeric hosts

Version 4 addresses have up to four numbers in decimal, octal or hexadecimal, and the last one
fills what is left. Version 6 addresses have eight pieces, of which a run of zeros may be left
out, and may end with a version 4 address.
-/
namespace Gatehouse.Url

/-! ## Version 4 -/

/-- A number of an address, where it is one; `none` inside for one of more than 32 bits. -/
def addressNumber? (part : List Char) : Option (Option Nat) :=
  let fit (n : Nat) : Option Nat := if n < 0x100000000 then some n else none
  match part with
  | [] => none
  | '0' :: x :: digits =>
    if x = 'x' ∨ x = 'X' then
      if digits.all Digits.isHex then some (fit (Digits.number 16 digits)) else none
    else if (x :: digits).all fun c => decide ('0' ≤ c) && decide (c ≤ '7') then
      some (fit (Digits.number 8 (x :: digits)))
    else none
  | digits => if digits.all Char.isDigit then some (fit (Digits.number 10 digits)) else none

/-- The parts between points, without an empty one at the end. -/
def addressParts (host : List Char) : List (List Char) :=
  let parts := host.splitOn '.'
  if parts.getLast? = some [] then parts.dropLast else parts

/-- Whether a host has to be a version 4 address: its last part is a number. -/
def endsInNumber (host : List Char) : Bool :=
  match (addressParts host).getLast? with
  | none => false
  | some last => (!last.isEmpty && last.all Char.isDigit) || (addressNumber? last).isSome

/-- The address that a host spells, as a number of 32 bits. -/
def version4? (host : List Char) : Option Nat := do
  let numbers ← (addressParts host).mapM fun part => (addressNumber? part).join
  let last ← numbers.getLast?
  let bytes := numbers.dropLast
  let rest := Nat.pow 256 (4 - bytes.length)
  if 3 < bytes.length || bytes.any (fun n => decide (255 < n)) || decide (rest ≤ last) then none
  else some (bytes.foldl (fun n byte => n * 256 + byte) 0 * rest + last)

/-- Four bytes with points between them. -/
def version4Text (number : Nat) : List Char :=
  let bytes := [number / 16777216, number / 65536 % 256, number / 256 % 256, number % 256]
  ['.'].intercalate (bytes.map (Nat.toDigits 10))

/-! ## Version 6 -/

/-- A number of the version 4 tail: at most 255, without a zero in front. -/
def tailNumber? (part : List Char) : Option Nat :=
  let value := Digits.number 10 part
  if !part.isEmpty && part.all Char.isDigit && decide (value ≤ 255)
      && (part.length == 1 || part.head? != some '0') then some value
  else none

/-- The two pieces that a version 4 tail stands for. -/
def tail? (text : List Char) : Option (Nat × Nat) := do
  match ← (text.splitOn '.').mapM tailNumber? with
  | [a, b, c, d] => some (a * 256 + b, c * 256 + d)
  | _ => none

/-- Eight pieces from those that were read, last first, and the place of the gap among them. -/
def allPieces? (found : List Nat) (gap : Option Nat) : Option (List Nat) :=
  let pieces := found.reverse
  match gap with
  | none => if pieces.length = 8 then some pieces else none
  | some place =>
    some (pieces.take place ++ List.replicate (8 - pieces.length) 0 ++ pieces.drop place)

/-- The pieces from a place on; the gap counts as one. -/
def pieces? : Nat → List Nat → Option Nat → List Char → Option (List Nat)
  | 0, _, _, _ => none
  | _ + 1, found, gap, [] => allPieces? found gap
  | budget + 1, found, gap, c :: rest =>
    let count := found.length + gap.toList.length
    if count = 8 then none
    else if c = ':' then
      if gap.isSome then none else pieces? budget found (some found.length) rest
    else
      let text := c :: rest
      let digits := (text.take 4).takeWhile Digits.isHex
      let found' := Digits.number 16 digits :: found
      match text.drop digits.length with
      | [] => allPieces? found' gap
      | '.' :: _ =>
        if digits.isEmpty || 6 < count then none
        else do
          let (high, low) ← tail? text
          allPieces? (low :: high :: found) gap
      | ':' :: more => if more.isEmpty then none else pieces? budget found' gap more
      | _ => none

/-- The eight pieces of an address. -/
def version6? (text : List Char) : Option (List Nat) :=
  match text with
  | ':' :: ':' :: rest => pieces? (rest.length + 1) [] (some 0) rest
  | ':' :: _ => none
  | [] => none
  | [_] => none
  | text => pieces? (text.length + 1) [] none text

/-- How many zeros stand from a place on. -/
def zerosFrom (pieces : List Nat) (place : Nat) : Nat :=
  ((pieces.drop place).takeWhile (· == 0)).length

/-- The place where the most zeros stand, the first of several. -/
def widestGap (pieces : List Nat) : Nat :=
  (List.range pieces.length).foldl (fun best place =>
    if zerosFrom pieces best < zerosFrom pieces place then place else best) 0

def piecesText (pieces : List Nat) : List Char :=
  [':'].intercalate (pieces.map (Nat.toDigits 16))

/-- The pieces with two colons for the longest run of two or more zeros. -/
def version6Text (pieces : List Nat) : List Char :=
  let place := widestGap pieces
  let length := zerosFrom pieces place
  if length < 2 then piecesText pieces
  else piecesText (pieces.take place) ++ ':' :: ':' :: piecesText (pieces.drop (place + length))

end Gatehouse.Url
