/-!
# UTF-8

Bytes are read one at a time by a machine that knows which bytes may come next. It yields a
character for each well-formed sequence and a gap for each maximal ill-formed piece, so strict
reading refuses any gap and lenient reading shows each gap as U+FFFD.
-/
namespace Gatehouse.Utf8

/-- What the next byte may be: any first byte, or the continuation of an open sequence. -/
inductive Expectation
  | first
  | next (value : Nat) (low high : UInt8) (more : Nat)

/-- How a first byte goes on: a character, an open sequence, or nothing that can be one. -/
def start (byte : UInt8) : Option Char × Expectation × Bool :=
  let b := byte.toNat
  if b < 0x80 then (some (Char.ofNat b), .first, true)
  else if 0xC2 ≤ b ∧ b ≤ 0xDF then (none, .next (b - 0xC0) 0x80 0xBF 0, false)
  else if b = 0xE0 then (none, .next 0 0xA0 0xBF 1, false)
  else if b = 0xED then (none, .next 0xD 0x80 0x9F 1, false)
  else if 0xE1 ≤ b ∧ b ≤ 0xEF then (none, .next (b - 0xE0) 0x80 0xBF 1, false)
  else if b = 0xF0 then (none, .next 0 0x90 0xBF 2, false)
  else if 0xF1 ≤ b ∧ b ≤ 0xF3 then (none, .next (b - 0xF0) 0x80 0xBF 2, false)
  else if b = 0xF4 then (none, .next 4 0x80 0x8F 2, false)
  else (none, .first, true)

/-- The characters of `bytes`, with `none` for each maximal ill-formed piece. -/
def scan : Expectation → List UInt8 → List (Option Char)
  | .first, [] => []
  | .next .., [] => [none]
  | .first, byte :: rest =>
    match start byte with
    | (found, state, true) => found :: scan state rest
    | (_, state, false) => scan state rest
  | .next value low high more, byte :: rest =>
    if low ≤ byte ∧ byte ≤ high then
      let value := value * 64 + (byte.toNat - 0x80)
      match more with
      | 0 => some (Char.ofNat value) :: scan .first rest
      | more + 1 => scan (.next value 0x80 0xBF more) rest
    else
      match start byte with
      | (found, state, true) => none :: found :: scan state rest
      | (_, state, false) => none :: scan state rest

/-- The text of well-formed bytes. -/
def decode? (bytes : List UInt8) : Option (List Char) := (scan .first bytes).mapM id

/-- How many bytes there are before the first that belongs to no character. -/
def soundLength (bytes : List UInt8) : Nat :=
  ((scan .first bytes).takeWhile Option.isSome).foldl
    (fun length c => length + (c.getD default).utf8Size) 0

/-- The text of any bytes, each ill-formed piece shown as U+FFFD. -/
def decodeLossy (bytes : List UInt8) : List Char :=
  (scan .first bytes).map (·.getD '\uFFFD')

def encode (text : List Char) : List UInt8 := text.flatMap String.utf8EncodeChar

end Gatehouse.Utf8

namespace Gatehouse

/-- The bytes of a text. -/
def bytesOf (text : String) : List UInt8 := Utf8.encode text.toList

/-- The text of bytes, read leniently. -/
def lenientText (bytes : List UInt8) : String := String.ofList (Utf8.decodeLossy bytes)

end Gatehouse
