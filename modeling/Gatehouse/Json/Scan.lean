import Gatehouse.Json.Fault
import Gatehouse.Text.Utf8

/-!
# The pieces of a JSON text

Blanks, words, strings and numbers. A scanner takes the unread bytes and gives what it read with
the bytes after it.
-/
namespace Gatehouse.Json

abbrev Scanned (α : Type) := Except Fault (α × List UInt8)

def isBlankByte (b : UInt8) : Bool := b == 0x20 || b == 0x0A || b == 0x09 || b == 0x0D

def skipBlanks (input : List UInt8) : List UInt8 := input.dropWhile isBlankByte

def isDigitByte (b : UInt8) : Bool := 0x30 ≤ b && b ≤ 0x39

/-- The rest of a fixed word. -/
def word : List UInt8 → List UInt8 → Except Fault (List UInt8)
  | [], input => .ok input
  | _ :: _, [] => .error (.before .endInValue [])
  | expected :: more, b :: rest =>
    if b = expected then word more rest else .error (.before .noWord rest)

/-- What the letter after a backslash stands for, except in code points. -/
def shortEscape? (letter : UInt8) : Option UInt8 :=
  if letter = 0x22 then some 0x22
  else if letter = 0x5C then some 0x5C
  else if letter = 0x2F then some 0x2F
  else if letter = 0x62 then some 0x08
  else if letter = 0x66 then some 0x0C
  else if letter = 0x6E then some 0x0A
  else if letter = 0x72 then some 0x0D
  else if letter = 0x74 then some 0x09
  else none

/-- Where the reader of a string stands. `hex` has read some digits of a code unit; its value is
lost at the first byte that is no digit. A leading surrogate waits for its partner. -/
inductive TextState
  | plain
  | escape
  | hex (leading : Option Nat) (digits : Nat) (value : Option Nat)
  | partnerSlash (leading : Nat)
  | partnerLetter (leading : Nat)

def isLeading (unit : Nat) : Bool := 0xD800 ≤ unit && unit ≤ 0xDBFF

def isTrailing (unit : Nat) : Bool := 0xDC00 ≤ unit && unit ≤ 0xDFFF

def pairValue (leading trailing : Nat) : Nat :=
  0x10000 + (leading - 0xD800) * 0x400 + (trailing - 0xDC00)

/-- What one byte does to the reader of a string. -/
inductive TextStep
  | more (state : TextState) (bytes : List UInt8)
  | close
  | fail (cause : Cause)

/-- A complete code unit. -/
def unitStep (leading : Option Nat) (unit : Nat) : TextStep :=
  match leading with
  | some first =>
    if isTrailing unit then
      .more .plain (String.utf8EncodeChar (Char.ofNat (pairValue first unit)))
    else .fail .loneSurrogate
  | none =>
    if isTrailing unit then .fail .loneSurrogate
    else if isLeading unit then .more (.partnerSlash unit) []
    else .more .plain (String.utf8EncodeChar (Char.ofNat unit))

def TextState.step (b : UInt8) : TextState → TextStep
  | .plain =>
    if b = 0x22 then .close
    else if b = 0x5C then .more .escape []
    else if b < 0x20 then .fail .controlCharacter
    else .more .plain [b]
  | .escape =>
    match shortEscape? b with
    | some c => .more .plain [c]
    | none => if b = 0x75 then .more (.hex none 0 (some 0)) [] else .fail .badEscape
  | .hex leading digits value =>
    let value := value.bind fun v => (Hex.value? b).map fun d => v * 16 + d
    if digits < 3 then .more (.hex leading (digits + 1) value) []
    else value.elim (.fail .badEscape) (unitStep leading)
  | .partnerSlash leading =>
    if b = 0x5C then .more (.partnerLetter leading) [] else .fail .endOfHexEscape
  | .partnerLetter leading =>
    if b = 0x75 then .more (.hex (some leading) 0 (some 0)) [] else .fail .endOfHexEscape

/-- The bytes of a string up to its closing quote; `done` holds those already read, last first. -/
def textBytes (state : TextState) (done : List UInt8) : List UInt8 → Scanned (List UInt8)
  | [] => .error (.before .endInText [])
  | b :: rest =>
    match state.step b with
    | .more state bytes => textBytes state (bytes.reverse ++ done) rest
    | .close => .ok (done.reverse, rest)
    | .fail cause => .error (.before cause rest)

/-- A string after its opening quote. Its bytes must be well-formed; escapes are whole characters,
so the first byte that is not is found in the text as it is written. -/
def scanText (input : List UInt8) : Scanned String :=
  match textBytes .plain [] input with
  | .error fault => .error fault
  | .ok (bytes, rest) =>
    match Utf8.decode? bytes with
    | some text => .ok (String.ofList text, rest)
    | none => .error (.on .badCodePoint (input.drop (Utf8.soundLength input)))

/-- Adds digits to an integer while it stays below 2 ^ 64; gives the digits left over. -/
def absorb : Nat → List UInt8 → Nat × List UInt8
  | value, [] => (value, [])
  | value, d :: rest =>
    let next := value * 10 + (d.toNat - 0x30)
    if next < 0x10000000000000000 then absorb next rest else (value, d :: rest)

/-- `value · 10 ^ power` for a large negative power, divided in steps of the largest power of
ten. -/
def descend : Nat → Binary64 → Nat → Option Binary64
  | 0, _, _ => some .zero
  | steps + 1, value, power =>
    if value.isZero then some value
    else if power ≤ 308 then do value.dividedBy (← Binary64.tenTo power)
    else do descend steps (← value.dividedBy (← Binary64.tenTo 308)) (power - 308)

/-- The number `significand · 10 ^ power`: the significand is rounded once, the power of ten
once, and their product or quotient once more. -/
def decimalFloat (significand : Nat) (power : Int) : Option Binary64 := do
  let value ← Binary64.ofRatio significand 1
  if power < 0 then descend 4 value power.natAbs
  else if power ≤ 308 then value.times (← Binary64.tenTo power.toNat)
  else if value.isZero then some value
  else none

def signed (negative : Bool) (value : Binary64) : Json :=
  .float (if negative then value.negate else value)

/-- The float of a scanned literal; too large a one is a fault behind it. -/
def floatOf (negative : Bool) (significand : Nat) (power : Int) (rest : List UInt8) :
    Scanned Json :=
  match decimalFloat significand power with
  | some value => .ok (signed negative value, rest)
  | none => .error (.before .numberTooLarge rest)

/-- The digits of an exponent while it stays below 2 ^ 31; gives the bytes from the digit that
would exceed it. -/
def exponentDigits : Nat → List UInt8 → Nat × Option (List UInt8) × List UInt8
  | value, [] => (value, none, [])
  | value, b :: rest =>
    if isDigitByte b then
      let next := value * 10 + (b.toNat - 0x30)
      if next < 0x80000000 then exponentDigits next rest else (value, some rest, rest)
    else (value, none, b :: rest)

/-- A literal from the letter of its exponent on. -/
def scanExponent (negative : Bool) (significand : Nat) (power : Int) (input : List UInt8) :
    Scanned Json :=
  let (minus, digits) :=
    match input with
    | 0x2B :: rest => (false, rest)
    | 0x2D :: rest => (true, rest)
    | rest => (false, rest)
  match digits with
  | [] => .error (.before .endInValue [])
  | b :: rest =>
    if isDigitByte b then
      match exponentDigits (b.toNat - 0x30) rest with
      | (value, none, rest) =>
        floatOf negative significand (if minus then power - value else power + value) rest
      | (_, some rest, _) =>
        if significand ≠ 0 ∧ ¬ minus then .error (.before .numberTooLarge rest)
        else .ok (signed negative .zero, rest.dropWhile isDigitByte)
    else .error (.before .badNumber rest)

/-- A literal whose digits are read, up to an exponent if there is one. -/
def scanPower (negative : Bool) (significand : Nat) (power : Int) (input : List UInt8) :
    Scanned Json :=
  match input with
  | b :: rest =>
    if b = 0x65 ∨ b = 0x45 then scanExponent negative significand power rest
    else floatOf negative significand power input
  | [] => floatOf negative significand power input

/-- A literal after its point. Digits that no longer fit the significand are dropped. -/
def scanFraction (negative : Bool) (significand : Nat) (power : Nat) (input : List UInt8) :
    Scanned Json :=
  let digits := input.takeWhile isDigitByte
  let rest := input.dropWhile isDigitByte
  match digits, rest with
  | [], [] => .error (.on .endInValue [])
  | [], rest => .error (.on .badNumber rest)
  | digits, rest =>
    let (value, left) := absorb significand digits
    scanPower negative value (power - (digits.length - left.length : Nat)) rest

/-- An integer literal. Negative zero and what no 64-bit integer holds are floats. -/
def integerOf (negative : Bool) (value : Nat) : Json :=
  if negative then
    if 0 < value ∧ value ≤ 0x8000000000000000 then .integer (-value)
    else signed true ((Binary64.ofRatio value 1).getD .zero)
  else .integer value

/-- A number after its sign. -/
def scanNumber (negative : Bool) : List UInt8 → Scanned Json
  | [] => .error (.before .endInValue [])
  | b :: rest =>
    if isDigitByte b then
      let digits := if b = 0x30 then [b] else b :: rest.takeWhile isDigitByte
      let after := if b = 0x30 then rest else rest.dropWhile isDigitByte
      if b = 0x30 ∧ after.head?.any isDigitByte then .error (.on .badNumber after)
      else
        let (value, left) := absorb 0 digits
        match after with
        | 0x2E :: fraction => scanFraction negative value left.length fraction
        | b :: rest =>
          if b = 0x65 ∨ b = 0x45 then scanExponent negative value left.length rest
          else if left.isEmpty then .ok (integerOf negative value, after)
          else floatOf negative value left.length after
        | [] =>
          if left.isEmpty then .ok (integerOf negative value, [])
          else floatOf negative value left.length []
    else .error (.before .badNumber rest)

end Gatehouse.Json
