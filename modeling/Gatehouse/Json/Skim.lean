import Gatehouse.Json.Reader

/-!
# Passing over a value

A field that nobody asked for is passed over by its shape alone. Nesting has no limit, strings need
no valid characters, and numbers no range. The brackets still open are kept in a list, so each
step looks at the bytes once.
-/
namespace Gatehouse.Json

/-- An open bracket or brace. -/
inductive Frame
  | list
  | map
deriving DecidableEq

/-- Passes over a string body; `hex` counts the digits of a code unit still to come. -/
inductive SkimState
  | plain
  | escape
  | hex (digits : Nat) (valid : Bool)

def skimText (state : SkimState) : List UInt8 → Except Fault (List UInt8)
  | [] => .error (.before .endInText [])
  | b :: rest =>
    match state with
    | .plain =>
      if b = 0x22 then .ok rest
      else if b = 0x5C then skimText .escape rest
      else if b < 0x20 then .error (.before .controlCharacter (b :: rest))
      else skimText .plain rest
    | .escape =>
      if (shortEscape? b).isSome then skimText .plain rest
      else if b = 0x75 then skimText (.hex 3 true) rest
      else .error (.before .badEscape rest)
    | .hex digits valid =>
      let valid := valid && (Hex.value? b).isSome
      match digits with
      | digits + 1 => skimText (.hex digits valid) rest
      | 0 => if valid then skimText .plain rest else .error (.before .badEscape rest)

/-- Passes over an exponent after its letter. -/
def skimExponent (input : List UInt8) : Except Fault (List UInt8) :=
  let digits :=
    match input with
    | 0x2B :: rest => rest
    | 0x2D :: rest => rest
    | rest => rest
  match digits with
  | [] => .error (.before .badNumber [])
  | b :: rest =>
    if isDigitByte b then .ok (rest.dropWhile isDigitByte) else .error (.before .badNumber rest)

def skimPower (input : List UInt8) : Except Fault (List UInt8) :=
  match input with
  | 0x65 :: rest => skimExponent rest
  | 0x45 :: rest => skimExponent rest
  | rest => .ok rest

/-- Passes over a number after its sign. -/
def skimNumber : List UInt8 → Except Fault (List UInt8)
  | [] => .error (.before .badNumber [])
  | b :: rest =>
    if isDigitByte b then
      let after := if b = 0x30 then rest else rest.dropWhile isDigitByte
      if b = 0x30 ∧ after.head?.any isDigitByte then .error (.on .badNumber after)
      else
        match after with
        | 0x2E :: fraction =>
          if fraction.head?.any isDigitByte then skimPower (fraction.dropWhile isDigitByte)
          else .error (.on .badNumber fraction)
        | rest => skimPower rest
    else .error (.before .badNumber rest)

/-- What the start of a value is: all of it, or an opening bracket. -/
def skimStart (input : List UInt8) : Except Fault (Option Frame × List UInt8) :=
  match skipBlanks input with
  | [] => .error (.on .endInValue [])
  | 0x6E :: rest => (word nullTail rest).map (none, ·)
  | 0x74 :: rest => (word trueTail rest).map (none, ·)
  | 0x66 :: rest => (word falseTail rest).map (none, ·)
  | 0x22 :: rest => (skimText .plain rest).map (none, ·)
  | 0x2D :: rest => (skimNumber rest).map (none, ·)
  | 0x5B :: rest => .ok (some .list, rest)
  | 0x7B :: rest => .ok (some .map, rest)
  | b :: rest =>
    if isDigitByte b then (skimNumber (b :: rest)).map (none, ·)
    else .error (.on .noValue (b :: rest))

/-- Closes what can be closed: the frames left open, and the bytes at the next value or key. A
comma counts only after a value. -/
def skimEnd (comma : Bool) : List Frame → Nat → List UInt8 → Except Fault (List Frame × List UInt8)
  | [], _, input => .ok ([], input)
  | frames, 0, input => .ok (frames, input)
  | frame :: outer, budget + 1, input =>
    match frame, skipBlanks input with
    | .list, [] => .error (.on .endInList [])
    | .map, [] => .error (.on .endInObject [])
    | .list, 0x5D :: rest => skimEnd true outer budget rest
    | .map, 0x7D :: rest => skimEnd true outer budget rest
    | _, 0x2C :: rest =>
      if comma then .ok (frame :: outer, rest)
      else .ok (frame :: outer, 0x2C :: rest)
    | .list, other => if comma then .error (.on .noListEnd other) else .ok (frame :: outer, other)
    | .map, other => if comma then .error (.on .noObjectEnd other) else .ok (frame :: outer, other)

/-- Passes over a key and its colon when an object is open. -/
def skimKey (frames : List Frame) (input : List UInt8) : Except Fault (List UInt8) :=
  match frames with
  | .map :: _ =>
    match skipBlanks input with
    | [] => .error (.on .endInObject [])
    | 0x22 :: rest => (skimText .plain rest).bind colon
    | other => .error (.on .keyNotText other)
  | _ => .ok input

/-- Passes over the values that are left of the open frames. -/
def skimFrames : Nat → List Frame → List UInt8 → Except Fault (List UInt8)
  | 0, _, input => .error (.before .endInValue input)
  | budget + 1, frames, input =>
    match skimStart input with
    | .error fault => .error fault
    | .ok (opened, rest) =>
      match skimEnd opened.isNone (opened.toList ++ frames) (rest.length + 1) rest with
      | .error fault => .error fault
      | .ok ([], rest) => .ok rest
      | .ok (frames, rest) =>
        match skimKey frames rest with
        | .error fault => .error fault
        | .ok rest => skimFrames budget frames rest

/-- The bytes after a value. -/
def skim (input : List UInt8) : Except Fault (List UInt8) :=
  skimFrames (input.length + 1) [] input

end Gatehouse.Json
