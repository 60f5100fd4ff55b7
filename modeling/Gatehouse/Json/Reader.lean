import Gatehouse.Json.Scan

/-!
# Reading JSON values

A value is read by recursion on the depth that is left, so the limit on nesting is what makes the
reader end; lists of items run on a budget of one item for each byte, more than they can use.
-/
namespace Gatehouse.Json

/-- Arrays and objects nest at most this deep. -/
def depthLimit : Nat := 127

/-- The items after one that was read, up to the closing bracket. -/
def itemsAfter {α : Type} (item : List UInt8 → Scanned α) :
    Nat → List α → List UInt8 → Scanned (List α)
  | 0, _, input => .error (.before .endInList input)
  | budget + 1, done, input =>
    match skipBlanks input with
    | [] => .error (.on .endInList [])
    | 0x5D :: rest => .ok (done.reverse, rest)
    | 0x2C :: rest =>
      match skipBlanks rest with
      | [] => .error (.on .endInValue [])
      | 0x5D :: more => .error (.on .trailingComma (0x5D :: more))
      | next =>
        match item next with
        | .error fault => .error fault
        | .ok (value, rest) => itemsAfter item budget (value :: done) rest
    | other => .error (.on .noListEnd other)

/-- The items of an array after its opening bracket. -/
def items {α : Type} (item : List UInt8 → Scanned α) (input : List UInt8) : Scanned (List α) :=
  match skipBlanks input with
  | [] => .error (.on .endInList [])
  | 0x5D :: rest => .ok ([], rest)
  | next =>
    match item next with
    | .error fault => .error fault
    | .ok (value, rest) => itemsAfter item input.length [value] rest

/-- The colon between a key and its value. -/
def colon (input : List UInt8) : Except Fault (List UInt8) :=
  match skipBlanks input with
  | [] => .error (.on .endInObject [])
  | 0x3A :: rest => .ok rest
  | other => .error (.on .noColon other)

/-- A field after the opening quote of its key. -/
def member {α : Type} (item : List UInt8 → Scanned α) (input : List UInt8) :
    Scanned (String × α) :=
  match scanText input with
  | .error fault => .error fault
  | .ok (key, rest) =>
    match colon rest with
    | .error fault => .error fault
    | .ok rest =>
      match item rest with
      | .error fault => .error fault
      | .ok (value, rest) => .ok ((key, value), rest)

/-- What stands before the first key of an object: a quote, or the closing brace. -/
def firstKey (input : List UInt8) : Except Fault (Bool × List UInt8) :=
  match skipBlanks input with
  | [] => .error (.on .endInObject [])
  | 0x7D :: rest => .ok (false, rest)
  | 0x22 :: rest => .ok (true, rest)
  | other => .error (.on .keyNotText other)

/-- What stands after a field: a comma and a quote, or the closing brace. -/
def nextKey (input : List UInt8) : Except Fault (Bool × List UInt8) :=
  match skipBlanks input with
  | [] => .error (.on .endInObject [])
  | 0x7D :: rest => .ok (false, rest)
  | 0x2C :: rest =>
    match skipBlanks rest with
    | [] => .error (.on .endInValue [])
    | 0x22 :: rest => .ok (true, rest)
    | 0x7D :: more => .error (.on .trailingComma (0x7D :: more))
    | other => .error (.on .keyNotText other)
  | other => .error (.on .noObjectEnd other)

/-- The fields after one that was read, up to the closing brace. -/
def membersAfter {α : Type} (item : List UInt8 → Scanned α) :
    Nat → List (String × α) → List UInt8 → Scanned (List (String × α))
  | 0, _, input => .error (.before .endInObject input)
  | budget + 1, done, input =>
    match nextKey input with
    | .error fault => .error fault
    | .ok (false, rest) => .ok (done.reverse, rest)
    | .ok (true, rest) =>
      match member item rest with
      | .error fault => .error fault
      | .ok (field, rest) => membersAfter item budget (field :: done) rest

/-- The fields of an object after its opening brace, in the order of the text. -/
def members {α : Type} (item : List UInt8 → Scanned α) (input : List UInt8) :
    Scanned (List (String × α)) :=
  match firstKey input with
  | .error fault => .error fault
  | .ok (false, rest) => .ok ([], rest)
  | .ok (true, rest) =>
    match member item rest with
    | .error fault => .error fault
    | .ok (field, rest) => membersAfter item input.length [field] rest

/-- A word that is the whole of a value. -/
def constant {α : Type} (letters : List UInt8) (value : α) (input : List UInt8) : Scanned α :=
  (word letters input).map (value, ·)

/-- The letters of `null`, `true` and `false` after the first. -/
def nullTail : List UInt8 := [0x75, 0x6C, 0x6C]
def trueTail : List UInt8 := [0x72, 0x75, 0x65]
def falseTail : List UInt8 := [0x61, 0x6C, 0x73, 0x65]

/-- A value, with so many levels of nesting left. -/
def value : Nat → List UInt8 → Scanned Json
  | depth, input =>
    match skipBlanks input with
    | [] => .error (.on .endInValue [])
    | 0x6E :: rest => constant nullTail .null rest
    | 0x74 :: rest => constant trueTail (.bool true) rest
    | 0x66 :: rest => constant falseTail (.bool false) rest
    | 0x22 :: rest => (scanText rest).map fun (text, rest) => (.string text, rest)
    | 0x2D :: rest => scanNumber true rest
    | 0x5B :: rest =>
      match depth with
      | 0 => .error (.on .tooDeep (0x5B :: rest))
      | depth + 1 => (items (value depth) rest).map fun (list, rest) => (.array list, rest)
    | 0x7B :: rest =>
      match depth with
      | 0 => .error (.on .tooDeep (0x7B :: rest))
      | depth + 1 =>
        (members (value depth) rest).map fun (pairs, rest) => (ofPairs pairs, rest)
    | b :: rest =>
      if isDigitByte b then scanNumber false (b :: rest)
      else .error (.on .noValue (b :: rest))

/-- A reader's value, with nothing but blanks behind it. -/
def whole {α : Type} (read : List UInt8 → Scanned α) (input : List UInt8) : Except Error α :=
  match read input with
  | .error fault => .error (fault.within input)
  | .ok (value, rest) =>
    match skipBlanks rest with
    | [] => .ok value
    | other => .error ((Fault.on .trailingCharacters other).within input)

/-- The value of a document. -/
def read (input : List UInt8) : Except Error Json := whole (value depthLimit) input

end Gatehouse.Json
