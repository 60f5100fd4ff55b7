import Gatehouse.Json.Skim

/-!
# Reading JSON as a type

A decoder knows three ways to a value: from a JSON text, from null (what an empty body stands for)
and from a plain text (what a body that is no JSON stands for).
-/
namespace Gatehouse.Json

structure Decoder (α : Type) where
  read : List UInt8 → Scanned α
  ofNull : Except Cause α
  ofText : String → Option α

/-- The fault of a value of another type. Lists and objects are left unread. -/
def mismatch {α : Type} (expected : String) (input : List UInt8) : Scanned α :=
  let wrong (found : Found) (rest : List UInt8) : Scanned α :=
    .error (.before (.wrongType found expected) rest)
  let number (scanned : Scanned Json) : Scanned α :=
    match scanned with
    | .error fault => .error fault
    | .ok (.integer value, rest) => wrong (.integer value) rest
    | .ok (.float value, rest) => wrong (.float value) rest
    | .ok (_, rest) => wrong .null rest
  match input with
  | [] => .error (.on .endInValue [])
  | 0x6E :: rest => (word nullTail rest).bind (wrong .null)
  | 0x74 :: rest => (word trueTail rest).bind (wrong (.boolean true))
  | 0x66 :: rest => (word falseTail rest).bind (wrong (.boolean false))
  | 0x22 :: rest =>
    match scanText rest with
    | .error fault => .error fault
    | .ok (text, rest) => wrong (.text text) rest
  | 0x2D :: rest => number (scanNumber true rest)
  | 0x5B :: _ => wrong .list input
  | 0x7B :: _ => wrong .map input
  | b :: _ =>
    if isDigitByte b then number (scanNumber false input) else .error (.on .noValue input)

def notNull {α : Type} (expected : String) : Except Cause α := .error (.wrongType .null expected)

namespace Decoder

/-- A decoder for values that only JSON texts spell. -/
def strict {α : Type} (expected : String) (read : List UInt8 → Scanned α) : Decoder α where
  read := read
  ofNull := notNull expected
  ofText := fun _ => none

def map {α β : Type} (f : α → β) (decoder : Decoder α) : Decoder β where
  read := fun input => (decoder.read input).map fun (value, rest) => (f value, rest)
  ofNull := decoder.ofNull.map f
  ofText := fun text => (decoder.ofText text).map f

/-- Any value. -/
def json : Decoder Json where
  read := value depthLimit
  ofNull := .ok .null
  ofText := fun text => some (.string text)

def text : Decoder String where
  read := fun input =>
    match skipBlanks input with
    | 0x22 :: rest => scanText rest
    | other => mismatch "a string" other
  ofNull := notNull "a string"
  ofText := some

/-- An integer from `low` to `high`. -/
def integer (name : String) (low high : Int) : Decoder Int :=
  strict name fun input =>
    let check (scanned : Scanned Json) : Scanned Int :=
      match scanned with
      | .error fault => .error fault
      | .ok (.integer value, rest) =>
        if low ≤ value ∧ value ≤ high then .ok (value, rest)
        else .error (.before (.wrongValue (.integer value) name) rest)
      | .ok (.float value, rest) => .error (.before (.wrongType (.float value) name) rest)
      | .ok (_, rest) => .error (.before .noValue rest)
    match skipBlanks input with
    | 0x2D :: rest => check (scanNumber true rest)
    | b :: rest =>
      if isDigitByte b then check (scanNumber false (b :: rest)) else mismatch name (b :: rest)
    | [] => mismatch name []

def unsigned64 : Decoder Nat := (integer "u64" 0 0xFFFFFFFFFFFFFFFF).map Int.toNat

def unsigned32 : Decoder Nat := (integer "u32" 0 0xFFFFFFFF).map Int.toNat

def signed8 : Decoder Int := integer "i8" (-128) 127

def boolean : Decoder Bool :=
  strict "a boolean" fun input =>
    match skipBlanks input with
    | 0x74 :: rest => constant trueTail true rest
    | 0x66 :: rest => constant falseTail false rest
    | other => mismatch "a boolean" other

/-- Null and nothing else. -/
def unit : Decoder Unit where
  read := fun input =>
    match skipBlanks input with
    | 0x6E :: rest => constant nullTail () rest
    | other => mismatch "unit" other
  ofNull := .ok ()
  ofText := fun _ => none

def optional {α : Type} (decoder : Decoder α) : Decoder (Option α) where
  read := fun input =>
    match skipBlanks input with
    | 0x6E :: rest => constant nullTail none rest
    | other => (decoder.read other).map fun (value, rest) => (some value, rest)
  ofNull := .ok none
  ofText := fun text => (decoder.ofText text).map some

def list {α : Type} (decoder : Decoder α) : Decoder (List α) :=
  strict "a sequence" fun input =>
    match skipBlanks input with
    | 0x5B :: rest => items decoder.read rest
    | other => mismatch "a sequence" other

/-- The fields of an object in the order of the text. -/
def fields {α : Type} (decoder : Decoder α) : Decoder (List (String × α)) :=
  strict "a map" fun input =>
    match skipBlanks input with
    | 0x7B :: rest => members decoder.read rest
    | other => mismatch "a map" other

/-- The value of a name, or a fault behind the text that held it. -/
def nameOf {α : Type} (known : List (String × α)) (name : String) (rest : List UInt8) : Scanned α :=
  match known.lookup name with
  | some value => .ok (value, rest)
  | none => .error (.before (.unknownName name (known.map (·.1))) rest)

/-- A name that is the only key of an object, after its opening quote. -/
def namedNull {α : Type} (known : List (String × α)) (input : List UInt8) :
    Except Fault (α × List UInt8) := do
  let (name, rest) ← scanText input
  let (value, rest) ← nameOf known name rest
  let rest ← colon rest
  let (_, rest) ← unit.read rest
  match skipBlanks rest with
  | [] => .error (.before .endInObject [])
  | 0x7D :: rest => .ok (value, rest)
  | other => .error (.before .noValue other)

/-- One of some names: as a string, or as the only key of an object whose value is null. -/
def oneOf {α : Type} (known : List (String × α)) : Decoder α where
  read := fun input =>
    match skipBlanks input with
    | [] => .error (.on .endInValue [])
    | 0x22 :: rest =>
      match scanText rest with
      | .error fault => .error fault
      | .ok (name, rest) => nameOf known name rest
    | 0x7B :: rest =>
      match skipBlanks rest with
      | [] => .error (.on .endInObject [])
      | 0x7D :: more => .error (.on .noValue (0x7D :: more))
      | 0x22 :: rest => namedNull known rest
      | other => .error (.on .keyNotText other)
    | other => .error (.on .noValue other)
  ofNull := notNull "string or map"
  ofText := fun text => known.lookup text

end Decoder

/-! ## Records -/

/-- A field of a record that is being read: its key, whether it was read, and how to read it. -/
structure Slot (σ : Type) where
  key : String
  isRead : σ → Bool
  read : σ → List UInt8 → Scanned σ

/-- A slot that fills an optional field. -/
def Slot.of {σ α : Type} (key : String) (decoder : Decoder α) (get : σ → Option α)
    (set : σ → α → σ) : Slot σ where
  key := key
  isRead := fun state => (get state).isSome
  read := fun state input =>
    (decoder.read input).map fun (value, rest) => (set state value, rest)

/-- The bytes behind the object that ends here, if it does. -/
def pastObject (input : List UInt8) : List UInt8 :=
  match skipBlanks input with
  | 0x7D :: rest => rest
  | other => other

/-- The bytes behind the array that ends here, or behind a comma. -/
def pastList (input : List UInt8) : List UInt8 :=
  match skipBlanks input with
  | 0x5D :: rest => rest
  | 0x2C :: rest => skipBlanks rest
  | other => other

/-- A field after the opening quote of its key. A key of no slot is passed over with its value. -/
def slotMember {σ : Type} (slots : List (Slot σ)) (state : σ) (input : List UInt8) : Scanned σ :=
  match scanText input with
  | .error fault => .error fault
  | .ok (key, rest) =>
    match slots.find? (·.key == key) with
    | none =>
      match (colon rest).bind skim with
      | .error fault => .error fault
      | .ok rest => .ok (state, rest)
    | some slot =>
      if slot.isRead state then .error (.before (.duplicateField key) (pastObject rest))
      else (colon rest).bind (slot.read state)

/-- The fields of a record; `more` looks for the next key. -/
def slotMembers {σ : Type} (slots : List (Slot σ)) :
    Nat → (List UInt8 → Except Fault (Bool × List UInt8)) → σ → List UInt8 → Scanned σ
  | 0, _, _, input => .error (.before .endInObject input)
  | budget + 1, more, state, input =>
    match more input with
    | .error fault => .error fault
    | .ok (false, rest) => .ok (state, rest)
    | .ok (true, rest) =>
      match slotMember slots state rest with
      | .error fault => .error fault
      | .ok (state, rest) => slotMembers slots budget nextKey state rest

/-- The items of a record that is written as an array, one for each slot. -/
def slotItems {σ : Type} (slotCount : Nat) (expected : String) :
    List (Slot σ) → σ → List UInt8 → Scanned σ
  | [], state, input => .ok (state, input)
  | slot :: more, state, input =>
    let read := slotCount - (more.length + 1)
    let next (rest : List UInt8) : Scanned σ :=
      match slot.read state rest with
      | .error fault => .error fault
      | .ok (state, rest) => slotItems slotCount expected more state rest
    match skipBlanks input with
    | [] => .error (.on .endInList [])
    | 0x5D :: rest => .error (.before (.wrongLength read expected) (pastList (0x5D :: rest)))
    | 0x2C :: rest =>
      if read = 0 then next (0x2C :: rest)
      else
        match skipBlanks rest with
        | [] => .error (.on .endInValue [])
        | 0x5D :: more => .error (.on .trailingComma (0x5D :: more))
        | other => next other
    | other => if read = 0 then next other else .error (.on .noListEnd other)

/-- The bytes behind an array of which every slot was read. -/
def closeList (input : List UInt8) : Except Fault (List UInt8) :=
  match skipBlanks input with
  | [] => .error (.on .endInList [])
  | 0x5D :: rest => .ok rest
  | 0x2C :: rest =>
    match skipBlanks rest with
    | 0x5D :: more => .error (.on .trailingComma (0x5D :: more))
    | other => .error (.on .trailingCharacters other)
  | other => .error (.on .trailingCharacters other)

/-- A record with named fields, also written as an array of their values. `finish` tells which
field is missing. -/
def Decoder.record {σ α : Type} (name : String) (slots : List (Slot σ)) (start : σ)
    (finish : σ → Except String α) : Decoder α :=
  let elements := if slots.length = 1 then "1 element" else s!"{slots.length} elements"
  .strict name fun input =>
    match skipBlanks input with
    | 0x7B :: rest =>
      match slotMembers slots (rest.length + 1) firstKey start rest with
      | .error fault => .error fault
      | .ok (state, rest) =>
        match finish state with
        | .error field => .error (.before (.missingField field) rest)
        | .ok value => .ok (value, rest)
    | 0x5B :: rest =>
      match slotItems slots.length s!"{name} with {elements}" slots start rest with
      | .error fault => .error fault
      | .ok (state, rest) =>
        match finish state with
        | .error field => .error (.before (.missingField field) (pastList rest))
        | .ok value => (closeList rest).map (value, ·)
    | other => mismatch name other

end Gatehouse.Json
