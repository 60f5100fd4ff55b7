import Gatehouse.Json.Printer
import Gatehouse.Text.Quoted

/-!
# Why a text is not the JSON that was asked for

A fault has a cause and a place. Readers know a place by the number of bytes still unread, so they
carry no position along; line and column are counted from the input once a fault is shown.
-/
namespace Gatehouse.Json

/-- What stands where something else was expected. -/
inductive Found
  | null
  | boolean (value : Bool)
  | integer (value : Int)
  | float (value : Binary64)
  | text (value : String)
  | list
  | map

def Found.describe : Found → String
  | .null => "null"
  | .boolean true => "boolean `true`"
  | .boolean false => "boolean `false`"
  | .integer value => s!"integer `{String.ofList (printInt value)}`"
  | .float value => s!"floating point `{String.ofList (Shortest.text value)}`"
  | .text value => s!"string {Text.quoted value}"
  | .list => "sequence"
  | .map => "map"

inductive Cause
  | endInList
  | endInObject
  | endInText
  | endInValue
  | noColon
  | noListEnd
  | noObjectEnd
  | noWord
  | noValue
  | badEscape
  | badNumber
  | numberTooLarge
  | badCodePoint
  | controlCharacter
  | keyNotText
  | loneSurrogate
  | trailingComma
  | trailingCharacters
  | endOfHexEscape
  | tooDeep
  | wrongType (found : Found) (expected : String)
  | wrongValue (found : Found) (expected : String)
  | wrongLength (length : Nat) (expected : String)
  | unknownName (name : String) (known : List String)
  | missingField (name : String)
  | duplicateField (name : String)
  | notText (reason : String)

def quotedNames (names : List String) : String :=
  ", ".intercalate (names.map fun name => s!"`{name}`")

def Cause.message : Cause → String
  | .endInList => "EOF while parsing a list"
  | .endInObject => "EOF while parsing an object"
  | .endInText => "EOF while parsing a string"
  | .endInValue => "EOF while parsing a value"
  | .noColon => "expected `:`"
  | .noListEnd => "expected `,` or `]`"
  | .noObjectEnd => "expected `,` or `\x7d`"
  | .noWord => "expected ident"
  | .noValue => "expected value"
  | .badEscape => "invalid escape"
  | .badNumber => "invalid number"
  | .numberTooLarge => "number out of range"
  | .badCodePoint => "invalid unicode code point"
  | .controlCharacter => "control character (\\u0000-\\u001F) found while parsing a string"
  | .keyNotText => "key must be a string"
  | .loneSurrogate => "lone leading surrogate in hex escape"
  | .trailingComma => "trailing comma"
  | .trailingCharacters => "trailing characters"
  | .endOfHexEscape => "unexpected end of hex escape"
  | .tooDeep => "recursion limit exceeded"
  | .wrongType found expected => s!"invalid type: {found.describe}, expected {expected}"
  | .wrongValue found expected => s!"invalid value: {found.describe}, expected {expected}"
  | .wrongLength length expected => s!"invalid length {length}, expected {expected}"
  | .unknownName name known =>
    s!"unknown variant `{name}`, expected one of {quotedNames known}"
  | .missingField name => s!"missing field `{name}`"
  | .duplicateField name => s!"duplicate field `{name}`"
  | .notText reason => reason

/-- A cause and the number of bytes unread where it shows. -/
structure Fault where
  cause : Cause
  unread : Nat

/-- A fault in front of `rest`. -/
def Fault.before (cause : Cause) (rest : List UInt8) : Fault := ⟨cause, rest.length⟩

/-- A fault at the first byte of `rest`, or in front of the end. -/
def Fault.on (cause : Cause) (rest : List UInt8) : Fault := ⟨cause, rest.length - 1⟩

/-- Lines count from one, columns are the bytes since the last line end. -/
structure Position where
  line : Nat
  column : Nat

def Position.after (bytes : List UInt8) : Position :=
  bytes.foldl (fun here byte =>
    if byte = 0x0A then ⟨here.line + 1, 0⟩ else ⟨here.line, here.column + 1⟩) ⟨1, 0⟩

/-- What a reader is told: the cause and, for a text, where it shows. -/
structure Error where
  cause : Cause
  position : Option Position

def Fault.within (fault : Fault) (input : List UInt8) : Error where
  cause := fault.cause
  position := some (Position.after (input.take (input.length - fault.unread)))

def Error.message (error : Error) : String :=
  match error.position with
  | none => error.cause.message
  | some place => s!"{error.cause.message} at line {place.line} column {place.column}"

end Gatehouse.Json
