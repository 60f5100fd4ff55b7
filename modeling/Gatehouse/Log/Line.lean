import Gatehouse.Json.Printer
import Gatehouse.Log.Format
import Gatehouse.Log.Record

/-!
# Log lines

A record as one line of text, without the line end. In JSON the fields come in a fixed order and
absent ones are left out; an empty text is not absent. The line for people ends with the metadata
and shows a trace on lines of its own.
-/
namespace Gatehouse.Record

def optionalField (key : String) (text : Option String) : List (String × Json) :=
  match text with
  | some text => [(key, .string text)]
  | none => []

/-- The fields of the JSON line, in order. -/
def fields (record : Record) (app : String) : List (String × Json) :=
  [("timestamp", .string (String.ofList record.time.printMachine)),
    ("level", .string record.level.name), ("app", .string app)]
  ++ optionalField "context" record.context
  ++ optionalField "requestId" record.requestId
  ++ [("message", .string record.message)]
  ++ optionalField "trace" record.trace
  ++ if record.metadata.isEmpty then [] else [("metadata", .object record.metadata)]

def jsonLine (record : Record) (app : String) : List Char :=
  Json.print (.object (record.fields app))

/-- The parameter of the escape sequence that colors a label. -/
def color : Level → List Char
  | .error => ['3', '1']
  | .warn => ['3', '3']
  | .info => ['3', '2']
  | .http => ['3', '5']
  | .debug => ['3', '4']
  | .verbose => ['3', '6']

def escapeSequence (parameter : List Char) : List Char :=
  Char.ofNat 0x1B :: '[' :: parameter ++ ['m']

/-- The level in capitals, as wide as the widest. -/
def label (level : Level) : List Char :=
  let letters := (Text.uppered level.name).toList
  letters ++ List.replicate (7 - letters.length) ' '

def coloredLabel (level : Level) (colors : Bool) : List Char :=
  if colors then
    escapeSequence (color level) ++ label level ++ escapeSequence ['3', '9']
  else label level

def bracketed (text : Option String) : List Char :=
  match text with
  | some text => ' ' :: '[' :: text.toList ++ [']']
  | none => []

def prettyLine (record : Record) (colors : Bool) : List Char :=
  record.time.printHuman ++ ' ' :: coloredLabel record.level colors
  ++ bracketed record.context ++ bracketed record.requestId
  ++ ' ' :: record.message.toList
  ++ (match record.trace with
      | some trace => '\n' :: trace.toList
      | none => [])
  ++ if record.metadata.isEmpty then [] else ' ' :: Json.print (.object record.metadata)

end Gatehouse.Record
