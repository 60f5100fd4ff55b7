import Gatehouse.Text.AsciiCase
import Gatehouse.Text.Blank

/-!
# Log formats

Lines for people, or one JSON object for each record.
-/
namespace Gatehouse

inductive LogFormat
  | pretty
  | json
deriving DecidableEq

namespace LogFormat

def name : LogFormat → String
  | .pretty => "pretty"
  | .json => "json"

def ofName? (text : String) : Option LogFormat :=
  match text with
  | "pretty" => some .pretty
  | "text" => some .pretty
  | "json" => some .json
  | _ => none

/-- The text that is looked up: without the blanks around it, in lower case. -/
def simplified (text : String) : String := Text.lowered (Text.trimmed text)

def parse? (text : String) : Option LogFormat := ofName? (simplified text)

/-- What is said of a text that names no format. -/
def unknownMessage (text : String) : String := s!"unknown log format: {simplified text}"

end LogFormat

end Gatehouse
