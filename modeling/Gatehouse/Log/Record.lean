import Gatehouse.Calendar.Timestamp
import Gatehouse.Json.Basic
import Gatehouse.Log.Level

/-!
# Log records

What a logger hands to its sinks. Metadata is always an object; a value of another kind becomes
one under the key `value`, and null an empty one.
-/
namespace Gatehouse

structure Record where
  level : Level
  message : String
  context : Option String
  requestId : Option String
  trace : Option String
  metadata : Json.Fields
  time : Timestamp

namespace Record

def meta? (record : Record) (key : String) : Option Json := record.metadata.find? key

/-- The object that a value is as metadata. -/
def metadataOf : Json → Json.Fields
  | .object fields => fields
  | .null => []
  | other => [("value", other)]

end Record

end Gatehouse
