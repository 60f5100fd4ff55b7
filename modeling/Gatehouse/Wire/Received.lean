import Gatehouse.Http.Header
import Gatehouse.Http.HeaderValue

/-!
# Headers as they are received

Values of one name are grouped at the place where the name came first. A group is a text, or
several, when all its values are visible; otherwise it is kept as the bytes of its first value.
-/
namespace Gatehouse.Wire

/-- Names in lower case, each once, with their values in the order of arrival. -/
abbrev Received := List (String × List (List UInt8))

/-- Adds a value to its name. -/
def Received.add (name : String) (value : List UInt8) : Received → Received
  | [] => [(name, [value])]
  | (other, values) :: rest =>
    if other = name then (other, values ++ [value]) :: rest
    else (other, values) :: add name value rest

/-- The headers of lines in their order. -/
def Received.ofLines (lines : List (String × List UInt8)) : Received :=
  lines.foldl (fun received line => received.add line.1 line.2) []

/-- The texts of values, if all are visible. -/
def visibleTexts? (values : List (List UInt8)) : Option (List String) :=
  values.mapM fun value => (HeaderValue.visibleText? value).map String.ofList

/-- The values of a name as one header. -/
def collectValues (values : List (List UInt8)) : RawHeader :=
  match visibleTexts? values with
  | some [text] => .text text
  | some texts => .list texts
  | none => .opaqueBytes (values.headD [])

def collect (received : Received) : List (String × RawHeader) :=
  received.map fun (name, values) => (name, collectValues values)

end Gatehouse.Wire
