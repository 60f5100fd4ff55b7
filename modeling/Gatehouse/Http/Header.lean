import Gatehouse.Text.AsciiCase

/-!
# Headers

Names match in any ASCII letter case. Request headers keep the order in which names came first and
the spelling they came with; response headers are known by their names in lower case.
-/
namespace Gatehouse

/-- A name with its value. -/
abbrev Header := String × String

namespace Headers

def requestId : String := "x-request-id"

/-- Gives a header its value, in place when the name is there in some spelling. -/
def set (name value : String) : List Header → List Header
  | [] => [(name, value)]
  | (other, old) :: rest =>
    if Text.sameName other name then (other, value) :: rest
    else (other, old) :: set name value rest

/-- The value of the first header of that name. -/
def find? (headers : List Header) (name : String) : Option String :=
  (headers.find? fun header => Text.sameName header.1 name).map (·.2)

/-- The headers of a request: the content type, the caller's headers, then the request id. Later
values win. -/
def merge (overrides : List Header) (ambient : Option String) : List Header :=
  let merged := overrides.foldl (fun headers header => set header.1 header.2 headers)
    [("Content-Type", "application/json")]
  match ambient with
  | some id => set requestId id merged
  | none => merged

end Headers

/-- The value of a response header as it came: one text, several, or bytes that are no text. -/
inductive RawHeader
  | text (value : String)
  | list (values : List String)
  | opaqueBytes (bytes : List UInt8)

namespace RawHeader

/-- The text of a header, with several values joined. -/
def text? : RawHeader → Option String
  | .text value => some value
  | .list values => some (", ".intercalate values)
  | .opaqueBytes _ => none

end RawHeader

namespace Headers

/-- Gives a name its value, in place when it is there. -/
def put (name value : String) : List Header → List Header
  | [] => [(name, value)]
  | (other, old) :: rest =>
    if other = name then (name, value) :: rest else (other, old) :: put name value rest

/-- The headers that have a text, by name in lower case; the last value of a name wins. -/
def normalize (raw : List (String × RawHeader)) : List Header :=
  raw.foldl (fun headers entry =>
    match entry.2.text? with
    | some value => put (Text.lowered entry.1) value headers
    | none => headers) []

/-- The value of a name in any spelling. -/
def lookup (headers : List Header) (name : String) : Option String :=
  List.lookup (Text.lowered name) headers

end Headers

end Gatehouse
