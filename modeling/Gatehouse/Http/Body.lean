import Gatehouse.Json.Decoder

/-!
# Response bodies

A body is read as JSON of the wanted type. An empty one stands for null, and one that is no such
JSON for its own text, where the type admits that.
-/
namespace Gatehouse.Body

/-- The value of a body, or why its JSON is none. -/
def decode {α : Type} (decoder : Json.Decoder α) (body : List UInt8) : Except Json.Error α :=
  if body.isEmpty then
    match decoder.ofNull with
    | .ok value => .ok value
    | .error cause => .error ⟨cause, none⟩
  else
    match Json.whole decoder.read body with
    | .ok value => .ok value
    | .error error =>
      match decoder.ofText (lenientText body) with
      | some value => .ok value
      | none => .error error

/-- What an error body holds: its JSON, else its text, and nothing when it is empty. -/
def ofError (body : List UInt8) : Option Json :=
  if body.isEmpty then none
  else
    match Json.read body with
    | .ok value => some value
    | .error _ => some (.string (lenientText body))

end Gatehouse.Body
